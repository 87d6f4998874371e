import ConnectPy.StatusWireProofs

/-! # The handler's trailers on the wire

    The response trailers of a handler reach the client in four encodings: as
    `trailer-` headers (Connect unary, on success and on errors), in the JSON of
    the end message (Connect streaming), as HTTP trailers (gRPC) and as trailer
    lines (gRPC-Web).

    Whatever the encoding, the client adds pairs to the trailers of its ambient
    `ResponseMetadata`.  `received_of_groups` says when those pairs are the
    handler's, next to names of the protocol; `trailers_arrive` collects the four
    encodings. -/

namespace ConnectTrailersWire

open Utf8 (Bytes)
open Framing Resumable OrderedDict
open ConnectErrors ConnectPlatform ConnectHeaders ConnectWireErrors ConnectGrpcStatus
open ConnectEnvelope ConnectGrammar ConnectEndMessage ConnectWriter ConnectStatusWire

variable {p : Platform}

/-! ## What the server writes into the headers -/

/-- The name under which a unary response carries a trailer. -/
def trailerName (key : String) : String := "trailer-" ++ key

/-- `_add_context_headers`. -/
def addContextHeaders (headers : List (String × String))
    (responseHeaders responseTrailers : Headers p) : List (String × String) :=
  headers ++ responseHeaders.allitems
    ++ responseTrailers.allitems.map fun e => (trailerName e.1, e.2)

/-- The headers of `_UnaryResponse.send`. -/
def unaryHeaders (codecName compressionName : String) (responseHeaders responseTrailers : Headers p) :
    List (String × String) :=
  addContextHeaders
    [("content-type", "application/" ++ codecName), ("content-encoding", compressionName),
      ("vary", "Accept-Encoding")]
    responseHeaders responseTrailers

/-- The headers of `_handle_error` for the Connect protocol. -/
def errorHeaders (exc : Exc) (responseHeaders responseTrailers : Headers p) :
    List (String × String) :=
  match exc with
  | .httpError e => addContextHeaders e.headers responseHeaders responseTrailers
  | _ => addContextHeaders [("content-type", "application/json")] responseHeaders responseTrailers

/-- `connectrpc._protocol_server.ServerProtocol`. -/
inductive ServerProtocol where
  | connect | grpc | grpcWeb
  deriving DecidableEq, Repr

/-- `content_type` of a stream. -/
def ServerProtocol.contentType (codecName : String) : ServerProtocol → String
  | .connect => "application/connect+" ++ codecName
  | .grpc => "application/grpc+" ++ codecName
  | .grpcWeb => "application/grpc-web+" ++ codecName

/-- `compression_header_name`. -/
def ServerProtocol.compressionHeaderName : ServerProtocol → String
  | .connect => "connect-content-encoding"
  | .grpc => "grpc-encoding"
  | .grpcWeb => "grpc-encoding"

/-- The headers of `_StreamResponse.send_headers`. -/
def streamHeaders (protocol : ServerProtocol) (codecName compressionName : String)
    (responseHeaders : Headers p) : List (String × String) :=
  [("content-type", protocol.contentType codecName),
    (protocol.compressionHeaderName, compressionName)] ++ responseHeaders.allitems

/-- Header pairs as HTTP delivers them: names have no case. -/
def onWire (p : Platform) (headers : List (String × String)) : List (String × String) :=
  headers.map fun e => (p.lower e.1, e.2)

/-! ## What the client has afterwards -/

/-- A name of the gRPC protocol. -/
def isGrpcKey (key : String) : Bool := "grpc-".toList.isPrefixOf key.toList

/-- `trailers.allitems()` of the ambient metadata, without the names of gRPC. -/
def received (response : Option (ResponseMetadata p)) : List (String × String) :=
  match response with
  | none => []
  | some r => r.getTrailers.allitems.filter fun e => !isGrpcKey e.1

/-- Trailers for which all encodings are transparent. -/
structure Deliverable (t : Headers p) : Prop where
  token    : ∀ e ∈ t.allitems, isToken e.1 = true
  notGrpc  : ∀ e ∈ t.allitems, isGrpcKey e.1 = false
  value    : ∀ e ∈ t.allitems, isFieldValue e.2 = true
  stripped : ∀ e ∈ t.allitems, Utf8.Stripped e.2

theorem Deliverable.clean {t : Headers p} (ht : Deliverable t) : Clean t :=
  fun e he => ⟨ht.token e he, ht.value e he⟩

/-- Without names of gRPC nothing is left out. -/
theorem Deliverable.filter {t : Headers p} (ht : Deliverable t) :
    t.allitems.filter (fun e => !isGrpcKey e.1) = t.allitems := by
  rw [List.filter_eq_self]
  intro e he
  rw [ht.notGrpc e he]
  rfl

/-- What is received depends on the multimap of the trailers only. -/
theorem received_of_groups {r : ResponseMetadata p} {m : Multimap String String}
    (h : r.getTrailers.groups = m) :
    received (some r) = (Multimap.allitems m).filter fun e => !isGrpcKey e.1 := by
  rw [received, Headers.allitems_eq, h]

/-- The multimap of the handler's trailers is received as these. -/
theorem received_eq {r : ResponseMetadata p} {t : Headers p} (ht : Deliverable t)
    (h : r.getTrailers.groups = t.groups) : received (some r) = t.allitems := by
  rw [received_of_groups h, ← t.allitems_eq, ht.filter]

/-! ## Names on the wire -/

theorem trailerName_injective (a b : String) (h : trailerName a = trailerName b) : a = b := by
  have hl := congrArg String.toList h
  rw [trailerName, trailerName, String.toList_append, String.toList_append] at hl
  exact String.toList_inj.mp (List.append_cancel_left hl)

theorem isTrailerKey_trailerName (key : String) : isTrailerKey (trailerName key) = true := by
  rw [isTrailerKey, trailerName, String.toList_append]
  exact List.isPrefixOf_iff_prefix.mpr (List.prefix_append _ _)

/-- Only one `trailer-` is taken off, also from a trailer whose own name has it. -/
theorem removePrefix_trailerName (key : String) :
    removePrefix "trailer-" (trailerName key) = key :=
  removePrefix_append "trailer-" key

theorem ascii_of_isToken {s : String} (h : isToken s = true) :
    s.toList.all Utf8.isAscii = true := by
  rw [List.all_eq_true]
  intro c hc
  have hv := isToken_visible h c hc
  rw [Utf8.isAscii, decide_eq_true_eq]
  omega

theorem asciiLower_append (s t : String) :
    asciiLower (s ++ t) = asciiLower s ++ asciiLower t := by
  apply String.toList_inj.mp
  simp only [asciiLower, String.toList_append, String.toList_ofList, List.map_append]

/-- A lowercase token stays lowercase behind the prefix. -/
theorem lower_trailerName {key : String} (htoken : isToken key = true)
    (hlower : p.lower key = key) : p.lower (trailerName key) = trailerName key := by
  have hkey : asciiLower key = key :=
    (p.lower_ascii key (ascii_of_isToken htoken)).symm.trans hlower
  refine p.lower_of_ascii ?_ ?_
  · rw [trailerName, String.toList_append, List.all_append, ascii_of_isToken htoken]
    decide
  · rw [trailerName, asciiLower_append, hkey]
    congr 1

/-! ## Connect unary -/

/-- The trailers that `handle_response_headers` finds among header pairs. -/
theorem splitHeaders_trailers (items : List (String × String)) :
    (splitHeaders (p := p) items).2.groups
      = Multimap.ofItems ((items.filter fun e => isTrailerKey e.1).map fun e =>
          (p.lower (removePrefix "trailer-" e.1), e.2)) := by
  suffices H : ∀ acc : Headers p × Headers p,
      (items.foldl (fun acc e =>
        if isTrailerKey e.1 then (acc.1, acc.2.add (removePrefix "trailer-" e.1) e.2)
        else (acc.1.add e.1 e.2, acc.2)) acc).2.groups
      = Multimap.addAll acc.2.groups ((items.filter fun e => isTrailerKey e.1).map fun e =>
          (p.lower (removePrefix "trailer-" e.1), e.2)) from H (.empty p, .empty p)
  induction items with
  | nil => exact fun acc => rfl
  | cons e items ih =>
      intro acc
      rw [List.foldl_cons, ih, List.filter_cons]
      cases hk : isTrailerKey e.1 with
      | true =>
          rw [if_pos rfl, if_pos rfl, List.map_cons, Multimap.addAll_cons, Headers.groups_add]
      | false => rw [if_neg Bool.false_ne_true, if_neg Bool.false_ne_true]

/-- The trailers of a fresh ambient response are those found among the headers. -/
theorem handleResponseHeaders_fresh (status : Nat) (h : p.HTTPHeaders) :
    ∃ r, handleResponseHeaders (some (.fresh p)) status h = some r
      ∧ r.getTrailers.groups
        = Multimap.ofItems (((p.headerItems h).filter fun e => isTrailerKey e.1).map fun e =>
            (p.lower (removePrefix "trailer-" e.1), e.2)) := by
  refine ⟨_, rfl, ?_⟩
  rw [← splitHeaders_trailers, ResponseMetadata.getTrailers]
  dsimp only
  by_cases hn : (splitHeaders (p := p) (p.headerItems h)).2.nonempty = true
  · rw [if_pos hn]
    rfl
  · rw [if_neg hn, (Headers.nonempty_eq_false_iff _).mp (Bool.eq_false_iff.mpr hn)]
    rfl

/-- Headers among which there is no trailer. -/
def NoTrailer (headers : List (String × String)) : Prop :=
  ∀ e ∈ headers, isTrailerKey e.1 = false

/-- The headers of a response, as far as trailers are concerned. -/
theorem filter_onWire_addContextHeaders {static : List (String × String)}
    {responseHeaders t : Headers p} (hstatic : NoTrailer (onWire p static))
    (hheaders : NoTrailer responseHeaders.allitems) (ht : Deliverable t) :
    (onWire p (addContextHeaders static responseHeaders t)).filter (fun e => isTrailerKey e.1)
      = t.allitems.map fun e => (trailerName e.1, e.2) := by
  have hnone : ∀ {l : List (String × String)}, NoTrailer l →
      l.filter (fun e => isTrailerKey e.1) = [] := by
    intro l hl
    rw [List.filter_eq_nil_iff]
    intro e he
    rw [hl e he]
    exact Bool.false_ne_true
  have htrailers : onWire p (t.allitems.map fun e => (trailerName e.1, e.2))
      = t.allitems.map fun e => (trailerName e.1, e.2) := by
    rw [onWire, List.map_map]
    refine List.map_congr_left ?_
    intro e he
    rw [Function.comp_apply, lower_trailerName (ht.token e he) (t.allitems_lower e he)]
  rw [addContextHeaders, onWire, List.map_append, List.map_append, List.filter_append,
    List.filter_append]
  rw [show static.map (fun e => (p.lower e.1, e.2)) = onWire p static from rfl, hnone hstatic,
    responseHeaders.map_lower_allitems, hnone hheaders,
    show (t.allitems.map fun e => (trailerName e.1, e.2)).map (fun e => (p.lower e.1, e.2))
      = onWire p (t.allitems.map fun e => (trailerName e.1, e.2)) from rfl, htrailers]
  rw [List.nil_append, List.nil_append, List.filter_eq_self]
  intro e he
  obtain ⟨a, _, rfl⟩ := List.mem_map.mp he
  exact isTrailerKey_trailerName a.1

/-- **Trailers in headers.**  The client takes exactly the handler's trailers out
    of the headers of a unary response. -/
theorem received_contextHeaders {static : List (String × String)}
    {responseHeaders t : Headers p} (hstatic : NoTrailer (onWire p static))
    (hheaders : NoTrailer responseHeaders.allitems) (ht : Deliverable t) (status : Nat)
    {h : p.HTTPHeaders}
    (hd : p.Delivers (onWire p (addContextHeaders static responseHeaders t)) h) :
    received (handleResponseHeaders (some (.fresh p)) status h) = t.allitems := by
  obtain ⟨r, hr, hgroups⟩ := handleResponseHeaders_fresh status h
  have hitems : (p.headerItems h).filter (fun e => isTrailerKey e.1)
      = t.allitems.map fun e => (trailerName e.1, e.2) := by
    rw [p.headerItems_eq, hd, Multimap.filter_allitems_ofItems,
      filter_onWire_addContextHeaders hstatic hheaders ht, t.allitems_eq,
      Multimap.allitems_ofItems_map trailerName_injective]
  have hback : (t.allitems.map fun e => (trailerName e.1, e.2)).map
      (fun e => (p.lower (removePrefix "trailer-" e.1), e.2)) = t.allitems := by
    rw [List.map_map]
    refine Eq.trans (List.map_congr_left ?_) t.map_lower_allitems
    intro e _
    rw [Function.comp_apply, removePrefix_trailerName]
  rw [hitems, hback, t.allitems_eq, Multimap.ofItems_allitems] at hgroups
  rw [hr]
  exact received_eq ht hgroups

/-- The names decide, whatever the values are. -/
theorem noTrailer_static {static : List (String × String)} (names : List String)
    (hnames : static.map Prod.fst = names)
    (h : ∀ name ∈ names, name.toList.all Utf8.isAscii = true
      ∧ isTrailerKey (asciiLower name) = false) : NoTrailer (onWire p static) := by
  intro e he
  obtain ⟨a, ha, rfl⟩ := List.mem_map.mp he
  obtain ⟨hascii, hkey⟩ := h a.1 (hnames ▸ List.mem_map.mpr ⟨a, ha, rfl⟩)
  dsimp only
  rw [p.lower_ascii a.1 hascii]
  exact hkey

/-! ## Streams -/

/-- The ambient metadata a client has when the body of a stream begins: no
    trailers yet. -/
theorem start_of_stream (protocol : ServerProtocol) (codecName compressionName : String)
    {responseHeaders : Headers p} (hheaders : NoTrailer responseHeaders.allitems) (status : Nat)
    {h : p.HTTPHeaders}
    (hd : p.Delivers (onWire p (streamHeaders protocol codecName compressionName
      responseHeaders)) h) :
    ∃ r, handleResponseHeaders (some (.fresh p)) status h = some r
      ∧ r.getTrailers.groups = Dict.empty := by
  obtain ⟨r, hr, hgroups⟩ := handleResponseHeaders_fresh status h
  have hnone : (p.headerItems h).filter (fun e => isTrailerKey e.1) = [] := by
    have hstatic : NoTrailer (onWire p [("content-type", protocol.contentType codecName),
        (protocol.compressionHeaderName, compressionName)]) := by
      refine noTrailer_static ["content-type", protocol.compressionHeaderName] rfl ?_
      cases protocol <;> decide
    rw [p.headerItems_eq, hd, Multimap.filter_allitems_ofItems]
    have hfilter : (onWire p (streamHeaders protocol codecName compressionName
        responseHeaders)).filter (fun e => isTrailerKey e.1) = [] := by
      rw [List.filter_eq_nil_iff]
      intro e he
      rw [streamHeaders, onWire, List.map_append, responseHeaders.map_lower_allitems,
        List.mem_append] at he
      have hkey : isTrailerKey e.1 = false := he.elim (hstatic e) (hheaders e)
      rw [hkey]
      exact Bool.false_ne_true
    rw [hfilter]
    rfl
  rw [hnone] at hgroups
  exact ⟨r, hr, hgroups⟩

/-- Trailers handed over to ambient metadata without trailers. -/
theorem received_handleResponseTrailers {r : ResponseMetadata p}
    (hr : r.getTrailers.groups = Dict.empty) {added : List (String × String)}
    (hlower : ∀ e ∈ added, p.lower e.1 = e.1) :
    received (handleResponseTrailers (some r) ⟨added, none⟩).1
      = (Multimap.allitems (Multimap.ofItems added)).filter fun e => !isGrpcKey e.1 := by
  obtain ⟨r', hr', hgroups, -⟩ := getTrailers_handleResponseTrailers r added
  have hid : added.map (fun e => (p.lower e.1, e.2)) = added := by
    refine Eq.trans (List.map_congr_left ?_) (List.map_id' added)
    intro e he
    rw [hlower e he]
  rw [hr']
  refine received_of_groups ?_
  rw [hgroups, Headers.groups_addAll, hr, hid]
  rfl

/-- **Connect streaming**: the metadata of the end message. -/
theorem received_withTrailers {r : ResponseMetadata p}
    (hr : r.getTrailers.groups = Dict.empty) {t : Headers p} (ht : Deliverable t) :
    received (withTrailers (some r) t) = t.allitems := by
  rw [withTrailers]
  by_cases hn : t.nonempty = true
  · rw [if_pos hn, received_handleResponseTrailers hr t.allitems_lower, t.allitems_eq,
      Multimap.ofItems_allitems, ← t.allitems_eq, ht.filter]
  · -- Empty trailers are not put into the end message.
    have hempty := (t.nonempty_eq_false_iff).mp (Bool.eq_false_iff.mpr hn)
    rw [if_neg hn]
    exact received_eq ht (hr.trans hempty.symm)

/-- The names of the status are names of gRPC. -/
theorem isGrpcKey_statusAssignments {outcome : Option ConnectWireError} {a : String × String}
    (ha : a ∈ statusAssignments p outcome) : isGrpcKey a.1 = true := by
  rcases statusAssignments_name ha with h | h | h <;> rw [h] <;> decide

/-- Next to the status the trailers of the handler are all there is. -/
theorem filter_statusTrailers {t : Headers p} (ht : Deliverable t)
    (outcome : Option ConnectWireError) :
    (statusTrailers t outcome).allitems.filter (fun e => !isGrpcKey e.1) = t.allitems := by
  have hstatus : ∀ a ∈ statusAssignments p outcome, (!isGrpcKey a.1) = false := by
    intro a ha
    rw [isGrpcKey_statusAssignments ha]
    rfl
  rw [Headers.allitems_eq, groups_statusTrailers,
    Multimap.filter_allitems_setAll (fun k => !isGrpcKey k) hstatus, ← t.allitems_eq, ht.filter]

/-- A line of a deliverable trailer is read as that trailer. -/
theorem readItem_deliverable {t : Headers p} (ht : Deliverable t) :
    t.allitems.map (readItem p) = t.allitems := by
  refine Eq.trans (List.map_congr_left ?_) (List.map_id' t.allitems)
  intro e he
  rw [readItem, t.allitems_lower e he, Utf8.strip_space_append (ht.stripped e he)]

/-- Selecting names and reading lines commute. -/
theorem filter_readItem {items : List (String × String)}
    (hlower : ∀ e ∈ items, p.lower e.1 = e.1) (q : String → Bool) :
    (items.map (readItem p)).filter (fun e => q e.1)
      = (items.filter fun e => q e.1).map (readItem p) := by
  rw [List.filter_map]
  congr 1
  refine List.filter_congr ?_
  intro e he
  rw [Function.comp_apply, readItem, hlower e he]

/-- The pairs of a container that holds given trailers, handed over. -/
theorem received_container {r : ResponseMetadata p} (hr : r.getTrailers.groups = Dict.empty)
    {items : List (String × String)} (hlower : ∀ e ∈ items, p.lower e.1 = e.1)
    {h : p.HTTPHeaders} (hc : p.content h = Multimap.ofItems items) :
    received (handleResponseTrailers (some r) (httpPairs h)).1
      = Multimap.allitems (Multimap.ofItems (items.filter fun e => !isGrpcKey e.1)) := by
  have hitems : p.headerItems h = Multimap.allitems (Multimap.ofItems items) := by
    rw [p.headerItems_eq, hc]
  have hlower' : ∀ e ∈ p.headerItems h, p.lower e.1 = e.1 := by
    intro e he
    rw [hitems] at he
    exact hlower e (Multimap.mem_of_mem_allitems_ofItems he)
  rw [httpPairs, received_handleResponseTrailers hr hlower', hitems, Multimap.ofItems_allitems,
    Multimap.filter_allitems_ofItems fun k => !isGrpcKey k]

/-- **gRPC**: HTTP trailers next to the status. -/
theorem received_http {r : ResponseMetadata p} (hr : r.getTrailers.groups = Dict.empty)
    {t : Headers p} (ht : Deliverable t) {outcome : Option ConnectWireError} {h : p.HTTPHeaders}
    (hd : p.Delivers (grpcEnd t outcome).allitems h) :
    received (handleResponseTrailers (some r) (httpPairs h)).1 = t.allitems := by
  rw [received_container hr (Headers.allitems_lower _) hd, grpcEnd, filter_statusTrailers ht,
    t.allitems_eq, Multimap.ofItems_allitems]

/-- **gRPC-Web**: trailer lines next to the status. -/
theorem received_lines {r : ResponseMetadata p} (hr : r.getTrailers.groups = Dict.empty)
    {t : Headers p} (ht : Deliverable t) {outcome : Option ConnectWireError} {h : p.HTTPHeaders}
    (hc : p.content h
      = Multimap.ofItems ((statusTrailers t outcome).allitems.map (readItem p))) :
    received (handleResponseTrailers (some r) (httpPairs h)).1 = t.allitems := by
  have hl : ∀ e ∈ (statusTrailers t outcome).allitems, p.lower e.1 = e.1 :=
    Headers.allitems_lower _
  have hlower : ∀ e ∈ (statusTrailers t outcome).allitems.map (readItem p),
      p.lower e.1 = e.1 := by
    intro e he
    obtain ⟨a, ha, rfl⟩ := List.mem_map.mp he
    exact p.lower_idem a.1
  rw [received_container hr hlower hc, filter_readItem hl fun k => !isGrpcKey k,
    filter_statusTrailers ht, readItem_deliverable ht, t.allitems_eq, Multimap.ofItems_allitems]

/-- Completing a response from a known status hands its trailers over. -/
theorem handleGrpcComplete_response (r : Reader p) {t : p.HTTPHeaders} {status : String}
    (h : p.getHeader t "grpc-status" = some status) (headers : p.HTTPHeaders)
    (error : Option ConnectError) :
    (handleGrpcComplete r t headers error).1.response
      = (handleResponseTrailers r.response (httpPairs t)).1 := by
  rw [handleGrpcComplete, h]
  dsimp only
  rw [readStatus, handleResponseTrailers_http, h]

/-! ## All four encodings -/

section Streams

variable {α : Type} {w : EnvelopeWriter α} {readMaxBytes : Option Int} {ms : List α} {body : Bytes}
  {r : ResponseMetadata p}

/-- What a completed Connect stream leaves in the ambient metadata. -/
theorem received_connect (hw : ∀ c ∈ w.compression, Lossless c)
    (hms : Messages (w.reader readMaxBytes) ms body) (hr : r.getTrailers.groups = Dict.empty)
    {t : Headers p} (ht : Deliverable t) {outcome : Option ConnectWireError}
    (hfits : Fits w readMaxBytes (endMessageData t outcome))
    (hjson : p.jsonLoads (endMessageData t outcome) = .ok (endMessage t outcome)) :
    ∃ e, connectEnd w t outcome = .ok e ∧ ∀ (response : Response p) (chunks : List Bytes),
      chunks.flatten = body ++ e →
      received (readResponse .connect (w.reader readMaxBytes) (Reader.new (some r)) response
        chunks).reader.response = t.allitems := by
  obtain ⟨f, hf, hlegal, hx, hframe⟩ := handleFrame_connectEnd hw hfits hjson
    (afterMessages .connect (start (some r)) ms)
  refine ⟨f.bytes, hf, ?_⟩
  intro response chunks hchunks
  have hdrain := drain_start_frame hms hlegal hx (some r)
  rw [hframe, ← hchunks] at hdrain
  have hstart : (afterMessages .connect (start (some r)) ms).response = some r :=
    afterMessages_response .connect ms _
  cases outcome with
  | none =>
      -- The stream ended well, and completing it changes nothing.
      have hblock := withBlock_of_drain hdrain (Or.inl rfl)
      rw [readResponse, hblock]
      dsimp only
      rw [handleResponseComplete, if_neg (by rintro ⟨⟩), hstart]
      exact received_withTrailers hr ht
  | some e =>
      -- The error is raised from the end message, after its metadata was read.
      have hblock := withBlock_of_drain_error hdrain
      rw [readResponse, hblock]
      dsimp only
      rw [hstart]
      exact received_withTrailers hr ht

/-- What a completed gRPC stream leaves there. -/
theorem received_grpc (hms : Messages (w.reader readMaxBytes) ms body)
    (hr : r.getTrailers.groups = Dict.empty) {t : Headers p} (ht : Deliverable t)
    {outcome : Option ConnectWireError} {response : Response p}
    (hd : p.Delivers (grpcEnd t outcome).allitems response.trailers) {chunks : List Bytes}
    (hchunks : chunks.flatten = body) :
    received (readResponse .grpc (w.reader readMaxBytes) (Reader.new (some r)) response
      chunks).reader.response = t.allitems := by
  have hblock : withBlock .grpc (w.reader readMaxBytes) (Reader.new (some r)) chunks
      = ⟨ms, ⟨afterMessages .grpc (start (some r)) ms, []⟩, none⟩ := by
    refine withBlock_of_drain ?_ (Or.inr (afterMessages_nextMessageLength .grpc ms _))
    rw [hchunks]
    exact drain_start_messages hms (some r)
  have hstatus := (shows_of_delivers hd).status keepsStatus_id
  rw [readResponse, hblock]
  dsimp only
  rw [handleResponseComplete, handleGrpcComplete_response _ hstatus, afterMessages_response]
  exact received_http hr ht hd

/-- What a completed gRPC-Web stream leaves there. -/
theorem received_grpcWeb (hw : ∀ c ∈ w.compression, Lossless c)
    (hms : Messages (w.reader readMaxBytes) ms body) (hr : r.getTrailers.groups = Dict.empty)
    {t : Headers p} (ht : Deliverable t) {outcome : Option ConnectWireError}
    (hfits : Fits w readMaxBytes (trailerData t outcome)) :
    ∃ e, webEnd w t outcome = .ok e ∧ ∀ (response : Response p) (chunks : List Bytes),
      chunks.flatten = body ++ e →
      received (readResponse .grpcWeb (w.reader readMaxBytes) (Reader.new (some r)) response
        chunks).reader.response = t.allitems := by
  obtain ⟨f, trailers, hf, hlegal, hx, hframe, hcontent⟩ := handleFrame_lines hw
    (statusTrailers_clean ht.clean outcome) hfits (afterMessages .grpcWeb (start (some r)) ms)
  refine ⟨f.bytes, hf, ?_⟩
  intro response chunks hchunks
  -- No trailer was read before the end message.
  have hempty : p.content (afterMessages .grpcWeb (start (some r)) ms).trailers = Dict.empty := by
    rw [afterMessages_trailers]
    exact p.content_empty
  rw [hempty] at hcontent
  have hdrain := drain_start_frame hms hlegal hx (some r)
  rw [hframe, ← hchunks] at hdrain
  have hblock := withBlock_of_drain hdrain (Or.inl rfl)
  have hstatus := (shows_of_lines hcontent).status keepsStatus_readValue
  rw [readResponse, hblock]
  dsimp only
  rw [handleResponseComplete, handleGrpcComplete_response _ hstatus, afterMessages_response]
  exact received_lines hr ht hcontent

end Streams

/-- **The handler's trailers arrive**, in all four encodings: in the headers of a
    unary response or of an error response, and at the end of a stream in each of
    the three protocols, over any chunks and with any outcome. -/
theorem trailers_arrive (t responseHeaders : Headers p) (ht : Deliverable t)
    (hheaders : NoTrailer responseHeaders.allitems) :
    (∀ (codecName compressionName : String) (status : Nat) (h : p.HTTPHeaders),
      p.Delivers (onWire p (unaryHeaders codecName compressionName responseHeaders t)) h →
      received (handleResponseHeaders (some (.fresh p)) status h) = t.allitems)
    ∧ (∀ (exc : Exc) (status : Nat) (h : p.HTTPHeaders),
      (∀ e, exc = .httpError e → NoTrailer (onWire p e.headers)) →
      p.Delivers (onWire p (errorHeaders exc responseHeaders t)) h →
      received (handleResponseHeaders (some (.fresh p)) status h) = t.allitems)
    ∧ ∀ (α : Type) (protocol : ServerProtocol) (w : EnvelopeWriter α) (compressionName : String)
        (readMaxBytes : Option Int) (response : Response p) (ms : List α) (body : Bytes)
        (outcome : Option ConnectWireError),
      (∀ c ∈ w.compression, Lossless c) →
      Messages (w.reader readMaxBytes) ms body →
      p.Delivers (onWire p (streamHeaders protocol w.codec.name compressionName
        responseHeaders)) response.headers →
      let current := handleResponseHeaders (some (.fresh p)) 200 response.headers
      match protocol with
      | .connect =>
          Fits w readMaxBytes (endMessageData t outcome) →
          p.jsonLoads (endMessageData t outcome) = .ok (endMessage t outcome) →
          ∃ e, connectEnd w t outcome = .ok e ∧ ∀ chunks : List Bytes,
            chunks.flatten = body ++ e →
            received (readResponse .connect (w.reader readMaxBytes) (Reader.new current) response
              chunks).reader.response = t.allitems
      | .grpc =>
          p.Delivers (grpcEnd t outcome).allitems response.trailers →
          ∀ chunks : List Bytes, chunks.flatten = body →
            received (readResponse .grpc (w.reader readMaxBytes) (Reader.new current) response
              chunks).reader.response = t.allitems
      | .grpcWeb =>
          Fits w readMaxBytes (trailerData t outcome) →
          ∃ e, webEnd w t outcome = .ok e ∧ ∀ chunks : List Bytes,
            chunks.flatten = body ++ e →
            received (readResponse .grpcWeb (w.reader readMaxBytes) (Reader.new current) response
              chunks).reader.response = t.allitems := by
  refine ⟨?_, ?_, ?_⟩
  · intro codecName compressionName status h hd
    -- What the server adds to a unary response has no trailer prefix.
    refine received_contextHeaders (noTrailer_static
      ["content-type", "content-encoding", "vary"] rfl ?_) hheaders ht status hd
    decide
  · intro exc status h hexc hd
    -- An `HTTPError` brings headers of its own, any other error a content type.
    have hjson : NoTrailer (onWire p [("content-type", "application/json")]) :=
      noTrailer_static ["content-type"] rfl (by decide)
    cases exc with
    | httpError e => exact received_contextHeaders (hexc e rfl) hheaders ht status hd
    | connectError e => exact received_contextHeaders hjson hheaders ht status hd
    | exception cls text => exact received_contextHeaders hjson hheaders ht status hd
    | cancelled origin => exact received_contextHeaders hjson hheaders ht status hd
    | baseException name => exact received_contextHeaders hjson hheaders ht status hd
  · intro α protocol w compressionName readMaxBytes response ms body outcome hw hms hd
    -- The headers of a stream leave the ambient trailers empty.
    obtain ⟨r, hr, hgroups⟩ := start_of_stream protocol w.codec.name compressionName hheaders 200 hd
    rw [hr]
    cases protocol with
    | connect =>
        intro current hfits hjson
        obtain ⟨e, he, hread⟩ := received_connect hw hms hgroups ht hfits hjson
        exact ⟨e, he, hread response⟩
    | grpc =>
        intro current hdt chunks hchunks
        exact received_grpc hms hgroups ht hdt hchunks
    | grpcWeb =>
        intro current hfits
        obtain ⟨e, he, hread⟩ := received_grpcWeb hw hms hgroups ht hfits
        exact ⟨e, he, hread response⟩

/-- Two values under one name, and a name that has the prefix of unary trailers. -/
def hatTrailers : Headers Platform.plain :=
  .ofItems Platform.plain [("x", "a:b, c"), ("trailer-y", ""), ("X", "d")]

theorem hatTrailers_arrive :
    received (handleResponseHeaders (some (.fresh Platform.plain)) 200
        (Multimap.ofItems (onWire Platform.plain
          (unaryHeaders "proto" "identity" (.empty Platform.plain) hatTrailers))))
      = [("x", "a:b, c"), ("x", "d"), ("trailer-y", "")] :=
  (trailers_arrive hatTrailers (.empty Platform.plain)
    ⟨by decide, by decide, by decide, by decide⟩ nofun).1 "proto" "identity" 200 _ rfl

/-- A gRPC-Web response with no headers of its own. -/
def webResponse : Response Platform.plain :=
  ⟨Multimap.ofItems (onWire Platform.plain
    (streamHeaders .grpcWeb "raw" "identity" (.empty Platform.plain))), Dict.empty⟩

/-- A control character in its value, on one line and with no white space around it. -/
def controlTrailers : Headers Platform.plain := .ofItems Platform.plain [("x", "a\x01b")]

/-- The client's headers refuse such a value where the trailer lines are read, and the
    client is left without any trailer. -/
theorem control_character_lost :
    (∀ e ∈ controlTrailers.allitems, isToken e.1 = true ∧ isGrpcKey e.1 = false
      ∧ '\r' ∉ e.2.toList ∧ '\n' ∉ e.2.toList ∧ Utf8.Stripped e.2)
    ∧ ∃ e, webEnd EnvelopeWriter.raw controlTrailers none = .ok e
      ∧ received (readResponse .grpcWeb (EnvelopeWriter.raw.reader none)
          (Reader.new (handleResponseHeaders (some (.fresh Platform.plain)) 200
            webResponse.headers)) webResponse [e]).reader.response
        ≠ controlTrailers.allitems := by
  refine ⟨by decide, ?_⟩
  have hsmall : (trailerData controlTrailers none).length < 0x100000000 := by decide +kernel
  have hlines : Utf8.splitCrLf (trailerData controlTrailers none)
      = [[0x78, 0x3A, 0x20, 0x61, 0x01, 0x62], Utf8.encode "grpc-status: 0", []] := by
    decide +kernel
  have hraise : (addTrailerLines Platform.plain.emptyHeaders
      (Utf8.splitCrLf (trailerData controlTrailers none))).2
      = some (.exception .valueError "invalid header") := by
    rw [hlines]
    rfl
  have hnone : NoTrailer (Headers.empty Platform.plain).allitems := nofun
  have hdelivers : Platform.plain.Delivers (onWire Platform.plain (streamHeaders .grpcWeb "raw"
      "identity" (.empty Platform.plain))) webResponse.headers := rfl
  obtain ⟨r, hr, hgroups⟩ := start_of_stream .grpcWeb "raw" "identity" hnone 200 hdelivers
  obtain ⟨s, hblock, hs⟩ := withBlock_trailerLines_error hsmall hraise (some r)
  refine ⟨Frame.bytes ⟨0x80, _, hsmall⟩, pack_ok 0x80 hsmall, ?_⟩
  rw [hr, readResponse, hblock]
  show received s.response ≠ _
  rw [hs, received_of_groups hgroups]
  decide

end ConnectTrailersWire
