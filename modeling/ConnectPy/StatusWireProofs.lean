import ConnectPy.EnvelopeWriterProofs

/-! # The status on the wire — from the server's outcome to the client's error

    The server ends a call with an outcome, success or an error, next to the
    trailers of the handler.  The client looks at three names.  `Shows` says what
    a container that has crossed the wire has under a name: what the server left
    there, as HTTP delivers it (gRPC) or as a trailer line is read (gRPC-Web).

    From this follow both questions about a status: whether it arrives as it was
    (`status_survives`), and whether the handler's own trailers can change it
    (`status_unaffected_iff`).  They can where the server assigns nothing to a name the
    client reads, and in gRPC-Web where their text breaks the lines. -/

namespace ConnectStatusWire

open Utf8 (Bytes)
open Framing Resumable OrderedDict
open ConnectErrors ConnectPlatform ConnectHeaders ConnectWireErrors ConnectGrpcStatus
open ConnectEnvelope ConnectGrammar ConnectEndMessage ConnectWriter

variable {p : Platform}

/-! ## Completing a response from a known status -/

theorem handleResponseTrailers_http (current : Option (ResponseMetadata p))
    (t : p.HTTPHeaders) : (handleResponseTrailers current (httpPairs t)).2 = none :=
  handleResponseTrailers_ok current (p.headerItems t)

theorem readStatus_some (r : Reader p) {t : p.HTTPHeaders} {status : String}
    (h : p.getHeader t "grpc-status" = some status) (error : Option ConnectError) :
    (readStatus r t error).2 = raiseStatus t status error := by
  rw [readStatus, handleResponseTrailers_http, h]

/-- A status in the trailers is the one that is read. -/
theorem handleGrpcComplete_some (r : Reader p) {t : p.HTTPHeaders} {status : String}
    (h : p.getHeader t "grpc-status" = some status) (headers : p.HTTPHeaders)
    (error : Option ConnectError) :
    (handleGrpcComplete r t headers error).2 = raiseStatus t status error := by
  rw [handleGrpcComplete, h]
  exact readStatus_some r h error

/-- Without a message and without a status in the trailers the headers are read. -/
theorem handleGrpcComplete_headers {r : Reader p} (hr : r.readMessage = false)
    {t headers : p.HTTPHeaders} (ht : p.getHeader t "grpc-status" = none) {status : String}
    (h : p.getHeader headers "grpc-status" = some status) (error : Option ConnectError) :
    (handleGrpcComplete r t headers error).2 = raiseStatus headers status error := by
  rw [handleGrpcComplete, ht]
  dsimp only
  rw [hr, if_neg Bool.false_ne_true]
  exact readStatus_some r h error

/-! ## What the client is shown -/

/-- A container has under every name the first value the server left there, as
    the wire renders it. -/
def Shows (h : p.HTTPHeaders) (t : Headers p) (outcome : Option ConnectWireError)
    (render : String → String) : Prop :=
  ∀ name, p.lower name = name →
    p.getHeader h name = (Multimap.first? (statusTrailers t outcome).groups name).map render

/-- HTTP delivers the trailers as they are. -/
theorem shows_of_delivers {h : p.HTTPHeaders} {t : Headers p}
    {outcome : Option ConnectWireError}
    (hd : p.Delivers (grpcEnd t outcome).allitems h) : Shows h t outcome id := by
  intro name hname
  rw [getHeader_of_delivers_headers hd hname, Option.map_id, id]
  rfl

/-- The value of a trailer line as it is read. -/
def readValue (v : String) : String := Utf8.strip (" " ++ v)

/-- The trailers read from lines, by name. -/
theorem lookup_readItem {items : List (String × String)}
    (hl : ∀ e ∈ items, p.lower e.1 = e.1) (name : String) :
    lookup name (items.map (readItem p)) = (lookup name items).map readValue := by
  induction items with
  | nil => rfl
  | cons e items ih =>
      obtain ⟨k, v⟩ := e
      have hk : p.lower k = k := hl (k, v) (by simp)
      have ih' := ih fun a ha => hl a (List.mem_cons_of_mem _ ha)
      rw [List.map_cons, readItem, hk]
      by_cases h : k = name
      · subst h
        rw [lookup_cons_self, lookup_cons_self]
        rfl
      · rw [lookup_cons_ne h, lookup_cons_ne h, ih']

/-- Trailer lines show the trailers with their values stripped. -/
theorem shows_of_lines {h : p.HTTPHeaders} {t : Headers p} {outcome : Option ConnectWireError}
    (hc : p.content h = Multimap.ofItems ((statusTrailers t outcome).allitems.map (readItem p))) :
    Shows h t outcome readValue := by
  intro name hname
  rw [p.getHeader_eq, hc, hname, Multimap.first?_ofItems,
    lookup_readItem (statusTrailers t outcome).allitems_lower, Multimap.first?_eq_lookup,
    ← Headers.allitems_eq]

/-- A rendering that keeps the texts the server puts out. -/
structure KeepsStatus (render : String → String) : Prop where
  zero   : render "0" = "0"
  code   : ∀ c : Code, render (connectStatusToGrpc c) = connectStatusToGrpc c
  base64 : ∀ data : Bytes, render (Base64.rstripPad (Base64.encode data))
    = Base64.rstripPad (Base64.encode data)
  quote  : ∀ message : String, render (Utf8.quote message) = Utf8.quote message

theorem keepsStatus_id : KeepsStatus id := ⟨rfl, fun _ => rfl, fun _ => rfl, fun _ => rfl⟩

/-- A quoted text has no space around it. -/
theorem stripped_quote (s : String) : Utf8.Stripped (Utf8.quote s) := by
  have hbyte : ∀ b : UInt8, (Utf8.quoteByte b).all (fun c => !Utf8.isSpace c) = true := by
    refine forall_byte ?_
    decide +kernel
  have hall : ∀ c ∈ (Utf8.quote s).toList, Utf8.isSpace c = false := by
    intro c hc
    rw [Utf8.quote, String.toList_ofList] at hc
    obtain ⟨b, -, hb⟩ := List.mem_flatMap.mp hc
    simpa using List.all_eq_true.mp (hbyte b) c hb
  exact ⟨fun c hc => hall c (List.mem_of_mem_head? hc),
    fun c hc => hall c (List.mem_of_mem_getLast? hc)⟩

theorem stripped_base64 (data : Bytes) :
    Utf8.Stripped (Base64.rstripPad (Base64.encode data)) := by
  have halphabet : ∀ n < 64, Utf8.isSpace (Base64.alphabet n) = false := by decide
  have hall : ∀ c ∈ (Base64.rstripPad (Base64.encode data)).toList, Utf8.isSpace c = false := by
    intro c hc
    rw [Base64.rstripPad_encode, String.toList_ofList] at hc
    obtain ⟨n, hn, rfl⟩ := Base64.encodeData_alphabet data c hc
    exact halphabet n hn
  exact ⟨fun c hc => hall c (List.mem_of_mem_head? hc),
    fun c hc => hall c (List.mem_of_mem_getLast? hc)⟩

theorem keepsStatus_readValue : KeepsStatus readValue where
  zero := Utf8.strip_space_append (by decide)
  code := by
    intro c
    refine Utf8.strip_space_append ?_
    cases c <;> decide
  base64 := fun data => Utf8.strip_space_append (stripped_base64 data)
  quote := fun message => Utf8.strip_space_append (stripped_quote message)

theorem Shows.status {h : p.HTTPHeaders} {t : Headers p} {outcome : Option ConnectWireError}
    {render : String → String} (hs : Shows h t outcome render) (hr : KeepsStatus render) :
    p.getHeader h "grpc-status"
      = some (outcome.elim "0" fun e => connectStatusToGrpc e.code) := by
  rw [hs _ (lower_grpcStatus p), statusTrailers_first?, lookup_status, Option.some_or,
    Option.map_some]
  cases outcome with
  | none => exact congrArg some hr.zero
  | some e => exact congrArg some (hr.code e.code)

theorem Shows.message {h : p.HTTPHeaders} {t : Headers p} {e : ConnectWireError}
    {render : String → String} (hs : Shows h t (some e) render) :
    p.getHeader h "grpc-message"
      = (if e.message ≠ "" then some (Utf8.quote e.message)
          else Multimap.first? t.groups "grpc-message").map render := by
  rw [hs _ (lower_grpcMessage p), statusTrailers_first?, lookup_message]
  split <;> rfl

theorem Shows.details {h : p.HTTPHeaders} {t : Headers p} {e : ConnectWireError}
    {render : String → String} (hs : Shows h t (some e) render) :
    p.getHeader h "grpc-status-details-bin"
      = (if e.details.isEmpty then Multimap.first? t.groups "grpc-status-details-bin"
          else some (grpcStatusBin p e)).map render := by
  rw [hs _ (lower_grpcDetails p), statusTrailers_first?, lookup_details]
  split <;> rfl

/-- The user trailers have nothing under the two names the server may leave alone. -/
def Unreserved (t : Headers p) : Prop :=
  Multimap.first? t.groups "grpc-message" = none
    ∧ Multimap.first? t.groups "grpc-status-details-bin" = none

/-! ## The status arrives -/

/-- The status of an error has an encoding, and the encoding is read back. -/
structure StatusCodec (p : Platform) (e : ConnectWireError) : Prop where
  nonempty : p.statusToBinary (grpcStatus e) ≠ []
  lossless : p.statusFromBinary (p.statusToBinary (grpcStatus e)) = .ok (grpcStatus e)

theorem grpcStatusBin_ne_empty {e : ConnectWireError}
    (h : p.statusToBinary (grpcStatus e) ≠ []) : grpcStatusBin p e ≠ "" := by
  intro he
  exact h ((Base64.rstripPad_encode_eq_empty_iff _).mp he)

/-- A detail as it comes out of a status: the same packed message. -/
def carried (d : ErrorDetail) : ErrorDetail := .ofAny d.any

/-- **Raising a status that was shown unchanged** gives the error back. -/
theorem raiseStatus_shows {h : p.HTTPHeaders} {t : Headers p} {e : ConnectWireError}
    (hs : Shows h t (some e) id) (ht : Unreserved t) (hcodec : StatusCodec p e) :
    raiseStatus h (connectStatusToGrpc e.code) none
      = some (.connectError ⟨e.code, e.message, e.details.map carried⟩) := by
  have hmessage : p.getHeader h "grpc-message"
      = if e.message ≠ "" then some (Utf8.quote e.message) else none := by
    rw [hs.message, Option.map_id, id, ht.1]
  have hdetails : p.getHeader h "grpc-status-details-bin"
      = if e.details.isEmpty then none else some (grpcStatusBin p e) := by
    rw [hs.details, Option.map_id, id, ht.2]
  rw [raiseStatus]
  simp only [if_neg (connectStatusToGrpc_ne_zero e.code), hmessage, hdetails]
  by_cases hd : e.details.isEmpty = true
  · -- Without details the message is percent-decoded.
    rw [if_pos hd, List.isEmpty_iff.mp hd]
    have hun : Utf8.unquote
        ((if e.message ≠ "" then some (Utf8.quote e.message) else none).getD "") = e.message := by
      by_cases hm : e.message = ""
      · rw [if_neg (not_not.mpr hm), hm]
        decide
      · rw [if_pos hm, Option.getD_some, Utf8.unquote_quote]
    simp only [Option.filter_none, hun, grpcStatusToConnect_connectStatusToGrpc]
    rfl
  · -- With details the binary status has everything.
    have hbin := grpcStatusBin_ne_empty hcodec.nonempty
    have hdec : decodePadded (grpcStatusBin p e)
        = .ok (p.statusToBinary (grpcStatus e)) := decodePadded_encode _
    rw [if_neg hd, Option.filter_some_pos (by simpa using hbin)]
    dsimp only
    rw [hdec]
    dsimp only
    rw [hcodec.lossless]
    simp only [grpcStatus, toString_statusNumber, grpcStatusToConnect_connectStatusToGrpc,
      List.map_map]
    rfl

/-- **A gRPC status survives the wire.**  Read from the trailers, or from the
    headers of a response without a message, the status of an error raises it
    again, and the status of a success raises nothing. -/
theorem status_survives (e : ConnectError) (t : Headers p) (ht : Unreserved t)
    (hcodec : StatusCodec p (.fromException (.connectError e))) (r : Reader p)
    (response : Response p) :
    let outcome := some (ConnectWireError.fromException (.connectError e))
    let error := Exc.connectError ⟨e.code, e.message, e.details.map carried⟩
    (p.Delivers (statusTrailers t outcome).allitems response.trailers →
        (handleResponseComplete .grpc r response none).2 = some error)
      ∧ (r.readMessage = false → p.getHeader response.trailers "grpc-status" = none →
        p.Delivers (statusTrailers t outcome).allitems response.headers →
        (handleResponseComplete .grpc r response none).2 = some error)
      ∧ (p.Delivers (statusTrailers t none).allitems response.trailers →
        (handleResponseComplete .grpc r response none).2 = none)
      ∧ (r.readMessage = false → p.getHeader response.trailers "grpc-status" = none →
        p.Delivers (statusTrailers t none).allitems response.headers →
        (handleResponseComplete .grpc r response none).2 = none) := by
  refine ⟨fun hd => ?_, fun hr hn hd => ?_, fun hd => ?_, fun hr hn hd => ?_⟩
  · have hs := shows_of_delivers hd
    exact (handleGrpcComplete_some r (hs.status keepsStatus_id) _ none).trans
      (raiseStatus_shows hs ht hcodec)
  · have hs := shows_of_delivers hd
    exact (handleGrpcComplete_headers hr hn (hs.status keepsStatus_id) none).trans
      (raiseStatus_shows hs ht hcodec)
  · have hs := shows_of_delivers hd
    exact (handleGrpcComplete_some r (hs.status keepsStatus_id) _ none).trans
      (raiseStatus_zero _ none)
  · have hs := shows_of_delivers hd
    exact (handleGrpcComplete_headers hr hn (hs.status keepsStatus_id) none).trans
      (raiseStatus_zero _ none)

/-- An error with a message beyond ASCII and a detail, next to a user trailer. -/
def noSuchHat : ConnectError :=
  ⟨.notFound, "no such hat: é", [.ofAny ⟨"type.googleapis.com/acme.Hat", [8, 7]⟩]⟩

/-- The platform that knows the status of that error. -/
abbrev hatPlatform : Platform :=
  .ofStatus (grpcStatus (.fromException (.connectError noSuchHat)))

theorem noSuchHat_survives :
    (handleResponseComplete .grpc (Reader.new none : Reader hatPlatform)
      ⟨Dict.empty, Multimap.ofItems (statusTrailers (.ofItems hatPlatform [("x", "1")])
        (some (.fromException (.connectError noSuchHat)))).allitems⟩ none).2
      = some (.connectError noSuchHat) :=
  (status_survives noSuchHat (.ofItems hatPlatform [("x", "1")]) ⟨rfl, rfl⟩
    ⟨by decide, Platform.ofStatus_lossless _⟩ (Reader.new none) ⟨Dict.empty, _⟩).1 rfl

/-! ## User trailers next to the status -/

/-- User trailers that HTTP can carry: token names and values of HTTP fields. -/
def Clean (t : Headers p) : Prop := ∀ e ∈ t.allitems, CleanItem e

/-- The text under which user trailers have details of their own. -/
def ownDetails (render : String → String) (t : Headers p) : Option String :=
  ((Multimap.first? t.groups "grpc-status-details-bin").map render).filter (· ≠ "")

/-- The message of an error next to user trailers, which may bring one where it is
    empty. -/
def messageBeside (render : String → String) (e : ConnectWireError) (t : Headers p) : String :=
  if e.message ≠ "" then e.message
  else Utf8.unquote (((Multimap.first? t.groups "grpc-message").map render).getD "")

/-- What a text of details is raised as. -/
def raisedByDetails (p : Platform) (text : String) : Exc :=
  match decodePadded text with
  | .error e => e
  | .ok bin =>
      match p.statusFromBinary bin with
      | .error e => e
      | .ok s => .connectError ⟨(grpcStatusToConnect (toString s.code)).getD .unknown, s.message,
          s.details.map ErrorDetail.ofAny⟩

/-- Both trailers leave an error without details as it is, or change it alike: neither
    has details of its own and their messages do no harm, or the details that they have
    stand for one error. -/
def Alike (render : String → String) (e : ConnectWireError) (t₁ t₂ : Headers p) : Prop :=
  match ownDetails render t₁, ownDetails render t₂ with
  | none, none => messageBeside render e t₁ = messageBeside render e t₂
  | some d, none => raisedByDetails p d = .connectError ⟨e.code, messageBeside render e t₂, []⟩
  | none, some d => .connectError ⟨e.code, messageBeside render e t₁, []⟩ = raisedByDetails p d
  | some d₁, some d₂ => raisedByDetails p d₁ = raisedByDetails p d₂

/-- A success and an error with details leave nothing to the user trailers. -/
def Unaffected (render : String → String) (outcome : Option ConnectWireError)
    (t₁ t₂ : Headers p) : Prop :=
  ∀ e, outcome = some e → e.details = [] → Alike render e t₁ t₂

/-- What reading a gRPC-Web stream comes to, when the server ends it with the
    given trailers and outcome after some messages. -/
def webResult {α : Type} (w : EnvelopeWriter α) (readMaxBytes : Option Int)
    (current : Option (ResponseMetadata p)) (response : Response p) (body : Bytes)
    (t : Headers p) (outcome : Option ConnectWireError) : Option Exc :=
  match webEnd w t outcome with
  | .error e => some e
  | .ok e =>
      (readResponse .grpcWeb (w.reader readMaxBytes) (Reader.new current) response
        [body ++ e]).error

/-- An error with details is raised from these, whatever the user trailers are. -/
theorem raiseStatus_covered {h₁ h₂ : p.HTTPHeaders} {t₁ t₂ : Headers p} {e : ConnectWireError}
    {render : String → String} (hr : KeepsStatus render) (hs₁ : Shows h₁ t₁ (some e) render)
    (hs₂ : Shows h₂ t₂ (some e) render) (hd : e.details ≠ [])
    (hbin : p.statusToBinary (grpcStatus e) ≠ []) (status : String) :
    raiseStatus h₁ status none = raiseStatus h₂ status none := by
  have hshown : ∀ {h : p.HTTPHeaders} {t : Headers p}, Shows h t (some e) render →
      p.getHeader h "grpc-status-details-bin" = some (grpcStatusBin p e) := by
    intro h t hs
    rw [hs.details, if_neg (by rw [List.isEmpty_iff]; exact hd), Option.map_some]
    exact congrArg some (hr.base64 _)
  have hne := grpcStatusBin_ne_empty hbin
  rw [raiseStatus, raiseStatus, hshown hs₁, hshown hs₂,
    Option.filter_some_pos (by simpa using hne)]

/-- **An error without details** is raised from the user's, or else with a message. -/
theorem raiseStatus_bare {h : p.HTTPHeaders} {t : Headers p} {e : ConnectWireError}
    {render : String → String} (hr : KeepsStatus render) (hs : Shows h t (some e) render)
    (hd : e.details = []) :
    raiseStatus h (connectStatusToGrpc e.code) none
      = some (match ownDetails render t with
          | some text => raisedByDetails p text
          | none => .connectError ⟨e.code, messageBeside render e t, []⟩) := by
  have hdetails : (p.getHeader h "grpc-status-details-bin").filter (fun s => s ≠ "")
      = ownDetails render t := by
    rw [hs.details, hd]
    rfl
  have hmessage : Utf8.unquote ((p.getHeader h "grpc-message").getD "")
      = messageBeside render e t := by
    rw [hs.message, messageBeside]
    by_cases hm : e.message ≠ ""
    · rw [if_pos hm, if_pos hm, Option.map_some, Option.getD_some, hr.quote, Utf8.unquote_quote]
    · rw [if_neg hm, if_neg hm]
  rw [raiseStatus]
  simp only [if_neg (connectStatusToGrpc_ne_zero e.code), hdetails, hmessage]
  cases ownDetails render t with
  | none =>
      simp only [grpcStatusToConnect_connectStatusToGrpc]
      rfl
  | some text =>
      dsimp only
      rw [raisedByDetails]
      cases decodePadded text with
      | error x => rfl
      | ok bin =>
          dsimp only
          cases p.statusFromBinary bin with
          | error x => rfl
          | ok s => rfl

/-- **When a status that was shown is raised alike** next to two user trailers. -/
theorem complete_same_iff {h₁ h₂ : p.HTTPHeaders} {t₁ t₂ : Headers p}
    {outcome : Option ConnectWireError} {render : String → String} (hr : KeepsStatus render)
    (hs₁ : Shows h₁ t₁ outcome render) (hs₂ : Shows h₂ t₂ outcome render)
    (hbin : ∀ e, outcome = some e → e.details ≠ [] → p.statusToBinary (grpcStatus e) ≠ [])
    (r₁ r₂ : Reader p) (headers₁ headers₂ : p.HTTPHeaders) :
    (handleGrpcComplete r₁ h₁ headers₁ none).2 = (handleGrpcComplete r₂ h₂ headers₂ none).2
      ↔ Unaffected render outcome t₁ t₂ := by
  rw [handleGrpcComplete_some r₁ (hs₁.status hr), handleGrpcComplete_some r₂ (hs₂.status hr)]
  cases outcome with
  | none =>
      constructor
      · rintro - e ⟨⟩
      · intro _
        exact (raiseStatus_zero h₁ none).trans (raiseStatus_zero h₂ none).symm
  | some e =>
      by_cases hd : e.details = []
      · -- Without details each side reads what its user trailers leave it.
        show raiseStatus h₁ (connectStatusToGrpc e.code) none
          = raiseStatus h₂ (connectStatusToGrpc e.code) none ↔ _
        rw [raiseStatus_bare hr hs₁ hd, raiseStatus_bare hr hs₂ hd]
        have halike : Unaffected render (some e) t₁ t₂ ↔ Alike render e t₁ t₂ := by
          constructor
          · intro h
            exact h e rfl hd
          · rintro h e' ⟨⟩ -
            exact h
        rw [halike, Alike, Option.some_inj]
        -- Details of its own on either side decide; with none on both, the messages do.
        cases ownDetails render t₁ with
        | some d₁ => cases ownDetails render t₂ <;> exact Iff.rfl
        | none =>
            cases ownDetails render t₂ with
            | some d₂ => exact Iff.rfl
            | none =>
                constructor
                · intro h
                  exact congrArg ConnectError.message (Exc.connectError.inj h)
                · intro h
                  show Exc.connectError _ = Exc.connectError _
                  rw [h]
      · constructor
        · rintro - e' ⟨⟩ hnone
          exact absurd hnone hd
        · intro _
          -- Details of the error are written over those of the user.
          exact raiseStatus_covered hr hs₁ hs₂ hd (hbin e rfl hd) _

/-- Reading a response after a block that raised nothing. -/
theorem readResponse_of_withBlock {α : Type} {k : ReaderKind} {cfg : ReaderConfig α}
    {r r' : Reader p} {chunks : List Bytes} {ms : List α}
    (h : withBlock k cfg r chunks = ⟨ms, r', none⟩) (response : Response p) :
    (readResponse k cfg r response chunks).error
      = (handleResponseComplete k r' response none).2 := by
  rw [readResponse, h]

/-- **The end of a gRPC-Web stream**, up to what the client raises: its lines are
    read into a container, and that container is completed. -/
theorem webResult_lines {α : Type} {w : EnvelopeWriter α} {readMaxBytes : Option Int}
    (hw : ∀ c ∈ w.compression, Lossless c) {items : List (String × String)}
    (hitems : ∀ e ∈ items, CleanItem e) {t : Headers p} {outcome : Option ConnectWireError}
    (hdata : trailerData t outcome = Utf8.encode (String.join (items.map trailerLine)))
    (hfits : Fits w readMaxBytes (trailerData t outcome)) {ms : List α} {body : Bytes}
    (hms : Messages (w.reader readMaxBytes) ms body) (current : Option (ResponseMetadata p))
    (response : Response p) :
    ∃ trailers r, p.content trailers = Multimap.ofItems (items.map (readItem p))
      ∧ webResult w readMaxBytes current response body t outcome
        = (handleGrpcComplete r trailers response.headers none).2 := by
  rw [hdata] at hfits
  obtain ⟨f, trailers, hf, hlegal, hx, hframe, hcontent⟩ := handleFrame_lines hw hitems hfits
    (afterMessages .grpcWeb (start current) ms)
  have hstart : p.content (afterMessages .grpcWeb (start current) ms).trailers = Dict.empty := by
    rw [afterMessages_trailers]
    exact p.content_empty
  rw [hstart] at hcontent
  have hdrain := drain_start_frame hms hlegal hx current
  rw [hframe] at hdrain
  have hflat : [body ++ f.bytes].flatten = body ++ f.bytes := List.append_nil _
  rw [← hflat] at hdrain
  have hblock := withBlock_of_drain hdrain (Or.inl rfl)
  have hend : webEnd w t outcome = .ok f.bytes := by
    rw [webEnd, hdata]
    exact hf
  refine ⟨trailers, (withBlock .grpcWeb (w.reader readMaxBytes) (Reader.new current)
    [body ++ f.bytes]).reader, hcontent, ?_⟩
  rw [webResult, hend, hblock]
  exact readResponse_of_withBlock hblock response

/-- **When user trailers do not change what a gRPC-Web client raises**, of those that
    HTTP can carry. -/
theorem webResult_eq_iff {α : Type} {w : EnvelopeWriter α} {readMaxBytes : Option Int}
    {outcome : Option ConnectWireError} {t₁ t₂ : Headers p} (ht₁ : Clean t₁) (ht₂ : Clean t₂)
    (hbin : ∀ e, outcome = some e → e.details ≠ [] → p.statusToBinary (grpcStatus e) ≠ [])
    (hw : ∀ c ∈ w.compression, Lossless c) (hfits₁ : Fits w readMaxBytes (trailerData t₁ outcome))
    (hfits₂ : Fits w readMaxBytes (trailerData t₂ outcome)) {ms : List α} {body : Bytes}
    (hms : Messages (w.reader readMaxBytes) ms body) (current : Option (ResponseMetadata p))
    (response : Response p) :
    webResult w readMaxBytes current response body t₁ outcome
        = webResult w readMaxBytes current response body t₂ outcome
      ↔ Unaffected readValue outcome t₁ t₂ := by
  obtain ⟨h₁, r₁, hc₁, hres₁⟩ := webResult_lines hw (statusTrailers_clean ht₁ outcome) rfl hfits₁
    hms current response
  obtain ⟨h₂, r₂, hc₂, hres₂⟩ := webResult_lines hw (statusTrailers_clean ht₂ outcome) rfl hfits₂
    hms current response
  rw [hres₁, hres₂]
  exact complete_same_iff keepsStatus_readValue (shows_of_lines hc₁) (shows_of_lines hc₂) hbin r₁
    r₂ _ _

/-! ## Trailers that change the status -/

/-- Clean items under lowercase names can be delivered. -/
theorem exists_delivers {items : List (String × String)}
    (h : ∀ e ∈ items, CleanItem e ∧ p.lower e.1 = e.1) : ∃ hh, p.Delivers items hh := by
  suffices H : ∀ start : p.HTTPHeaders, ∃ hh,
      p.content hh = Multimap.addAll (p.content start) items by
    obtain ⟨hh, hc⟩ := H p.emptyHeaders
    rw [p.content_empty] at hc
    exact ⟨hh, hc⟩
  induction items with
  | nil => exact fun start => ⟨start, rfl⟩
  | cons e items ih =>
      intro start
      obtain ⟨hclean, hlower⟩ := h e (by simp)
      obtain ⟨h1, hadd⟩ := p.addHeader_token start e.1 e.2 hclean.1 hclean.2
      obtain ⟨hh, hc⟩ := ih (fun a ha => h a (List.mem_cons_of_mem _ ha)) h1
      refine ⟨hh, ?_⟩
      rw [hc, p.content_add hadd, hlower]
      rfl

theorem delivers_of_clean {t : Headers p} (ht : Clean t) (outcome : Option ConnectWireError) :
    ∃ hh, p.Delivers (grpcEnd t outcome).allitems hh :=
  exists_delivers fun e he =>
    ⟨statusTrailers_clean ht outcome e he, Headers.allitems_lower _ e he⟩

/-- One user trailer. -/
def single (p : Platform) (key value : String) : Headers p := .ofItems p [(key, value)]

theorem groups_single {key : String} (hk : p.lower key = key) (value : String) :
    (single p key value).groups = ⟨[(key, value, [])], by simp⟩ := by
  rw [single, Headers.groups_ofItems, List.map_singleton, hk]
  rfl

theorem allitems_single {key : String} (hk : p.lower key = key) (value : String) :
    (single p key value).allitems = [(key, value)] := by
  rw [Headers.allitems_eq, groups_single hk]
  rfl

/-- A user trailer under a name the server does not assign to comes first. -/
theorem allitems_statusTrailers_single {key : String} (hk : p.lower key = key) (value : String)
    {outcome : Option ConnectWireError}
    (hname : ∀ a ∈ statusAssignments p outcome, key ≠ a.1) :
    (statusTrailers (single p key value) outcome).allitems
      = (key, value) :: (statusTrailers (.empty p) outcome).allitems := by
  rw [Headers.allitems_eq, Headers.allitems_eq, groups_statusTrailers, groups_statusTrailers,
    groups_single hk]
  exact Multimap.allitems_setAll_cons _ (show ([].map Prod.fst).Nodup from List.nodup_nil) hname

theorem clean_empty : Clean (.empty p) := by
  intro e he
  exact nomatch he

/-- Details that are no base64. -/
def forged (p : Platform) : Headers p := single p "grpc-status-details-bin" "A"

theorem ownDetails_empty (render : String → String) : ownDetails render (.empty p) = none := rfl

theorem ownDetails_forged : ownDetails id (forged p) = some "A" := by
  rw [ownDetails, forged, groups_single (lower_grpcDetails p)]
  rfl

/-- Next to an error without details they are what is raised. -/
theorem not_alike_forged (e : ConnectWireError) : ¬ Alike id e (.empty p) (forged p) := by
  rw [Alike, ownDetails_empty, ownDetails_forged]
  dsimp only
  rintro ⟨⟩

/-! ## Values that break the lines of gRPC-Web -/

/-- A writer without compression. -/
def uncompressed {α : Type} (codec : Codec α) : EnvelopeWriter α := ⟨codec, none⟩

theorem fits_uncompressed {α : Type} (codec : Codec α) {data : Bytes}
    (h : data.length < 0x100000000) : Fits (uncompressed codec) none data := by
  refine ⟨rfl, fun out hout => ?_⟩
  have heq : data = out := Except.ok.inj hout
  exact ⟨heq ▸ h, rfl⟩

/-- The trailers of an outcome fit into a frame, with some room for user trailers. -/
def Sendable (p : Platform) (outcome : Option ConnectWireError) : Prop :=
  (trailerData (.empty p) outcome).length + 0x100 ≤ 0x100000000

/-- A further line in front of the trailers of an outcome. -/
theorem trailerData_cons {t : Headers p} {outcome : Option ConnectWireError}
    {item : String × String}
    (h : (statusTrailers t outcome).allitems
      = item :: (statusTrailers (.empty p) outcome).allitems) :
    trailerData t outcome
      = Utf8.encode (trailerLine item) ++ trailerData (.empty p) outcome := by
  rw [trailerData, trailerData, grpcEnd, grpcEnd, h, List.map_cons, String.join_cons,
    Utf8.encode_append]

/-- A user trailer whose value brings a status line of its own. -/
def injected (p : Platform) (status : String) : Headers p :=
  single p "x" ("\r\ngrpc-status: " ++ status)

theorem lower_x (p : Platform) : p.lower "x" = "x" := p.lower_of_ascii (by decide) (by decide)

/-- The items whose lines are those of an injected status. -/
def injectedItems (p : Platform) (status : String) (outcome : Option ConnectWireError) :
    List (String × String) :=
  ("x", "") :: ("grpc-status", status) :: (statusTrailers (.empty p) outcome).allitems

theorem trailerData_injected (status : String) (outcome : Option ConnectWireError) :
    trailerData (injected p status) outcome
      = Utf8.encode (String.join ((injectedItems p status outcome).map trailerLine)) := by
  have hname : ∀ a ∈ statusAssignments p outcome, "x" ≠ a.1 := by
    intro a ha
    rcases statusAssignments_name ha with h | h | h <;> rw [h] <;> decide
  have hline : trailerLine ("x", "\r\ngrpc-status: " ++ status)
      = trailerLine ("x", "") ++ trailerLine ("grpc-status", status) := by
    have htext : "\r\ngrpc-status: " = "\r\n" ++ ("grpc-status" ++ ": ") := by decide
    simp only [trailerLine, htext, String.append_assoc, String.empty_append]
  rw [injected, trailerData_cons (allitems_statusTrailers_single (lower_x p) _ hname), hline,
    injectedItems, List.map_cons, List.map_cons, String.join_cons, String.join_cons,
    Utf8.encode_append, Utf8.encode_append, Utf8.encode_append, List.append_assoc]
  rfl

theorem injectedItems_clean {status : String} (hstatus : isFieldValue status = true)
    (outcome : Option ConnectWireError) : ∀ e ∈ injectedItems p status outcome, CleanItem e := by
  intro e he
  rcases List.mem_cons.mp he with rfl | he
  · exact ⟨by decide, by decide⟩
  · rcases List.mem_cons.mp he with rfl | he
    · exact ⟨(by decide : isToken "grpc-status" = true), hstatus⟩
    · exact statusTrailers_clean clean_empty outcome e he

/-- The injected status is the one the client finds. -/
theorem getHeader_injected {status : String} {outcome : Option ConnectWireError}
    {h : p.HTTPHeaders}
    (hc : p.content h = Multimap.ofItems ((injectedItems p status outcome).map (readItem p))) :
    p.getHeader h "grpc-status" = some (readValue status) := by
  have hlower : ∀ e ∈ injectedItems p status outcome, p.lower e.1 = e.1 := by
    intro e he
    rcases List.mem_cons.mp he with rfl | he
    · exact lower_x p
    · rcases List.mem_cons.mp he with rfl | he
      · exact lower_grpcStatus p
      · exact Headers.allitems_lower _ e he
  rw [p.getHeader_eq, hc, lower_grpcStatus, Multimap.first?_ofItems, lookup_readItem hlower,
    injectedItems, lookup_cons_ne (by decide), lookup_cons_self]
  rfl

/-- **Beyond what HTTP can carry nothing is safe.**  For every outcome there is a value
    with line ends that turns a success into an error, and an error into a success. -/
theorem webResult_injected {α : Type} (codec : Codec α) {outcome : Option ConnectWireError}
    (hsize : Sendable p outcome) :
    ∃ t : Headers p, ∀ response : Response p,
      webResult (uncompressed codec) none none response [] (.empty p) outcome
        ≠ webResult (uncompressed codec) none none response [] t outcome := by
  -- The status to inject: an error next to a success, success next to an error.
  obtain ⟨status, hone, hlen, hstatus⟩ : ∃ status : String, isFieldValue status = true
      ∧ (Utf8.encode (trailerLine ("grpc-status", status))).length = 16
      ∧ ((outcome = none ∧ readValue status = "2")
        ∨ (outcome ≠ none ∧ readValue status = "0")) := by
    by_cases ho : outcome = none
    · exact ⟨"2", by decide, by decide +kernel,
        Or.inl ⟨ho, Utf8.strip_space_append (by decide)⟩⟩
    · exact ⟨"0", by decide, by decide +kernel,
        Or.inr ⟨ho, Utf8.strip_space_append (by decide)⟩⟩
  have hx : (Utf8.encode (trailerLine ("x", ""))).length = 5 := by decide +kernel
  have hdata : (trailerData (injected p status) outcome).length < 0x100000000 := by
    have hempty : (Utf8.encode (String.join
        ((statusTrailers (.empty p) outcome).allitems.map trailerLine))).length + 0x100
        ≤ 0x100000000 := hsize
    rw [trailerData_injected, injectedItems, List.map_cons, List.map_cons, String.join_cons,
      String.join_cons, Utf8.encode_append, Utf8.encode_append, List.length_append,
      List.length_append, hx, hlen]
    omega
  have hfits₁ := fits_uncompressed codec
    (Nat.lt_of_lt_of_le (Nat.lt_add_of_pos_right (by decide)) hsize)
  have hfits₂ := fits_uncompressed codec hdata
  have hw : ∀ c ∈ (uncompressed codec).compression, Lossless c := nofun
  have hms : Messages ((uncompressed codec).reader none) [] [] := .nil
  refine ⟨injected p status, ?_⟩
  intro response heq
  obtain ⟨c₁, r₁, hc₁, hres₁⟩ := webResult_lines hw (statusTrailers_clean clean_empty outcome)
    rfl hfits₁ hms none response
  obtain ⟨c₂, r₂, hc₂, hres₂⟩ := webResult_lines hw (injectedItems_clean hone outcome)
    (trailerData_injected status outcome) hfits₂ hms none response
  have hs₁ := shows_of_lines hc₁
  rw [hres₁, hres₂, handleGrpcComplete_some _ (hs₁.status keepsStatus_readValue),
    handleGrpcComplete_some _ (getHeader_injected hc₂)] at heq
  rcases hstatus with ⟨rfl, hread⟩ | ⟨ho, hread⟩
  · obtain ⟨e, he⟩ := raiseStatus_ne_zero c₂ (show "2" ≠ "0" by decide) none
    rw [hread, he] at heq
    cases (raiseStatus_zero c₁ none).symm.trans heq
  · cases outcome with
    | none => exact ho rfl
    | some w =>
        obtain ⟨e, he⟩ := raiseStatus_ne_zero c₁ (connectStatusToGrpc_ne_zero w.code) none
        rw [hread, raiseStatus_zero] at heq
        cases he.symm.trans heq

/-- **When user trailers cannot change the status.**  For an outcome and two user
    trailers the client ends alike exactly where the outcome is a success or has details,
    or the trailers leave an error without details alike: in gRPC whatever they are, in
    gRPC-Web among those that HTTP can carry.  Beyond these every outcome can be
    changed. -/
theorem status_unaffected_iff (outcome : Option ConnectWireError)
    (hcodec : ∀ e, outcome = some e → e.details ≠ [] → p.statusToBinary (grpcStatus e) ≠ [])
    (t₁ t₂ : Headers p) :
    (∀ h₁ h₂, p.Delivers (grpcEnd t₁ outcome).allitems h₁ →
      p.Delivers (grpcEnd t₂ outcome).allitems h₂ →
      ∀ (r : Reader p) (headers : p.HTTPHeaders),
        (handleResponseComplete .grpc r ⟨headers, h₁⟩ none).2
            = (handleResponseComplete .grpc r ⟨headers, h₂⟩ none).2
          ↔ Unaffected id outcome t₁ t₂)
    ∧ (Clean t₁ → Clean t₂ → ∀ {α : Type} (w : EnvelopeWriter α) (readMaxBytes : Option Int),
      (∀ c ∈ w.compression, Lossless c) →
      Fits w readMaxBytes (trailerData t₁ outcome) →
      Fits w readMaxBytes (trailerData t₂ outcome) →
      ∀ (ms : List α) (body : Bytes), Messages (w.reader readMaxBytes) ms body →
      ∀ (current : Option (ResponseMetadata p)) (response : Response p),
        webResult w readMaxBytes current response body t₁ outcome
            = webResult w readMaxBytes current response body t₂ outcome
          ↔ Unaffected readValue outcome t₁ t₂)
    ∧ (Sendable p outcome → ∀ {α : Type} (codec : Codec α),
      ∃ t : Headers p, ∀ response : Response p,
        webResult (uncompressed codec) none none response [] (.empty p) outcome
          ≠ webResult (uncompressed codec) none none response [] t outcome) := by
  refine ⟨?_, ?_, fun hsize _ codec => webResult_injected codec hsize⟩
  · intro h₁ h₂ hd₁ hd₂ r headers
    exact complete_same_iff keepsStatus_id (shows_of_delivers hd₁) (shows_of_delivers hd₂) hcodec r
      r headers headers
  · intro ht₁ ht₂ α w readMaxBytes hw hfits₁ hfits₂ ms body hms current response
    exact webResult_eq_iff ht₁ ht₂ hcodec hw hfits₁ hfits₂ hms current response

/-- A short error with a detail. -/
def missingHat : ConnectWireError := ⟨.notFound, "", [.ofAny ⟨"Hat", [7]⟩]⟩

/-- The platform that knows its status. -/
abbrev missingPlatform : Platform := .ofStatus (grpcStatus missingHat)

/-- Details of the server's take the place of the user's, in both protocols. -/
theorem status_unaffected_missingHat :
    (handleResponseComplete .grpc (Reader.new none : Reader missingPlatform)
        ⟨Dict.empty, Multimap.ofItems (grpcEnd (.empty missingPlatform) (some missingHat)).allitems⟩
        none).2
      = (handleResponseComplete .grpc (Reader.new none : Reader missingPlatform)
        ⟨Dict.empty, Multimap.ofItems (grpcEnd (forged missingPlatform) (some missingHat)).allitems⟩
        none).2
    ∧ ∀ response : Response missingPlatform,
      webResult (uncompressed Codec.raw) none none response [] (.empty _) (some missingHat)
        = webResult (uncompressed Codec.raw) none none response [] (forged _)
          (some missingHat) := by
  have hbin : ∀ e, some missingHat = some e → e.details ≠ [] →
      missingPlatform.statusToBinary (grpcStatus e) ≠ [] := by
    rintro e ⟨⟩ -
    decide
  have hsame : ∀ render, Unaffected (p := missingPlatform) render (some missingHat) (.empty _)
      (forged _) := by
    rintro render e ⟨⟩ hd
    cases hd
  obtain ⟨hgrpc, hweb, -⟩ := status_unaffected_iff (some missingHat) hbin (.empty missingPlatform)
    (forged missingPlatform)
  refine ⟨(hgrpc _ _ rfl rfl (Reader.new none) Dict.empty).mpr (hsame id), ?_⟩
  intro response
  have hms : Messages ((uncompressed Codec.raw).reader none) [] [] := .nil
  have hforged : Clean (forged missingPlatform) := by
    intro e he
    rw [forged, allitems_single (lower_grpcDetails _)] at he
    obtain rfl := List.mem_singleton.mp he
    exact ⟨by decide, by decide⟩
  exact (hweb clean_empty hforged (uncompressed Codec.raw) none nofun
    (fits_uncompressed _ (by decide +kernel)) (fits_uncompressed _ (by decide +kernel)) [] [] hms
    none response).mpr (hsame readValue)

/-- An error without details: with a user trailer `grpc-status-details-bin` the
    client does not raise that error. -/
theorem user_details_change_the_error :
    (handleResponseComplete .grpc (Reader.new none : Reader Platform.plain)
        ⟨Dict.empty, Multimap.ofItems
          (grpcEnd (.empty Platform.plain) (some ⟨.notFound, "no such hat", []⟩)).allitems⟩
        none).2
      ≠ (handleResponseComplete .grpc (Reader.new none : Reader Platform.plain)
        ⟨Dict.empty, Multimap.ofItems
          (grpcEnd (.ofItems Platform.plain [("grpc-status-details-bin", "A")])
            (some ⟨.notFound, "no such hat", []⟩)).allitems⟩ none).2 := by
  intro heq
  have hs₁ := shows_of_delivers (t := .empty _) (Platform.plain_delivers
    (grpcEnd (.empty Platform.plain) (some ⟨.notFound, "no such hat", []⟩)).allitems)
  have hs₂ := shows_of_delivers (t := forged Platform.plain) (Platform.plain_delivers
    (grpcEnd (forged Platform.plain) (some ⟨.notFound, "no such hat", []⟩)).allitems)
  have hunaffected := (complete_same_iff keepsStatus_id hs₁ hs₂ (fun e he hd => by
    cases he
    exact absurd rfl hd) (Reader.new none) (Reader.new none) Dict.empty Dict.empty).mp heq
  exact not_alike_forged _ (hunaffected _ rfl rfl)

end ConnectStatusWire
