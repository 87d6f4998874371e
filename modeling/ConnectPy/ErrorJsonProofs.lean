import ConnectPy.ClientCallProofs

/-! # Errors in JSON — what survives, and what a malformed detail does

    The Connect protocol carries an error as a JSON object, as the body of a unary
    response or inside the message that ends a stream.  What the server writes is
    read back with its code, its message and its details
    (`connect_error_survives`), over any chunks.

    A peer may write anything.  The reader skips a detail without a type or a
    value, and takes every other one for well formed: on any other shape it raises,
    or lets the lenient decoder make up bytes.  So the error is the one that was
    sent exactly when its details are `Readable` (`malformed_details_iff`). -/

namespace ConnectErrorJson

open Utf8 (Bytes)
open Framing Resumable
open OrderedDict
open ConnectErrors ConnectPlatform ConnectHeaders ConnectWireErrors ConnectEnvelope
open ConnectEndMessage ConnectWriter ConnectClient ConnectClientRequest ConnectContentType
open ConnectNegotiation ConnectUnaryRequest ConnectUnaryGet

variable {p : Platform} {α β : Type}

/-! ## What the server writes -/

/-- An error that arrives: with its code, its message, and the names and bytes of
    its details in their order. -/
structure Arrives (sent received : ConnectError) : Prop where
  code         : received.code = sent.code
  message      : received.message = sent.message
  typeNames    : received.details.map ErrorDetail.typeName = sent.details.map ErrorDetail.typeName
  messageBytes : received.details.map ErrorDetail.messageBytes
    = sent.details.map ErrorDetail.messageBytes

/-- An error as it is read from what `to_dict` wrote. -/
def arrived (e : ConnectError) : ConnectError := ⟨e.code, e.message, e.details.map received⟩

theorem arrives_arrived (e : ConnectError) : Arrives e (arrived e) where
  code := rfl
  message := rfl
  typeNames := by
    have hname : ErrorDetail.typeName ∘ received = ErrorDetail.typeName :=
      funext received_typeName
    rw [arrived, List.map_map, hname]
  messageBytes := by
    rw [arrived, List.map_map]
    exact List.map_congr_left fun d _ => received_messageBytes d

/-- The wire form of an error. -/
def wireError (e : ConnectError) : ConnectWireError := .fromException (.connectError e)

/-- **A Connect error survives its JSON form**: as a dictionary, whatever the HTTP
    status and the fallback of the reader, and through the message that ends a
    stream, over any chunks. -/
theorem connect_error_survives (p : Platform) (e : ConnectError) :
    (∀ httpStatus unexpectedCode, ∃ wire received,
      ConnectWireError.fromDict p (.obj (wireError e).toDict) httpStatus unexpectedCode = .ok wire
        ∧ wire.toException = .connectError received ∧ Arrives e received)
      ∧ ∀ (w : EnvelopeWriter α) (readMaxBytes : Option Int) (t : Headers p)
        (response : Option (ResponseMetadata p)),
        (∀ c ∈ w.compression, Lossless c) →
        Fits w readMaxBytes (endMessageData t (some (wireError e))) →
        p.jsonLoads (endMessageData t (some (wireError e)))
          = .ok (endMessage t (some (wireError e))) →
        ∃ b received, connectEnd w t (some (wireError e)) = .ok b ∧ Arrives e received
          ∧ ∀ chunks : List Bytes, chunks.flatten = b → ∃ r,
            withBlock .connect (w.reader readMaxBytes) (Reader.new response) chunks
              = ⟨[], r, some (.connectError received)⟩ := by
  constructor
  · intro httpStatus unexpectedCode
    exact ⟨_, arrived e, fromDict_toDict p (wireError e) httpStatus unexpectedCode, rfl,
      arrives_arrived e⟩
  · intro w readMaxBytes t response hw hfits hjson
    obtain ⟨f, hf, hlegal, hx, hframe⟩ := handleFrame_connectEnd hw hfits hjson
      (ConnectGrammar.afterMessages .connect (ConnectGrammar.start response) ([] : List α))
    refine ⟨f.bytes, arrived e, hf, arrives_arrived e, fun chunks hchunks => ?_⟩
    have hdrain := ConnectGrammar.drain_start_frame
      (show ConnectGrammar.Messages (w.reader readMaxBytes) [] [] from .nil) hlegal hx response
    rw [hframe] at hdrain
    rw [List.nil_append, ← hchunks] at hdrain
    exact ⟨_, ConnectGrammar.withBlock_of_drain_error hdrain⟩

/-- Headers, and the JSON text of one value. -/
def platformOf (json : Json) (text : String) : Platform :=
  .ascii (fun b => if b = Utf8.encode text then .ok json else
      .error (.exception .valueError "no json")) (fun _ => text)
    (fun _ => []) (fun _ => .error (.exception .valueError "no status"))

theorem jsonLoads_platformOf (json : Json) (text : String) :
    (platformOf json text).jsonLoads (Utf8.encode text) = .ok json := if_pos rfl

/-- An error with a detail of three bytes. -/
def boom : ConnectError :=
  ⟨.internal, "boom", [.ofAny ⟨"type.googleapis.com/acme.Detail", [1, 2, 3]⟩]⟩

def boomPlatform : Platform :=
  platformOf (.obj [("error", .obj (wireError boom).toDict)])
    "\x7b\"error\": \x7b\"code\": \"internal\", \"message\": \"boom\", \"details\": [\x7b\"type\": \"acme.Detail\", \"value\": \"AQID\"\x7d]\x7d\x7d"

theorem connect_error_survives_boom :
    ∃ b received, connectEnd EnvelopeWriter.raw (Headers.empty boomPlatform)
        (some (wireError boom)) = .ok b
      ∧ Arrives boom received
      ∧ ∀ chunks : List Bytes, chunks.flatten = b → ∃ r,
        withBlock .connect (EnvelopeWriter.raw.reader none)
          (Reader.new none : Reader boomPlatform) chunks
          = ⟨[], r, some (.connectError received)⟩ := by
  have hfits : Fits EnvelopeWriter.raw none
      (endMessageData (Headers.empty boomPlatform) (some (wireError boom))) :=
    fits_raw (by decide +kernel)
  exact (connect_error_survives boomPlatform boom).2 EnvelopeWriter.raw none
    (Headers.empty boomPlatform) none nofun hfits (jsonLoads_platformOf _ _)

/-! ## What a peer may write -/

/-- The detail of a well-formed element: an object with a type and a value that is
    base64. -/
def wellFormed? : Json → Option ErrorDetail
  | .obj entries =>
      match Json.field "type" entries, Json.field "value" entries with
      | some (.str detailType), some (.str detailValue) =>
          (Base64.decodeStrict detailValue).map fun value =>
            .ofAny ⟨typeUrlPrefix ++ detailType, value⟩
      | _, _ => none
  | _ => none

/-- The details of the well-formed elements, in their order. -/
def wellFormed : Json → List ErrorDetail
  | .arr items => items.filterMap wellFormed?
  | _ => []

/-- Details whose malformed elements are all of the kind that is skipped. -/
def Readable (details : Json) : Prop :=
  details.truthy = false
    ∨ ∃ items, details = .arr items ∧ ∀ detail ∈ items, Skipped detail ∨ (wellFormed? detail).isSome

/-! ## One detail -/

theorem detailOf_wellFormed {detail : Json} {d : ErrorDetail} (h : wellFormed? detail = some d) :
    detailOf detail = .ok (some d) := by
  cases detail with
  | obj entries =>
      rw [wellFormed?.eq_def] at h
      dsimp only at h
      split at h
      · next detailType detailValue htype hvalue =>
          obtain ⟨value, hstrict, rfl⟩ := Option.map_eq_some_iff.mp h
          have hdecode : decodePadded detailValue = .ok value := by
            rw [decodePadded, Base64.decode_of_decodeStrict hstrict]
          rw [detailOf, htype, hvalue]
          dsimp only
          rw [hdecode]
      · cases h
  | null => cases h
  | bool b => cases h
  | int n => cases h
  | float bits => cases h
  | str s => cases h
  | arr items => cases h

/-! ## The loop -/

/-- The loop never returns fewer details than are well formed. -/
theorem length_wellFormed_le {items : List Json} {ds : List ErrorDetail}
    (h : detailsOf items = .ok ds) : (items.filterMap wellFormed?).length ≤ ds.length := by
  induction items generalizing ds with
  | nil => exact Nat.zero_le _
  | cons detail rest ih =>
      rw [detailsOf] at h
      split at h
      · cases h
      · next d hd =>
          split at h
          · cases h
          · next ds' hrest =>
              obtain rfl := Except.ok.inj h
              have hle := ih hrest
              rw [List.filterMap_cons, List.length_append]
              cases hw : wellFormed? detail with
              | none =>
                  dsimp only
                  omega
              | some w =>
                  rw [detailOf_wellFormed hw] at hd
                  obtain rfl := Except.ok.inj hd
                  dsimp only [Option.toList]
                  rw [List.length_cons, List.length_singleton]
                  omega

/-- **The loop returns the well-formed details** exactly when it can skip all others. -/
theorem detailsOf_iff (items : List Json) :
    detailsOf items = .ok (items.filterMap wellFormed?)
      ↔ ∀ detail ∈ items, Skipped detail ∨ (wellFormed? detail).isSome := by
  induction items with
  | nil => exact ⟨fun _ => List.forall_mem_nil _, fun _ => rfl⟩
  | cons detail rest ih =>
      rw [detailsOf, List.filterMap_cons, List.forall_mem_cons, ← ih]
      cases hw : wellFormed? detail with
      | some w =>
          rw [detailOf_wellFormed hw]
          dsimp only
          cases hrest : detailsOf rest with
          | error e => exact iff_of_false (by rintro ⟨⟩) (by rintro ⟨-, ⟨⟩⟩)
          | ok ds =>
              dsimp only [Option.toList]
              constructor
              · intro h
                injection h with h
                injection h with _ h
                exact ⟨Or.inr rfl, congrArg Except.ok h⟩
              · rintro ⟨-, h⟩
                rw [Except.ok.inj h]
                rfl
      | none =>
          dsimp only
          constructor
          · intro h
            split at h
            · cases h
            · next d hd =>
                split at h
                · cases h
                · next ds hrest =>
                    injection h with h
                    -- One detail more than there are well-formed ones is one too many.
                    cases d with
                    | some d =>
                        have hle := length_wellFormed_le hrest
                        rw [← h, Option.toList, List.length_append, List.length_singleton] at hle
                        omega
                    | none =>
                        exact ⟨Or.inl ((detailOf_none_iff detail).mp hd),
                          hrest.trans (congrArg Except.ok h)⟩
          · rintro ⟨hskipped | hsome, hrest⟩
            · rw [(detailOf_none_iff detail).mpr hskipped]
              dsimp only
              rw [hrest]
              rfl
            · cases hsome

/-- **Details are read as the well-formed ones** exactly when they are readable. -/
theorem detailsOfJson_iff (details : Json) :
    detailsOfJson details = .ok (wellFormed details) ↔ Readable details := by
  by_cases htruthy : details.truthy = true
  · have hreadable : Readable details
        ↔ ∃ items, details = .arr items
          ∧ ∀ detail ∈ items, Skipped detail ∨ (wellFormed? detail).isSome := by
      rw [Readable, htruthy]
      exact or_iff_right (by decide)
    rw [hreadable, detailsOfJson.eq_def, if_pos htruthy]
    cases details with
    | arr items =>
        refine (detailsOf_iff items).trans ⟨fun h => ⟨items, rfl, h⟩, ?_⟩
        rintro ⟨items', heq, h⟩
        injection heq with heq
        exact heq ▸ h
    | null => cases htruthy
    | bool b => exact iff_of_false (by rintro ⟨⟩) (by rintro ⟨items, ⟨⟩, -⟩)
    | int n => exact iff_of_false (by rintro ⟨⟩) (by rintro ⟨items, ⟨⟩, -⟩)
    | float bits => exact iff_of_false (by rintro ⟨⟩) (by rintro ⟨items, ⟨⟩, -⟩)
    | str s => exact iff_of_false (by rintro ⟨⟩) (by rintro ⟨items, ⟨⟩, -⟩)
    | obj entries => exact iff_of_false (by rintro ⟨⟩) (by rintro ⟨items, ⟨⟩, -⟩)
  · rw [detailsOfJson.eq_def, if_neg htruthy]
    refine iff_of_true ?_ (Or.inl (Bool.eq_false_iff.mpr htruthy))
    cases details with
    | arr items =>
        cases items with
        | nil => rfl
        | cons detail rest => exact absurd rfl htruthy
    | null => rfl
    | bool b => rfl
    | int n => rfl
    | float bits => rfl
    | str s => rfl
    | obj entries => rfl

/-! ## The error that is raised -/

/-- The details of an error object. -/
def detailsField (entries : List (String × Json)) : Json :=
  (Json.field "details" entries).getD .null

/-- An error object with a known code and with a message. -/
structure Reports (entries : List (String × Json)) (code : Code) (message : String) : Prop where
  code    : ∃ s, Json.field "code" entries = some (.str s) ∧ Code.ofValue? s = some code
  message : Json.field "message" entries = some (.str message)

/-- The error that was reported, malformed details ignored. -/
def reported (code : Code) (message : String) (entries : List (String × Json)) : ConnectError :=
  ⟨code, message, wellFormed (detailsField entries)⟩

/-- What is raised for an error object. -/
def raisedFor (p : Platform) (entries : List (String × Json)) (httpStatus : Nat)
    (unexpectedCode : Code) : Exc :=
  match ConnectWireError.fromDict p (.obj entries) httpStatus unexpectedCode with
  | .ok wireError => wireError.toException
  | .error e => e

/-- Only the details can go wrong. -/
theorem raisedFor_reports {entries : List (String × Json)} {code : Code} {message : String}
    (h : Reports entries code message) (httpStatus : Nat) (unexpectedCode : Code) :
    raisedFor p entries httpStatus unexpectedCode
      = match detailsOfJson (detailsField entries) with
        | .ok details => .connectError ⟨code, message, details⟩
        | .error e => e := by
  obtain ⟨s, hcode, hs⟩ := h.code
  have htruthy : (Json.str s).truthy = true := by
    rw [Json.truthy, bne_iff_ne]
    rintro rfl
    rw [show Code.ofValue? "" = none by decide +kernel] at hs
    cases hs
  rw [raisedFor, ConnectWireError.fromDict, hcode, h.message]
  dsimp only
  rw [Option.getD_some, if_pos htruthy, codeOf, hs, Option.getD_some, ← detailsField]
  cases detailsOfJson (detailsField entries) with
  | ok details => rfl
  | error e => rfl

/-- **The reported error is raised** exactly when its details are readable. -/
theorem raisedFor_iff {entries : List (String × Json)} {code : Code} {message : String}
    (h : Reports entries code message) (httpStatus : Nat) (unexpectedCode : Code) :
    raisedFor p entries httpStatus unexpectedCode = .connectError (reported code message entries)
      ↔ Readable (detailsField entries) := by
  rw [raisedFor_reports h, ← detailsOfJson_iff]
  cases hdetails : detailsOfJson (detailsField entries) with
  | ok details =>
      constructor
      · intro heq
        injection heq with heq
        injection heq with _ _ heq
        exact congrArg Except.ok heq
      · intro heq
        rw [Except.ok.inj heq]
        rfl
  | error e =>
      obtain ⟨cls, text, rfl, -⟩ := detailsOfJson_error hdetails
      exact ⟨fun heq => (nomatch heq), fun heq => (nomatch heq)⟩

/-- What else is raised is an error of the same code and message, or an exception
    of Python's own. -/
theorem raisedFor_cases {entries : List (String × Json)} {code : Code} {message : String}
    (h : Reports entries code message) (httpStatus : Nat) (unexpectedCode : Code) :
    (∃ details, raisedFor p entries httpStatus unexpectedCode
        = .connectError ⟨code, message, details⟩)
      ∨ Builtin (raisedFor p entries httpStatus unexpectedCode) := by
  rw [raisedFor_reports h]
  cases hdetails : detailsOfJson (detailsField entries) with
  | ok details => exact Or.inl ⟨details, rfl⟩
  | error e => exact Or.inr (detailsOfJson_error hdetails)

/-! ## An error in the body of a unary response -/

/-- A unary call whose response has an error object in its body. -/
structure BodyError (client : Client α β) (useGet : Bool) (requestHeaders : Headers p)
    (request : α) (send : HttpRequest → Except Exc (FullResponse p)) (resp : FullResponse p)
    (entries : List (String × Json)) : Prop where
  sent        : ∃ sent, unaryRequest client.requestCodec (client.sendCompression.getD .identity)
    useGet requestHeaders request = .ok sent ∧ send sent = .ok resp
  status      : resp.status ≠ 200
  valid       : validateResponse p client.codec.name resp.status (contentType resp.headers) = .ok ()
  compression : ∃ c, handleResponseCompression .connect false resp.headers
    client.responseCompressions = .ok c
  fits        : tooLarge resp.content.length client.readMaxBytes = none
  body        : p.jsonLoads resp.content = .ok (.obj entries)

theorem unaryTry_bodyError {client : Client α β} {useGet : Bool} {requestHeaders : Headers p}
    {request : α} {send : HttpRequest → Except Exc (FullResponse p)} {resp : FullResponse p}
    {entries : List (String × Json)}
    (h : BodyError client useGet requestHeaders request send resp entries) :
    unaryTry client useGet requestHeaders request send
      = .error (raisedFor p entries resp.status .unavailable) := by
  obtain ⟨sent, hrequest, hsend⟩ := h.sent
  obtain ⟨c, hc⟩ := h.compression
  rw [unaryTry, hrequest]
  dsimp only
  rw [hsend]
  dsimp only
  rw [unaryResponse, h.valid]
  dsimp only
  rw [hc, h.fits]
  dsimp only
  rw [if_neg h.status, responseError, fromResponse, h.body]
  rfl

/-- The clauses let the error through, and make UNAVAILABLE of an exception of
    Python's own. -/
theorem unaryClauses_raisedFor_iff {entries : List (String × Json)} {code : Code}
    {message : String} (h : Reports entries code message) (f : Flavor) (httpStatus : Nat)
    (unexpectedCode : Code)
    (hcode : code ≠ .unavailable ∨ Readable (detailsField entries)) :
    unaryClauses f (raisedFor p entries httpStatus unexpectedCode)
        = .connectError (reported code message entries)
      ↔ Readable (detailsField entries) := by
  rw [← raisedFor_iff (p := p) h httpStatus unexpectedCode]
  rcases raisedFor_cases (p := p) h httpStatus unexpectedCode with ⟨details, heq⟩ | hbuiltin
  · rw [heq]
    exact Iff.rfl
  · obtain ⟨cls, text, heq, htimeout⟩ := hbuiltin
    have hclauses : unaryClauses f (.exception cls text) = .connect .unavailable text := by
      cases cls <;> cases f <;> first | rfl | exact absurd rfl htimeout
    rw [heq, hclauses]
    constructor
    · intro hraised
      injection hraised with hraised
      injection hraised with hunavailable
      refine absurd (hcode.resolve_left fun hne => hne hunavailable.symm) fun hreadable => ?_
      rw [← raisedFor_iff (p := p) h httpStatus unexpectedCode, heq] at hreadable
      exact nomatch hreadable
    · intro hraised
      exact nomatch hraised

/-! ## An error in the message that ends a stream -/

/-- The metadata beside the error. -/
def metadataField (top : List (String × Json)) : Json := (Json.field "metadata" top).getD .null

/-- What is raised for an end message with an error: its metadata is handed over
    first. -/
def endRaises (current : Option (ResponseMetadata p)) (top entries : List (String × Json)) : Exc :=
  let handled :=
    if (metadataField top).truthy then
      handleResponseTrailers current (metadataPairs p (metadataField top))
    else (current, none)
  handled.2.getD (raisedFor p entries 500 .unknown)

/-- **The reported error is raised at the end** exactly when the metadata and the
    details are readable. -/
theorem endRaises_iff {entries : List (String × Json)} {code : Code} {message : String}
    (h : Reports entries code message) (current : Option (ResponseMetadata p))
    (top : List (String × Json)) :
    endRaises current top entries = .connectError (reported code message entries)
      ↔ MetadataReads current (metadataField top) ∧ Readable (detailsField entries) := by
  rw [endRaises]
  rcases metadata_handled current (metadataField top) with
    ⟨hreads, hnone⟩ | ⟨hnot, e, he, cls, text, rfl, -⟩
  · rw [hnone, Option.getD_none, raisedFor_iff h]
    exact ⟨fun hreadable => ⟨hreads, hreadable⟩, And.right⟩
  · rw [he]
    exact ⟨fun heq => (nomatch heq), fun hboth => absurd hboth.1 hnot⟩

/-- Bytes that are messages, then an end message, whatever follows it. -/
structure EndsWith (p : Platform) (cfg : ReaderConfig β) (ms : List β) (received : Bytes)
    (top : List (String × Json)) : Prop where
  frames : ∃ (b : Bytes) (f : Frame) (rest data : Bytes),
    ConnectGrammar.Messages cfg ms b ∧ received = b ++ (f.bytes ++ rest)
    ∧ f.flags &&& ~~~ReaderKind.connect.flagsMask = 0 ∧ f.flags &&& 0b10 ≠ 0
    ∧ exceeds f.payload.length cfg.readMaxBytes = false
    ∧ messageContents cfg f.flags f.payload = .ok data ∧ p.jsonLoads data = .ok (.obj top)

theorem handleFrame_endError {cfg : ReaderConfig β} {s : ReaderState p} {flags : UInt8}
    {payload data : Bytes} {top entries : List (String × Json)} (hflags : flags &&& 0b10 ≠ 0)
    (hdata : messageContents cfg flags payload = .ok data)
    (hjson : p.jsonLoads data = .ok (.obj top))
    (herror : Json.field "error" top = some (.obj entries)) (hne : entries ≠ []) :
    ∃ s', handleFrame .connect cfg s flags payload
      = .raised s' (endRaises s.response top entries) := by
  have htruthy : (Json.obj entries).truthy = true := by
    cases entries with
    | nil => exact absurd rfl hne
    | cons entry rest => rfl
  rw [handleFrame, hdata]
  dsimp only
  rw [handleEndMessage, handleConnectEnd, if_neg hflags, hjson]
  dsimp only
  rw [← metadataField, endRaises]
  cases (if (metadataField top).truthy = true then
      handleResponseTrailers s.response (metadataPairs p (metadataField top))
    else (s.response, none)).2 with
  | some e => exact ⟨_, rfl⟩
  | none =>
      dsimp only
      rw [herror, Option.getD_some, if_pos htruthy, Option.getD_none, raisedFor]
      cases ConnectWireError.fromDict p (.obj entries) 500 .unknown with
      | ok wireError => exact ⟨_, rfl⟩
      | error e => exact ⟨_, rfl⟩

/-- Over any chunks the reader yields the messages and raises for the error. -/
theorem feedAll_endError {cfg : ReaderConfig β} {ms : List β} {chunks : List Bytes}
    {top entries : List (String × Json)} (h : EndsWith p cfg ms chunks.flatten top)
    (herror : Json.field "error" top = some (.obj entries)) (hne : entries ≠ [])
    (response : Option (ResponseMetadata p)) :
    (feedAll .connect cfg (Reader.new response) chunks).messages = ms
      ∧ (feedAll .connect cfg (Reader.new response) chunks).error
        = some (endRaises response top entries) := by
  obtain ⟨b, f, rest, data, hms, hreceived, hlegal, hend, hfits, hdata, hjson⟩ := h.frames
  let s := ConnectGrammar.afterMessages .connect (ConnectGrammar.start response) ms
  have hresponse : s.response = response :=
    ConnectGrammar.afterMessages_response .connect ms (ConnectGrammar.start response)
  obtain ⟨s', hframe⟩ := handleFrame_endError (s := s) hend hdata hjson herror hne
  have hdrain := ConnectGrammar.drain_start_bytes hms hlegal hfits rest response
  rw [hframe, hresponse, ← hreceived] at hdrain
  obtain ⟨hmessages, herr, -⟩ := ConnectGrammar.feedAll_drain .connect cfg response hdrain
  exact ⟨hmessages, herr⟩

/-- A streaming call whose response ends with an error object, after some messages. -/
structure EndError (client : Client α β) (requests : Requests α) (x : Exchange p)
    (resp : Opened p) (ms : List β) (top entries : List (String × Json)) : Prop where
  protocol : client.protocol = .connect
  requests : ∃ content, requestContent client requests = .ok content
  inTime   : isOver x.timeoutMs = false
  opened   : x.opened = .ok resp
  status   : resp.status = 200
  valid    : validateStreamResponse .connect client.codec.name (contentType resp.headers) = .ok ()
  body     : ∃ compression, handleResponseCompression .connect true resp.headers
      client.responseCompressions = .ok compression
    ∧ EndsWith p ⟨client.codec, compression, client.readMaxBytes⟩ ms resp.chunks.flatten top
  error    : Json.field "error" top = some (.obj entries)
  exit     : ∀ e, resp.exit (some e) = some e

theorem metadataReads_handled (current : Option (ResponseMetadata p)) (status : Nat)
    (headers : p.HTTPHeaders) (metadata : Json) :
    MetadataReads (handleResponseHeaders current status headers) metadata
      ↔ MetadataReads current metadata := by
  rw [MetadataReads, MetadataReads, handleResponseHeaders, Option.isSome_map]

/-- What gets to the clauses of a streaming call. -/
theorem tryBody_endError {f : Flavor} {client : Client α β} {requests : Requests α}
    {x : Exchange p} {resp : Opened p} {ms : List β} {top entries : List (String × Json)}
    (h : EndError client requests x resp ms top entries) (hne : entries ≠ [])
    (current : Option (ResponseMetadata p)) :
    (tryBody f client requests x current).1.messages = ms
      ∧ (tryBody f client requests x current).1.error
        = some (endRaises (handleResponseHeaders current resp.status resp.headers) top entries) := by
  obtain ⟨content, hrequests⟩ := h.requests
  obtain ⟨compression, hcompression, hends⟩ := h.body
  obtain ⟨hmessages, herror⟩ := feedAll_endError hends h.error hne
    (handleResponseHeaders current resp.status resp.headers)
  rw [tryBody, hrequests, h.opened]
  dsimp only
  rw [withResponse, if_pos h.status, readBody, h.protocol, h.valid]
  dsimp only
  rw [hcompression]
  dsimp only
  rw [readerKind, herror, Option.some_or]
  exact ⟨hmessages, h.exit _⟩

/-! ## Malformed details -/

theorem reports_ne_nil {entries : List (String × Json)} {code : Code} {message : String}
    (h : Reports entries code message) : entries ≠ [] := by
  rintro rfl
  exact nomatch h.message

/-- **Malformed details.**  The reported error gets to the clauses of the client
    exactly when its details are readable and, at the end of a stream, the metadata
    beside it too; then it is what the client raises.  In a unary call it is raised
    exactly then, unless by chance it looks like what the clauses make of another
    exception. -/
theorem malformed_details_iff {entries : List (String × Json)} {code : Code} {message : String}
    (h : Reports entries code message) (f : Flavor) (client : Client α β) :
    (∀ (useGet : Bool) (requestHeaders : Headers p) (request : α) (timeoutMs : Option Int)
        (send : HttpRequest → Except Exc (FullResponse p)) (resp : FullResponse p),
      BodyError client useGet requestHeaders request send resp entries →
      (unaryTry client useGet requestHeaders request send
          = .error (.connectError (reported code message entries))
        ↔ Readable (detailsField entries))
      ∧ (isOver timeoutMs = false → code ≠ .unavailable ∨ Readable (detailsField entries) →
        (sendConnectUnary f client useGet requestHeaders request timeoutMs send
            = .error (.connectError (reported code message entries))
          ↔ Readable (detailsField entries))))
    ∧ ∀ (streamErrorCode : Exc → Option StreamErrorCode) (requests : Requests α) (x : Exchange p)
        (current : Option (ResponseMetadata p)) (resp : Opened p) (ms : List β)
        (top : List (String × Json)),
      EndError client requests x resp ms top entries →
      ((tryBody f client requests x current).1.error
          = some (.connectError (reported code message entries))
        ↔ MetadataReads current (metadataField top) ∧ Readable (detailsField entries))
      ∧ (MetadataReads current (metadataField top) ∧ Readable (detailsField entries) →
        sendRequestBidiStream streamErrorCode f client requests x current
          = (ms, some (.connectError (reported code message entries)))) := by
  constructor
  · intro useGet requestHeaders request timeoutMs send resp hbody
    rw [unaryTry_bodyError hbody]
    constructor
    · rw [Except.error.injEq]
      exact raisedFor_iff h resp.status .unavailable
    · intro htime hcode
      rw [sendConnectUnary, if_neg (by rw [htime]; exact Bool.false_ne_true),
        unaryTry_bodyError hbody]
      dsimp only
      rw [Except.error.injEq]
      exact unaryClauses_raisedFor_iff h f resp.status .unavailable hcode
  · intro streamErrorCode requests x current resp ms top hend
    -- The metadata are handled before the error, and may raise first.
    obtain ⟨hmessages, herror⟩ := tryBody_endError (f := f) hend (reports_ne_nil h) current
    have hiff := endRaises_iff h (handleResponseHeaders current resp.status resp.headers) top
    rw [metadataReads_handled] at hiff
    constructor
    · rw [herror, Option.some.injEq]
      exact hiff
    · intro hreads
      rw [sendRequestBidiStream, if_neg (by rw [hend.inTime]; exact Bool.false_ne_true)]
      dsimp only
      rw [hmessages, herror, hiff.mpr hreads]
      rfl

/-- NOT_FOUND, with some details. -/
def notFound (details : Json) : List (String × Json) :=
  [("code", .str "not_found"), ("message", .str "no"), ("details", details)]

theorem reports_notFound (details : Json) : Reports (notFound details) .notFound "no" where
  code := ⟨"not_found", rfl, by decide +kernel⟩
  message := rfl

/-- A client of the Connect protocol whose messages are bytes. -/
def connectClient : Client Bytes Bytes := { rawClient with protocol := .connect }

/-- An HTTP client that gets NOT_FOUND with some details. -/
def sendNotFound (details : Json) (text : String) :
    HttpRequest → Except Exc (FullResponse (platformOf (.obj (notFound details)) text)) :=
  fun _ => .ok ⟨404, Multimap.ofItems [("content-type", "application/json")], Utf8.encode text⟩

theorem bodyError_notFound (details : Json) (text : String) :
    BodyError connectClient false (Headers.empty (platformOf (.obj (notFound details)) text)) []
      (sendNotFound details text)
      ⟨404, Multimap.ofItems [("content-type", "application/json")], Utf8.encode text⟩
      (notFound details) where
  sent := ⟨_, rfl, rfl⟩
  status := nofun
  valid := by
    have htype : normalizeContentType (platformOf (.obj (notFound details)) text)
        (contentType (p := platformOf (.obj (notFound details)) text)
          (Multimap.ofItems [("content-type", "application/json")])) = "application/json" := by
      show asciiLower (Utf8.strip (before ';' ((Multimap.first?
        (Multimap.ofItems [("content-type", "application/json")])
        (asciiLower "content-type")).getD ""))) = "application/json"
      decide +kernel
    rw [validateResponse, htype]
    rfl
  compression := ⟨_, rfl⟩
  fits := rfl
  body := jsonLoads_platformOf _ _

/-- A detail without a value, which is skipped, and one of three bytes. -/
def someDetails : Json :=
  .arr [.obj [("type", .str "acme.Empty")],
    .obj [("type", .str "acme.Detail"), ("value", .str "AQID")]]

theorem readable_someDetails : Readable someDetails := by
  refine Or.inr ⟨_, rfl, fun detail hdetail => ?_⟩
  rcases List.mem_cons.mp hdetail with rfl | hdetail
  · exact Or.inl ⟨_, rfl, Or.inr (Or.inl rfl)⟩
  · obtain rfl := List.mem_singleton.mp hdetail
    exact Or.inr (by decide +kernel)

theorem empty_small : ([] : Bytes).length < 0x100000000 := by decide

/-- A frame that ends a stream. -/
def endFrame : Frame := ⟨2, [], empty_small⟩

/-- A response that ends with NOT_FOUND. -/
def notFoundEnd (details : Json) :
    Opened (platformOf (.obj [("error", .obj (notFound details))]) "") where
  status := 200
  headers := Multimap.ofItems [("content-type", "application/connect+raw")]
  chunks := [endFrame.bytes]
  broken := none
  trailers := Dict.empty
  exit := id

theorem endError_notFound (details : Json) :
    EndError connectClient (.list ([] : List Bytes))
      ⟨none, .ok (notFoundEnd details), none, none⟩ (notFoundEnd details) []
      [("error", .obj (notFound details))] (notFound details) where
  protocol := rfl
  requests := ⟨_, rfl⟩
  inTime := rfl
  opened := rfl
  status := rfl
  valid := by
    have htype : contentType (notFoundEnd details).headers = "application/connect+raw" := by
      show (Multimap.first? (Multimap.ofItems [("content-type", "application/connect+raw")])
        (asciiLower "content-type")).getD "" = _
      decide +kernel
    rw [htype]
    rfl
  body := ⟨.identity, rfl, [], endFrame, [], [], .nil,
    by simp [notFoundEnd], by decide, by decide, rfl, rfl, jsonLoads_platformOf _ _⟩
  error := rfl
  exit := fun _ => rfl

theorem malformed_details_skipped :
    sendConnectUnary .async connectClient false (Headers.empty _) [] none
        (sendNotFound someDetails "")
      = .error (.connectError ⟨.notFound, "no",
        [.ofAny ⟨"type.googleapis.com/acme.Detail", [1, 2, 3]⟩]⟩)
    ∧ sendRequestBidiStream (fun _ => none) .async connectClient (.list ([] : List Bytes))
        ⟨none, .ok (notFoundEnd someDetails), none, none⟩ none
      = ([], some (.connectError ⟨.notFound, "no",
        [.ofAny ⟨"type.googleapis.com/acme.Detail", [1, 2, 3]⟩]⟩)) := by
  have hdetails : wellFormed someDetails
      = [.ofAny ⟨"type.googleapis.com/acme.Detail", [1, 2, 3]⟩] := by
    have hvalue : Base64.decodeStrict "AQID" = some [1, 2, 3] := by decide +kernel
    simp [wellFormed, someDetails, wellFormed?, Json.field, hvalue, typeUrlPrefix]
  rw [← hdetails]
  constructor
  · exact (((malformed_details_iff (reports_notFound someDetails) .async connectClient).1 false
      (Headers.empty _) [] none (sendNotFound someDetails "") _
      (bodyError_notFound someDetails "")).2 rfl (Or.inl nofun)).mpr readable_someDetails
  · exact ((malformed_details_iff (reports_notFound someDetails) .async connectClient).2
      (fun _ => none) (.list []) _ none _ [] _ (endError_notFound someDetails)).2
      ⟨fun h => (nomatch h), readable_someDetails⟩

/-- A text where the details should be makes UNAVAILABLE of NOT_FOUND. -/
theorem details_text_hides_error :
    Reports (notFound (.str "x")) .notFound "no"
      ∧ BodyError connectClient false
        (Headers.empty (platformOf (.obj (notFound (.str "x"))) "")) []
        (sendNotFound (.str "x") "")
        ⟨404, Multimap.ofItems [("content-type", "application/json")], []⟩ (notFound (.str "x"))
      ∧ sendConnectUnary .async connectClient false (Headers.empty _) [] none
          (sendNotFound (.str "x") "")
        = .error (.connect .unavailable "'str' object has no attribute 'get'") := by
  have hbody := bodyError_notFound (.str "x") ""
  refine ⟨reports_notFound _, hbody, ?_⟩
  rw [sendConnectUnary, if_neg (by decide), unaryTry_bodyError hbody,
    raisedFor_reports (reports_notFound _)]
  rfl

end ConnectErrorJson
