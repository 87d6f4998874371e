import ConnectPy.ContentTypeProofs
import ConnectPy.UnaryGetProofs

/-! # A client call — which exceptions leave it

    `_send_request_unary` and `_send_request_bidi_stream` of the two clients, over
    everything that can become of an HTTP exchange: the request may not get out,
    the response may be anything, it may break off after any chunks, and leaving
    its context manager may raise.  The two bidirectional functions differ in a few
    lines only, so they are one definition over a `Flavor`.

    The `except` clauses turn what was raised into a `ConnectError`, and one of them
    runs code that may itself raise: for a reset of the stream,
    `handle_response_complete` reads the status of the trailers once more.  A call
    lets out another exception exactly when that raises one
    (`only_connect_errors_iff`). -/

namespace ConnectClient

open Utf8 (Bytes)
open OrderedDict
open ConnectErrors ConnectPlatform ConnectHeaders ConnectWireErrors ConnectGrpcStatus
open ConnectEnvelope ConnectWriter ConnectUnaryRequest ConnectClientRequest ConnectContentType
open ConnectNegotiation ConnectUnaryGet

variable {p : Platform} {α β : Type}

/-! ## Unary responses -/

/-- `pyqwest.FullResponse`; its content is decompressed. -/
structure FullResponse (p : Platform) where
  status  : Nat
  headers : p.HTTPHeaders
  content : Bytes

/-- `isinstance(e, ValueError)`. -/
def isValueError : Exc → Bool
  | .exception .valueError _ => true
  | .exception (.other name) _ => name == "JSONDecodeError" || name == "UnicodeDecodeError"
  | _ => false

/-- `ConnectWireError.from_response`. -/
def fromResponse (resp : FullResponse p) : Except Exc ConnectWireError :=
  match p.jsonLoads resp.content with
  | .ok (.obj entries) => ConnectWireError.fromDict p (.obj entries) resp.status .unavailable
  | .ok _ => .ok (.fromHttpStatus resp.status)
  | .error e => if isValueError e then .ok (.fromHttpStatus resp.status) else .error e

/-- `raise ConnectWireError.from_response(resp).to_exception()`. -/
def responseError (resp : FullResponse p) : Exc :=
  match fromResponse resp with
  | .ok wireError => wireError.toException
  | .error e => e

/-- `resp.headers.get("content-type", "")`. -/
def contentType (headers : p.HTTPHeaders) : String :=
  (p.getHeader headers "content-type").getD ""

/-- `_send_request_unary`, from where the response is there. -/
def unaryResponse (codec : Codec β) (compressions : Compressions) (readMaxBytes : Option Int)
    (resp : FullResponse p) : Except Exc β :=
  match validateResponse p codec.name resp.status (contentType resp.headers) with
  | .error e => .error e
  | .ok () =>
      -- The HTTP client has decompressed the content; the encoding is only checked.
      match handleResponseCompression .connect false resp.headers compressions with
      | .error e => .error e
      | .ok _ =>
          match tooLarge resp.content.length readMaxBytes with
          | some e => .error e
          | none =>
              if resp.status = 200 then decodeMessage codec resp.content
              else .error (responseError resp)

/-! ## Streaming responses -/

/-- The clients of the two modules. -/
inductive Flavor where
  | async | sync
  deriving DecidableEq, Repr

/-- What a call uses of its client; the codec is one object, here with the class of
    the requests and that of the responses. -/
structure Client (α β : Type) where
  protocol             : ClientProtocol
  requestCodec         : Codec α
  codec                : Codec β
  sendCompression      : Option Compression
  responseCompressions : Compressions
  readMaxBytes         : Option Int

/-- A response under way: the chunks of its body, what is raised instead of a
    further chunk if it breaks off, its trailers then, and what the context manager
    of the response raises when it is left with an exception or without one. -/
structure Opened (p : Platform) where
  status   : Nat
  headers  : p.HTTPHeaders
  chunks   : List Bytes
  broken   : Option Exc
  trailers : p.HTTPHeaders
  exit     : Option Exc → Option Exc

/-- What becomes of a streaming call outside the client: the response, and
    `ctx.timeout_ms`, the time left, when the call starts, when the body is over and
    when a reset is handled. -/
structure Exchange (p : Platform) where
  timeoutMs     : Option Int
  opened        : Except Exc (Opened p)
  timeAfterBody : Option Int
  timeAtReset   : Option Int

/-- The requests of a call: a list, encoded at once, or an iterator, which the HTTP
    client consumes. -/
inductive Requests (α : Type) where
  | list (messages : List α)
  | iterator

/-- `_request_content`. -/
def requestContent (client : Client α β) : Requests α → Except Exc (Option Bytes)
  | .list messages =>
      (EnvelopeWriter.writeAll ⟨client.requestCodec, client.sendCompression⟩ messages).map some
  | .iterator => .ok none

/-- The class of `create_envelope_reader`. -/
def readerKind : ClientProtocol → ReaderKind
  | .connect => .connect
  | .grpc => .grpc
  | .grpcWeb => .grpcWeb

/-- The variables of a call when control leaves the `with` block: the messages
    yielded, `reader`, `stream_error`, the ambient metadata, and the exception. -/
structure Left (p : Platform) (β : Type) where
  messages    : List β
  reader      : Option (Reader p)
  streamError : Option Exc
  response    : Option (ResponseMetadata p)
  error       : Option Exc

/-- `time is not None and time <= 0`. -/
def isOver : Option Int → Bool
  | none => false
  | some t => t ≤ 0

def timeoutError : Exc := .exception .timeoutError ""

/-- `except ConnectError as e: stream_error = e`, in the sync client only. -/
def Flavor.streamError (f : Flavor) (e : Exc) : Option Exc :=
  if f = .sync ∧ e.isConnectError = true then some e else none

/-- The block of the reader that follows the last chunk, and the end of the
    response.  The sync client looks at its timeout once more. -/
def endBody (f : Flavor) (kind : ReaderKind) (resp : Opened p) (timeLeft : Option Int)
    (d : Drained p β) : Left p β :=
  if f = .sync ∧ isOver timeLeft = true then
    ⟨d.messages, some d.reader, none, d.reader.response, some timeoutError⟩
  else
    match checkEnded kind d.reader with
    | some e => ⟨d.messages, some d.reader, none, d.reader.response, some e⟩
    | none =>
        let completed := handleResponseComplete kind d.reader ⟨resp.headers, resp.trailers⟩ none
        ⟨d.messages, some completed.1, none, completed.1.response, completed.2⟩

/-- The body of a response whose status is 200. -/
def readBody (f : Flavor) (client : Client α β) (resp : Opened p) (timeLeft : Option Int)
    (response : Option (ResponseMetadata p)) : Left p β :=
  match validateStreamResponse client.protocol client.codec.name (contentType resp.headers) with
  | .error e => ⟨[], none, none, response, some e⟩
  | .ok () =>
      match handleResponseCompression client.protocol true resp.headers
          client.responseCompressions with
      | .error e => ⟨[], none, none, response, some e⟩
      | .ok compression =>
          let kind := readerKind client.protocol
          let d := feedAll kind ⟨client.codec, compression, client.readMaxBytes⟩
            (Reader.new response) resp.chunks
          match d.error.or resp.broken with
          | some e => ⟨d.messages, some d.reader, f.streamError e, d.reader.response, some e⟩
          | none => endBody f kind resp timeLeft d

/-- The `with` block around the response. -/
def withResponse (f : Flavor) (client : Client α β) (resp : Opened p) (timeLeft : Option Int)
    (current : Option (ResponseMetadata p)) : Left p β :=
  let response := handleResponseHeaders current resp.status resp.headers
  if resp.status = 200 then readBody f client resp timeLeft response
  else
    ⟨[], none, none, response,
      some (resp.broken.getD (responseError ⟨resp.status, resp.headers, resp.chunks.flatten⟩))⟩

/-! ## The except clauses -/

/-- `pyqwest.StreamErrorCode`. -/
inductive StreamErrorCode where
  | noError | protocolError | internalError | flowControlError | settingsTimeout
  | streamClosed | frameSizeError | refusedStream | cancel | compressionError
  | connectError | enhanceYourCalm | inadequateSecurity | http11Required
  deriving DecidableEq, Repr

/-- `maybe_map_stream_reset` for the code of a `StreamError`. -/
def mapStreamReset (code : StreamErrorCode) (msg : String) (timeLeft : Option Int) :
    Option ConnectError :=
  match code with
  | .noError | .protocolError | .internalError | .flowControlError | .settingsTimeout
  | .frameSizeError | .compressionError | .connectError => some ⟨.internal, msg, []⟩
  | .refusedStream => some ⟨.unavailable, msg, []⟩
  | .cancel =>
      -- Some servers use it when the deadline expires.
      if isOver timeLeft then some ⟨.deadlineExceeded, msg, []⟩ else some ⟨.canceled, msg, []⟩
  | .enhanceYourCalm => some ⟨.resourceExhausted, s!"Bandwidth exhausted: {msg}", []⟩
  | .inadequateSecurity => some ⟨.permissionDenied, s!"Transport protocol insecure: {msg}", []⟩
  | .streamClosed | .http11Required => none

section Clauses

-- The code of an exception that is a `StreamError`.
variable (streamErrorCode : Exc → Option StreamErrorCode)

/-- `maybe_map_stream_reset`. -/
def maybeMapStreamReset (e : Exc) (timeLeft : Option Int) : Option ConnectError :=
  (streamErrorCode e).bind fun code => mapStreamReset code e.text timeLeft

/-- `if reader and resp: reader.handle_response_complete(resp, rst_err)` and
    `raise rst_err`. -/
def raiseReset (kind : ReaderKind) (reader : Option (Reader p)) (resp : Option (Opened p))
    (reset : ConnectError) : Exc :=
  match reader, resp with
  | some reader, some resp =>
      ((handleResponseComplete kind reader ⟨resp.headers, resp.trailers⟩ (some reset)).2).getD
        (.connectError reset)
  | _, _ => .connectError reset

/-- `except Exception`. -/
def exceptException (kind : ReaderKind) (l : Left p β) (resp : Option (Opened p))
    (timeLeft : Option Int) (e : Exc) : Exc :=
  match l.streamError with
  | some streamError => streamError
  | none =>
      match maybeMapStreamReset streamErrorCode e timeLeft with
      | some reset => raiseReset kind l.reader resp reset
      | none => .connect .unavailable e.text

/-- `except TimeoutError`, `except ConnectError` and, in the async client,
    `except CancelledError`; none for an exception they leave to the last clause or
    let pass. -/
def firstClauses (f : Flavor) (e : Exc) : Option Exc :=
  if e.isTimeoutError then some (.connect .deadlineExceeded "Request timed out")
  else if e.isConnectError then some e
  else if f = .async ∧ e.isCancellation = true then
    some (.connect .canceled "Request was cancelled")
  else none

/-- The clauses of `_send_request_bidi_stream`. -/
def exceptClauses (f : Flavor) (kind : ReaderKind) (l : Left p β) (resp : Option (Opened p))
    (timeLeft : Option Int) (e : Exc) : Exc :=
  match firstClauses f e with
  | some e => e
  | none =>
      if e.isException then exceptException streamErrorCode kind l resp timeLeft e else e

/-- Where a call stands before the response. -/
def Left.before (current : Option (ResponseMetadata p)) (e : Exc) : Left p β :=
  ⟨[], none, none, current, some e⟩

/-- The `try` statement: what its body leaves, the response it got, and the
    exception that gets to the clauses. -/
def tryBody (f : Flavor) (client : Client α β) (requests : Requests α) (x : Exchange p)
    (current : Option (ResponseMetadata p)) : Left p β × Option (Opened p) :=
  match requestContent client requests with
  | .error e => (.before current e, none)
  | .ok _ =>
      match x.opened with
      | .error e => (.before current e, none)
      | .ok resp =>
          let l := withResponse f client resp x.timeAfterBody current
          ({ l with error := resp.exit l.error }, some resp)

/-- `_send_request_bidi_stream`, to its end. -/
def sendRequestBidiStream (f : Flavor) (client : Client α β) (requests : Requests α)
    (x : Exchange p) (current : Option (ResponseMetadata p)) : List β × Option Exc :=
  if isOver x.timeoutMs then
    ([], some (.connect .deadlineExceeded "Request timed out"))
  else
    let left := tryBody f client requests x current
    (left.1.messages, left.1.error.map
      (exceptClauses streamErrorCode f (readerKind client.protocol) left.1 left.2
        x.timeAtReset))

/-- `_consume_single_response`. -/
def consumeSingleResponse (stream : List β × Option Exc) : Except Exc β :=
  match stream with
  | (_ :: _ :: _, _) =>
      .error (.connect .unimplemented "unary response has multiple messages")
  | (_, some e) => .error e
  | ([message], none) => .ok message
  | ([], none) => .error (.connect .unimplemented "unary response has zero messages")

/-- The clauses of `_send_request_unary`. -/
def unaryClauses (f : Flavor) (e : Exc) : Exc :=
  match firstClauses f e with
  | some e => e
  | none => if e.isException then .connect .unavailable e.text else e

/-- What a unary call of the Connect protocol does in its `try` statement: `send` is
    the HTTP client. -/
def unaryTry (client : Client α β) (useGet : Bool) (requestHeaders : Headers p) (request : α)
    (send : HttpRequest → Except Exc (FullResponse p)) : Except Exc β :=
  match unaryRequest client.requestCodec (client.sendCompression.getD .identity) useGet
      requestHeaders request with
  | .error e => .error e
  | .ok sent =>
      match send sent with
      | .error e => .error e
      | .ok resp =>
          unaryResponse client.codec client.responseCompressions client.readMaxBytes resp

/-- The part of `_send_request_unary` that is for the Connect protocol. -/
def sendConnectUnary (f : Flavor) (client : Client α β) (useGet : Bool)
    (requestHeaders : Headers p) (request : α) (timeoutMs : Option Int)
    (send : HttpRequest → Except Exc (FullResponse p)) : Except Exc β :=
  if isOver timeoutMs then .error (.connect .deadlineExceeded "Request timed out")
  else
    match unaryTry client useGet requestHeaders request send with
    | .ok message => .ok message
    | .error e => .error (unaryClauses f e)

/-- `_send_request_unary`: the Connect protocol sends one request, the others are
    streams of one message. -/
def sendRequestUnary (f : Flavor) (client : Client α β) (useGet : Bool)
    (requestHeaders : Headers p) (request : α)
    (send : HttpRequest → Except Exc (FullResponse p)) (x : Exchange p)
    (current : Option (ResponseMetadata p)) : Except Exc β :=
  if client.protocol = .connect then
    sendConnectUnary f client useGet requestHeaders request x.timeoutMs send
  else consumeSingleResponse
    (sendRequestBidiStream streamErrorCode f client (.list [request]) x current)

end Clauses

/-! ## Statuses that cannot be read -/

/-- An exception that is no `ConnectError`. -/
def Foreign (e : Exc) : Prop := e.isException = true ∧ e.isConnectError = false

theorem not_foreign {e : Exc} (h : e.isConnectError = true) : ¬ Foreign e := by
  rintro ⟨-, hfalse⟩
  rw [h] at hfalse
  exact nomatch hfalse

/-- `Status.from_binary(b64decode(details + "==="))`. -/
def readDetails (p : Platform) (details : String) : Except Exc Status :=
  match decodePadded details with
  | .error e => .error e
  | .ok bin => p.statusFromBinary bin

/-- A status that is not OK and whose details cannot be read. -/
structure MalformedStatus (t : p.HTTPHeaders) : Prop where
  notOk      : ∃ status, p.getHeader t "grpc-status" = some status ∧ status ≠ "0"
  unreadable : ∃ details e, p.getHeader t "grpc-status-details-bin" = some details
    ∧ details ≠ "" ∧ readDetails p details = .error e ∧ Foreign e

/-- Trailers, or the headers of a response without messages. -/
def trailersOrHeaders (t headers : p.HTTPHeaders) (readMessage : Bool) : Option p.HTTPHeaders :=
  if (p.getHeader t "grpc-status").isSome then some t
  else if readMessage then none
  else some headers

/-- Where `handle_response_complete` reads the status, if it does. -/
def statusSource (kind : ReaderKind) (reader : Reader p) (resp : Opened p) :
    Option p.HTTPHeaders :=
  match kind with
  | .grpc => trailersOrHeaders resp.trailers resp.headers reader.readMessage
  | .grpcWeb => trailersOrHeaders reader.trailers resp.headers reader.readMessage
  | _ => none

/-- HTTP headers are texts, so adding them to the ambient trailers does not fail. -/
theorem handleResponseTrailers_httpPairs (current : Option (ResponseMetadata p))
    (t : p.HTTPHeaders) : (handleResponseTrailers current (httpPairs t)).2 = none := by
  cases current with
  | none => rfl
  | some response =>
      rw [handleResponseTrailers]
      cases response.trailers with
      | some trailers => rfl
      | none =>
          dsimp only
          split <;> rfl

/-- Details that are not empty decide: what reading them raises, or a `ConnectError`. -/
theorem raiseStatus_details {t : p.HTTPHeaders} {status details : String} (hok : status ≠ "0")
    (hdetails : p.getHeader t "grpc-status-details-bin" = some details) (hne : details ≠ "")
    (error : Option ConnectError) :
    ∃ c, raiseStatus t status error = match readDetails p details with
      | .error e => some e
      | .ok _ => some (.connectError c) := by
  have hd : (p.getHeader t "grpc-status-details-bin").filter (fun s => s ≠ "") = some details := by
    rw [hdetails, Option.filter_some, if_pos (by simpa using hne)]
  rw [raiseStatus]
  dsimp only
  rw [if_neg hok, hd, readDetails]
  dsimp only
  cases decodePadded details with
  | error e => exact ⟨⟨.unknown, "", []⟩, rfl⟩
  | ok bin =>
      dsimp only
      cases p.statusFromBinary bin with
      | error e => exact ⟨⟨.unknown, "", []⟩, rfl⟩
      | ok s => exact ⟨_, rfl⟩

/-- Without details the code and the message make a `ConnectError`. -/
theorem raiseStatus_plain {t : p.HTTPHeaders} {status : String} (hok : status ≠ "0")
    (hd : (p.getHeader t "grpc-status-details-bin").filter (fun s => s ≠ "") = none)
    (error : Option ConnectError) :
    ∃ c, raiseStatus t status error = some (.connectError c) := by
  rw [raiseStatus]
  dsimp only
  rw [if_neg hok, hd]
  exact ⟨_, rfl⟩

/-- Raising a status lets out what reading its details lets out, and else a
    `ConnectError` if anything. -/
theorem raiseStatus_foreign_iff {t : p.HTTPHeaders} {status : String}
    (hstatus : p.getHeader t "grpc-status" = some status) (error : Option ConnectError) :
    (∃ e, raiseStatus t status error = some e ∧ Foreign e) ↔ MalformedStatus t := by
  constructor
  · rintro ⟨e, he, hf⟩
    have hok : status ≠ "0" := by
      rintro rfl
      rw [raiseStatus_zero] at he
      exact nomatch he
    cases hd : (p.getHeader t "grpc-status-details-bin").filter (fun s => s ≠ "") with
    | none =>
        obtain ⟨c, hc⟩ := raiseStatus_plain hok hd error
        rw [hc] at he
        exact absurd hf (not_foreign (Option.some.inj he ▸ rfl))
    | some details =>
        obtain ⟨hdetails, hne⟩ := Option.filter_eq_some_iff.mp hd
        have hne : details ≠ "" := by simpa using hne
        obtain ⟨c, hc⟩ := raiseStatus_details hok hdetails hne error
        rw [hc] at he
        cases hread : readDetails p details with
        | error x =>
            rw [hread] at he
            obtain rfl := Option.some.inj he
            exact ⟨⟨status, hstatus, hok⟩, details, x, hdetails, hne, hread, hf⟩
        | ok s =>
            rw [hread] at he
            exact absurd hf (not_foreign (Option.some.inj he ▸ rfl))
  · rintro ⟨⟨status', hs, hok⟩, details, e, hdetails, hne, hread, hf⟩
    rw [hstatus] at hs
    obtain rfl := Option.some.inj hs
    obtain ⟨c, hc⟩ := raiseStatus_details hok hdetails hne error
    rw [hread] at hc
    exact ⟨e, hc, hf⟩

/-- The end of a gRPC response whose status is looked for in some trailers. -/
theorem readStatus_foreign_iff (r : Reader p) (t : p.HTTPHeaders) (reset : ConnectError) :
    (∃ e, (readStatus r t (some reset)).2 = some e ∧ Foreign e) ↔ MalformedStatus t := by
  rw [readStatus, handleResponseTrailers_httpPairs]
  cases hs : p.getHeader t "grpc-status" with
  | some status => exact raiseStatus_foreign_iff hs (some reset)
  | none =>
      constructor
      · rintro ⟨e, he, hf⟩
        exact absurd hf (not_foreign (Option.some.inj he ▸ rfl))
      · rintro ⟨⟨status, hstatus, -⟩, -⟩
        rw [hs] at hstatus
        cases hstatus

theorem handleGrpcComplete_foreign_iff (r : Reader p) (t headers : p.HTTPHeaders)
    (reset : ConnectError) :
    (∃ e, (handleGrpcComplete r t headers (some reset)).2 = some e ∧ Foreign e)
      ↔ ∃ s, trailersOrHeaders t headers r.readMessage = some s ∧ MalformedStatus s := by
  rw [handleGrpcComplete, trailersOrHeaders]
  cases hs : p.getHeader t "grpc-status" with
  | some status =>
      rw [Option.isSome_some, if_pos rfl]
      refine (readStatus_foreign_iff r t reset).trans ?_
      constructor
      · exact fun h => ⟨t, rfl, h⟩
      · rintro ⟨s, hs, h⟩
        exact Option.some.inj hs ▸ h
  | none =>
      rw [Option.isSome_none, if_neg Bool.false_ne_true]
      dsimp only
      cases r.readMessage with
      | true =>
          rw [if_pos rfl, if_pos rfl]
          constructor
          · rintro ⟨e, he, hf⟩
            exact absurd hf (not_foreign (Option.some.inj he ▸ rfl))
          · rintro ⟨s, ⟨⟩, -⟩
      | false =>
          rw [if_neg Bool.false_ne_true, if_neg Bool.false_ne_true]
          refine (readStatus_foreign_iff r headers reset).trans ?_
          constructor
          · exact fun h => ⟨headers, rfl, h⟩
          · rintro ⟨s, hs, h⟩
            exact Option.some.inj hs ▸ h

theorem handleResponseComplete_foreign_iff (kind : ReaderKind) (r : Reader p) (o : Opened p)
    (reset : ConnectError) :
    (∃ e, (handleResponseComplete kind r ⟨o.headers, o.trailers⟩ (some reset)).2 = some e
        ∧ Foreign e)
      ↔ ∃ t, statusSource kind r o = some t ∧ MalformedStatus t := by
  cases kind with
  | server => exact ⟨fun ⟨e, he, _⟩ => (nomatch he), fun ⟨t, ht, _⟩ => (nomatch ht)⟩
  | connect => exact ⟨fun ⟨e, he, _⟩ => (nomatch he), fun ⟨t, ht, _⟩ => (nomatch ht)⟩
  | grpc => exact handleGrpcComplete_foreign_iff r o.trailers o.headers reset
  | grpcWeb => exact handleGrpcComplete_foreign_iff r r.trailers o.headers reset

/-- **What raising a reset may let out**: what reading the status that came with it
    does. -/
theorem raiseReset_foreign_iff (kind : ReaderKind) (reader : Option (Reader p))
    (resp : Option (Opened p)) (reset : ConnectError) :
    Foreign (raiseReset kind reader resp reset)
      ↔ ∃ r o t, reader = some r ∧ resp = some o ∧ statusSource kind r o = some t
        ∧ MalformedStatus t := by
  have hreset : ¬ Foreign (.connectError reset) := not_foreign rfl
  cases reader with
  | none =>
      refine ⟨fun h => absurd h hreset, ?_⟩
      rintro ⟨r, o, t, hr, -⟩
      exact nomatch hr
  | some r =>
      cases resp with
      | none =>
          refine ⟨fun h => absurd h hreset, ?_⟩
          rintro ⟨r, o, t, -, ho, -⟩
          exact nomatch ho
      | some o =>
          have hgetD : Foreign (raiseReset kind (some r) (some o) reset)
              ↔ ∃ e, (handleResponseComplete kind r ⟨o.headers, o.trailers⟩ (some reset)).2
                = some e ∧ Foreign e := by
            rw [raiseReset]
            cases (handleResponseComplete kind r ⟨o.headers, o.trailers⟩ (some reset)).2 with
            | none => exact ⟨fun h => absurd h hreset, fun ⟨e, he, _⟩ => nomatch he⟩
            | some e => exact ⟨fun h => ⟨e, rfl, h⟩, fun ⟨e, he, h⟩ => Option.some.inj he ▸ h⟩
          refine hgetD.trans ((handleResponseComplete_foreign_iff kind r o reset).trans ?_)
          constructor
          · rintro ⟨t, ht, hm⟩
            exact ⟨r, o, t, rfl, rfl, ht, hm⟩
          · rintro ⟨r', o', t, hr, ho, ht, hm⟩
            obtain rfl := Option.some.inj hr
            obtain rfl := Option.some.inj ho
            exact ⟨t, ht, hm⟩

/-! ## What leaves a call -/

section Calls

variable (streamErrorCode : Exc → Option StreamErrorCode)

theorem firstClauses_connectError {f : Flavor} {e e' : Exc} (h : firstClauses f e = some e') :
    e'.isConnectError = true := by
  rw [firstClauses] at h
  split at h
  · exact Option.some.inj h ▸ rfl
  · split at h
    · next hc => exact Option.some.inj h ▸ hc
    · split at h
      · exact Option.some.inj h ▸ rfl
      · exact nomatch h

/-- An exception that is mapped to a reset of the stream, with a status in the
    response that cannot be read. -/
structure MalformedReset (f : Flavor) (kind : ReaderKind) (l : Left p β)
    (resp : Option (Opened p)) (time : Option Int) (e : Exc) : Prop where
  exception : firstClauses f e = none ∧ e.isException = true
  own       : l.streamError = none
  reset     : ∃ reset, maybeMapStreamReset streamErrorCode e time = some reset
  status    : ∃ r o t, l.reader = some r ∧ resp = some o ∧ statusSource kind r o = some t
    ∧ MalformedStatus t

/-- **The clauses**, whatever gets to them. -/
theorem exceptClauses_foreign_iff {f : Flavor} {kind : ReaderKind} {l : Left p β}
    {resp : Option (Opened p)} {time : Option Int} {e : Exc}
    (hstream : ∀ e', l.streamError = some e' → e'.isConnectError = true) :
    Foreign (exceptClauses streamErrorCode f kind l resp time e)
      ↔ MalformedReset streamErrorCode f kind l resp time e := by
  rw [exceptClauses]
  cases hfirst : firstClauses f e with
  | some e' =>
      refine ⟨fun h => absurd h (not_foreign (firstClauses_connectError hfirst)), fun h => ?_⟩
      rw [h.exception.1] at hfirst
      exact nomatch hfirst
  | none =>
      dsimp only
      by_cases hexc : e.isException = true
      · rw [if_pos hexc, exceptException]
        cases hs : l.streamError with
        | some e' =>
            refine ⟨fun h => absurd h (not_foreign (hstream e' hs)), fun h => ?_⟩
            rw [h.own] at hs
            exact nomatch hs
        | none =>
            dsimp only
            cases hm : maybeMapStreamReset streamErrorCode e time with
            | none =>
                refine ⟨fun h => absurd h (not_foreign rfl), fun h => ?_⟩
                obtain ⟨reset, hreset⟩ := h.reset
                rw [hm] at hreset
                exact nomatch hreset
            | some reset =>
                refine (raiseReset_foreign_iff kind l.reader resp reset).trans ?_
                exact ⟨fun h => ⟨⟨hfirst, hexc⟩, hs, ⟨reset, hm⟩, h⟩, fun h => h.status⟩
      · -- A `BaseException` passes, and is no `Exception`.
        rw [if_neg hexc]
        exact ⟨fun h => absurd h.1 hexc, fun h => absurd h.exception.2 hexc⟩

/-- `stream_error` is a `ConnectError`. -/
theorem withResponse_streamError {f : Flavor} {client : Client α β} {resp : Opened p}
    {time : Option Int} {current : Option (ResponseMetadata p)} {e : Exc}
    (h : (withResponse f client resp time current).streamError = some e) :
    e.isConnectError = true := by
  rw [withResponse] at h
  split at h
  · rw [readBody] at h
    split at h
    · cases h
    · split at h
      · cases h
      · dsimp only at h
        split at h
        · dsimp only at h
          rw [Flavor.streamError] at h
          split at h
          · next hc => exact Option.some.inj h ▸ hc.2
          · cases h
        · rw [endBody] at h
          split at h
          · cases h
          · split at h <;> cases h
  · cases h

theorem tryBody_streamError {f : Flavor} {client : Client α β} {requests : Requests α}
    {x : Exchange p} {current : Option (ResponseMetadata p)} {e : Exc}
    (h : (tryBody f client requests x current).1.streamError = some e) :
    e.isConnectError = true := by
  rw [tryBody] at h
  split at h
  · exact nomatch h
  · split at h
    · exact nomatch h
    · exact withResponse_streamError h

/-- A call whose exchange ends in such a reset. -/
def ResetMalformed (f : Flavor) (client : Client α β) (requests : Requests α) (x : Exchange p)
    (current : Option (ResponseMetadata p)) : Prop :=
  isOver x.timeoutMs = false
    ∧ ∃ e, (tryBody f client requests x current).1.error = some e
      ∧ MalformedReset streamErrorCode f (readerKind client.protocol)
        (tryBody f client requests x current).1 (tryBody f client requests x current).2
        x.timeAtReset e

/-- The only kind of `Exception` that leaves is `ConnectError`. -/
def OnlyConnectErrors (error : Option Exc) : Prop :=
  ∀ e, error = some e → e.isException = true → e.isConnectError = true

theorem onlyConnectErrors_iff (error : Option Exc) :
    OnlyConnectErrors error ↔ ¬ ∃ e, error = some e ∧ Foreign e := by
  constructor
  · rintro h ⟨e, he, hexc, hfalse⟩
    rw [h e he hexc] at hfalse
    exact nomatch hfalse
  · intro h e he hexc
    by_contra hfalse
    exact h ⟨e, he, hexc, Bool.eq_false_iff.mpr hfalse⟩

theorem onlyConnectErrors_connectError {e : Exc} (h : e.isConnectError = true) :
    OnlyConnectErrors (some e) := by
  rintro e' ⟨⟩ -
  exact h

/-- **A streaming call.** -/
theorem sendRequestBidiStream_iff (f : Flavor) (client : Client α β) (requests : Requests α)
    (x : Exchange p) (current : Option (ResponseMetadata p)) :
    OnlyConnectErrors (sendRequestBidiStream streamErrorCode f client requests x current).2
      ↔ ¬ ResetMalformed streamErrorCode f client requests x current := by
  rw [sendRequestBidiStream, ResetMalformed]
  by_cases hover : isOver x.timeoutMs = true
  · rw [if_pos hover, hover]
    exact ⟨fun _ h => (nomatch h.1), fun _ => onlyConnectErrors_connectError rfl⟩
  · rw [if_neg hover, onlyConnectErrors_iff, Bool.eq_false_iff.mpr hover]
    refine not_congr ?_
    constructor
    · rintro ⟨e, he, hforeign⟩
      obtain ⟨e', he', rfl⟩ := Option.map_eq_some_iff.mp he
      exact ⟨rfl, e', he', (exceptClauses_foreign_iff streamErrorCode
        fun _ => tryBody_streamError).mp hforeign⟩
    · rintro ⟨-, e, he, hreset⟩
      exact ⟨_, Option.map_eq_some_iff.mpr ⟨e, he, rfl⟩,
        (exceptClauses_foreign_iff streamErrorCode fun _ => tryBody_streamError).mpr hreset⟩

/-- A unary call of the Connect protocol has one clause for everything else. -/
theorem sendConnectUnary_onlyConnectErrors (f : Flavor) (client : Client α β) (useGet : Bool)
    (requestHeaders : Headers p) (request : α) (timeoutMs : Option Int)
    (send : HttpRequest → Except Exc (FullResponse p)) {e : Exc}
    (h : sendConnectUnary f client useGet requestHeaders request timeoutMs send = .error e)
    (hexc : e.isException = true) : e.isConnectError = true := by
  rw [sendConnectUnary] at h
  split at h
  · injection h with h
    exact h ▸ rfl
  · split at h
    · exact nomatch h
    · injection h with h
      subst h
      rw [unaryClauses] at hexc ⊢
      split at hexc
      · next hfirst => exact firstClauses_connectError hfirst
      · split at hexc
        · next hnone he => rw [if_pos he]; rfl
        · next he => exact absurd hexc he

/-- One message is consumed: a second one is an error, and else the exception of the
    stream is raised. -/
theorem consumeSingleResponse_iff (stream : List β × Option Exc) :
    (∀ e, consumeSingleResponse stream = .error e → e.isException = true →
        e.isConnectError = true)
      ↔ 1 < stream.1.length ∨ OnlyConnectErrors stream.2 := by
  obtain ⟨messages, error⟩ := stream
  rcases messages with _ | ⟨message, _ | ⟨second, messages⟩⟩
  · cases error with
    | none =>
        refine ⟨fun _ => Or.inr nofun, fun _ e he _ => ?_⟩
        injection he with he
        exact he ▸ rfl
    | some e =>
        refine ⟨fun h => Or.inr fun e' he' hexc => ?_, fun h e' he' hexc => ?_⟩
        · exact h e' (congrArg Except.error (Option.some.inj he')) hexc
        · injection he' with he'
          exact (h.resolve_left (by simp)) e' (congrArg some he') hexc
  · cases error with
    | none => exact ⟨fun _ => Or.inr nofun, fun _ e he _ => nomatch he⟩
    | some e =>
        refine ⟨fun h => Or.inr fun e' he' hexc => ?_, fun h e' he' hexc => ?_⟩
        · exact h e' (congrArg Except.error (Option.some.inj he')) hexc
        · injection he' with he'
          exact (h.resolve_left (by simp)) e' (congrArg some he') hexc
  · refine ⟨fun _ => Or.inl (by simp), fun _ e he _ => ?_⟩
    injection he with he
    exact he ▸ rfl

/-- **Only `ConnectError` leaves a call**, except for a reset of the stream whose
    status cannot be read: for both clients, every protocol, and everything that can
    become of the exchange. -/
theorem only_connect_errors_iff (f : Flavor) (client : Client α β) (x : Exchange p)
    (current : Option (ResponseMetadata p)) :
    (∀ requests : Requests α,
      OnlyConnectErrors (sendRequestBidiStream streamErrorCode f client requests x current).2
        ↔ ¬ ResetMalformed streamErrorCode f client requests x current)
    ∧ ∀ (useGet : Bool) (requestHeaders : Headers p) (request : α)
        (send : HttpRequest → Except Exc (FullResponse p)),
      (∀ e, sendRequestUnary streamErrorCode f client useGet requestHeaders request send x current
          = .error e → e.isException = true → e.isConnectError = true)
        ↔ client.protocol = .connect
          ∨ 1 < (sendRequestBidiStream streamErrorCode f client (.list [request]) x
              current).1.length
          ∨ ¬ ResetMalformed streamErrorCode f client (.list [request]) x current := by
  refine ⟨fun requests => sendRequestBidiStream_iff streamErrorCode f client requests x current,
    fun useGet requestHeaders request send => ?_⟩
  rw [sendRequestUnary]
  by_cases hconnect : client.protocol = .connect
  · rw [if_pos hconnect]
    refine ⟨fun _ => Or.inl hconnect, fun _ e he hexc => ?_⟩
    exact sendConnectUnary_onlyConnectErrors f client useGet requestHeaders request x.timeoutMs
      send he hexc
  · rw [if_neg hconnect, consumeSingleResponse_iff, sendRequestBidiStream_iff]
    exact ⟨Or.inr, fun h => h.resolve_left hconnect⟩

end Calls

/-- A client of the gRPC protocol whose messages are bytes. -/
def rawClient : Client Bytes Bytes where
  protocol := .grpc
  requestCodec := .raw
  codec := .raw
  sendCompression := none
  responseCompressions := Dict.empty.insert "identity" .identity
  readMaxBytes := none

/-- A `StreamError` by the name of its class, with one code. -/
def streamError : Exc → Option StreamErrorCode
  | .exception (.other name) _ => if name = "StreamError" then some .internalError else none
  | _ => none

/-- A response without messages that is reset, with a status whose details are not
    base64. -/
def resetExchange : Exchange Platform.plain where
  timeoutMs := none
  opened := .ok
    { status := 200
      headers := Multimap.ofItems [("content-type", "application/grpc+raw")]
      chunks := []
      broken := some (.exception (.other "StreamError") "stream reset")
      trailers := Multimap.ofItems [("grpc-status", "13"), ("grpc-status-details-bin", "A")]
      exit := id }
  timeAfterBody := none
  timeAtReset := none

/-- The exception of `b64decode` leaves both clients. -/
theorem reset_lets_out_value_error :
    ¬ OnlyConnectErrors
        (sendRequestBidiStream streamError .async rawClient (.list []) resetExchange none).2
      ∧ ¬ OnlyConnectErrors
        (sendRequestBidiStream streamError .sync rawClient (.list []) resetExchange none).2 := by
  have h : ∀ f, (sendRequestBidiStream streamError f rawClient (.list []) resetExchange none).2
      = some (.exception .valueError ("Invalid base64-encoded string: number of data characters "
        ++ "(1) cannot be 1 more than a multiple of 4")) := by
    intro f
    cases f <;> rfl
  constructor
  · intro honly
    exact nomatch honly _ (h .async) rfl
  · intro honly
    exact nomatch honly _ (h .sync) rfl

end ConnectClient
