import ConnectPy.AsgiRequestProofs
import ConnectPy.ContentTypeProofs
import ConnectPy.NegotiationProofs

/-! # Dispatch — two servers, one decision

    What both servers do with a request once its endpoint is found: pick the
    protocol from the content type, check the method, the protocol version and the
    timeout, find the codec, and take the path of unary Connect requests or that of
    streams.

    The decisions are the same but for one kind of request (`dispatch_agrees_iff`).
    For a Connect request by GET the ASGI server reads the name of the codec from
    the query whatever the endpoint, the WSGI server only on the unary path; on the
    path of streams it takes the content type. -/

namespace ConnectDispatch

open OrderedDict ConnectErrors ConnectPlatform ConnectHeaders ConnectTrailersWire
open ConnectUnaryRequest ConnectContentType ConnectNegotiation
open ConnectAsgi (EndpointKind UnaryResponse StreamResponse Plan usesTrailers)

variable {p : Platform} {α : Type}

/-! ## Requests -/

/-- `connectrpc.method.IdempotencyLevel`. -/
inductive IdempotencyLevel where
  | unknown | noSideEffects | idempotent
  deriving DecidableEq, Repr

/-- A request for an endpoint, in what the two servers have in common.  `encoding`
    is the first value of the query parameter of that name. -/
structure Request (p : Platform) where
  kind             : EndpointKind
  idempotency      : IdempotencyLevel
  httpMethod       : String
  httpScheme       : String
  headers          : Headers p
  clientAddress    : Option String
  encoding         : Option String
  supportsTrailers : Bool

/-- `headers.get("content-type", "")`. -/
def Request.contentType (r : Request p) : String := (r.headers.get? "content-type").getD ""

/-- What a request is refused with before its run of interceptors starts. -/
inductive Refusal where
  | http (e : HTTPError)
  | connect (e : ConnectError)
  | runtime (text : String)

def Refusal.exc : Refusal → Exc
  | .http e => .httpError e
  | .connect e => .connectError e
  | .runtime text => .exception .runtimeError text

theorem Refusal.isException (e : Refusal) : e.exc.isException = true := by
  cases e <;> rfl

/-- Refuse a request. -/
def refuse (protocol : ServerProtocol) (hasCtx : Bool) (e : Refusal) : Plan α :=
  .refused (some protocol) hasCtx e.exc e.isException

/-! ## `create_request_context` -/

/-- `RequestContext`, with the time it leaves in nanoseconds. -/
structure RequestContext (p : Platform) where
  idempotency    : IdempotencyLevel
  httpMethod     : String
  requestHeaders : Headers p
  timeoutNs      : Option Nat
  serverAddress  : Option String
  clientAddress  : Option String

/-- `host_to_server_address`. -/
def hostToServerAddress (host : Option String) (httpScheme : String) : Option String :=
  host.map fun host =>
    if ':' ∈ host.toList then host
    else if httpScheme = "https" then host ++ ":443"
    else if httpScheme = "http" then host ++ ":80"
    else host

def requestContext (r : Request p) (timeoutNs : Option Nat) : RequestContext p where
  idempotency := r.idempotency
  httpMethod := r.httpMethod
  requestHeaders := r.headers
  timeoutNs := timeoutNs
  serverAddress := hostToServerAddress (r.headers.get? "host") r.httpScheme
  clientAddress := r.clientAddress

/-- `text.isascii() and text.isdigit()`. -/
def isAsciiDigits (text : List Char) : Bool := !text.isEmpty && text.all Char.isDigit

/-- `int(text)` of ASCII digits. -/
def natOfDigits (text : List Char) : Nat :=
  text.foldl (fun n c => 10 * n + (c.toNat - '0'.toNat)) 0

def invalidArgument (message : String) : Refusal := .connect ⟨.invalidArgument, message, []⟩

/-- The timeout of a Connect request, in milliseconds. -/
def connectTimeout : Option String → Except Refusal (Option Nat)
  | none => .ok none
  | some header =>
      if header = "" then .ok none
      else if 10 < header.toList.length then
        .error (invalidArgument s!"Invalid timeout header: '{header} has >10 digits")
      else if !isAsciiDigits header.toList then
        .error (invalidArgument s!"Invalid timeout header: '{header}'")
      else .ok (some (natOfDigits header.toList))

/-- `_lookup_timeout_unit`. -/
def lookupTimeoutUnit : Char → Except Refusal Nat
  | 'H' => .ok (60 * 60 * 1000000000)
  | 'M' => .ok (60 * 1000000000)
  | 'S' => .ok 1000000000
  | 'm' => .ok 1000000
  | 'u' => .ok 1000
  | 'n' => .ok 1
  | unit => .error (invalidArgument s!"protocol error: timeout has invalid unit '{unit}'")

/-- `_parse_timeout`. -/
def parseTimeout (timeout : String) : Except Refusal Nat :=
  if timeout.toList.length < 2 then
    .error (invalidArgument s!"protocol error: invalid timeout '{timeout}'")
  else
    match lookupTimeoutUnit (timeout.toList.getLastD 'n') with
    | .error e => .error e
    | .ok valueToNs =>
        let digits := timeout.toList.dropLast
        if !isAsciiDigits digits then
          .error (invalidArgument s!"protocol error: invalid timeout '{timeout}'")
        else if 8 < digits.length then
          .error (invalidArgument s!"protocol error: timeout '{timeout}' is too long")
        else .ok (natOfDigits digits * valueToNs)

/-- `HTTPError(HTTPStatus.METHOD_NOT_ALLOWED, ...)`. -/
def methodNotAllowed (allow : String) : Refusal := .http ⟨405, [("allow", allow)]⟩

/-- `ConnectServerProtocol.create_request_context`. -/
def connectRequestContext (r : Request p) : Except Refusal (RequestContext p) :=
  if r.idempotency = .noSideEffects ∧ r.httpMethod ≠ "GET" ∧ r.httpMethod ≠ "POST" then
    .error (methodNotAllowed "GET, POST")
  else if r.idempotency ≠ .noSideEffects ∧ r.httpMethod ≠ "POST" then
    .error (methodNotAllowed "POST")
  else
    let version := (r.headers.get? "connect-protocol-version").getD "1"
    if version ≠ "1" then
      .error (invalidArgument s!"connect-protocol-version must be '1': got '{version}'")
    else
      match connectTimeout (r.headers.get? "connect-timeout-ms") with
      | .error e => .error e
      | .ok timeoutMs => .ok (requestContext r (timeoutMs.map fun ms => ms * 1000000))

/-- `GRPCServerProtocol.create_request_context`. -/
def grpcRequestContext (r : Request p) : Except Refusal (RequestContext p) :=
  if r.httpMethod ≠ "POST" then .error (methodNotAllowed "POST")
  else
    match r.headers.get? "grpc-timeout" with
    | none => .ok (requestContext r none)
    | some header =>
        match parseTimeout header with
        | .error e => .error e
        | .ok timeoutNs => .ok (requestContext r (some timeoutNs))

/-- `protocol.create_request_context`. -/
def createRequestContext (protocol : ServerProtocol) (r : Request p) :
    Except Refusal (RequestContext p) :=
  match protocol with
  | .connect => connectRequestContext r
  | .grpc => grpcRequestContext r
  | .grpcWeb => grpcRequestContext r

/-! ## The two servers -/

/-- `HTTPError(HTTPStatus.UNSUPPORTED_MEDIA_TYPE, ...)`. -/
def unsupportedMediaType (unary : Bool) : Refusal :=
  .http ⟨415, [("Accept-Post",
    if unary then "application/json, application/proto"
    else "application/connect+json, application/connect+proto")]⟩

/-- The response of the path of streams. -/
def streamResponse (compressions : Compressions) (protocol : ServerProtocol) (codec : Codec α)
    (r : Request p) : StreamResponse α :=
  let negotiated := negotiateStreamCompression protocol r.headers compressions
  { protocol := protocol
    codec := codec
    compression := negotiated.2
    endpoint := r.kind
    requestCompression :=
      match negotiated.1 with
      | some _ => .ok ()
      | none => .error (unknownCompressionError
          ((r.headers.get? protocol.compressionHeaderName).getD "") compressions) }

/-- The name under which the ASGI server looks for the codec. -/
def asgiCodecName (r : Request p) (protocol : ServerProtocol) : String :=
  if r.httpMethod = "GET" then r.encoding.getD ""
  else serverCodecName p r.contentType (!decide (r.kind = .unary)) protocol

/-- `_handle_request`, from the content type to where the response is known. -/
def asgiPlan (compressions : Compressions) (codecs : Dict String (Codec α)) (r : Request p) :
    Plan α :=
  let protocol := negotiateServerProtocol r.contentType
  if usesTrailers protocol && !r.supportsTrailers then
    refuse protocol false (.runtime s!"ASGI server does not support ASGI trailers extension but protocol for content-type '{r.contentType}' requires trailers")
  else
    match createRequestContext protocol r with
    | .error e => refuse protocol false e
    | .ok _ =>
        let unary : Bool := r.kind = .unary
        match codecs.get? (asgiCodecName r protocol) with
        | none => refuse protocol true (unsupportedMediaType unary)
        | some codec =>
            if unary && protocol = .connect then
              .unary ⟨codec,
                negotiateCompression ((r.headers.get? "accept-encoding").getD "") compressions⟩
            else .stream (streamResponse compressions protocol codec r)

/-- `_handle_unary` up to the interceptors, with the compression it answers in. -/
def wsgiUnary (compressions : Compressions) (codecs : Dict String (Codec α)) (r : Request p) :
    Plan α :=
  let codecName :=
    if r.httpMethod = "GET" then r.encoding.getD ""
    else codecNameFromContentType p r.contentType false
  match codecs.get? codecName with
  | none => refuse .connect true (unsupportedMediaType true)
  | some codec => .unary ⟨codec,
      negotiateCompression ((r.headers.get? "accept-encoding").getD "identity") compressions⟩

/-- `_handle_stream` up to the interceptors. -/
def wsgiStream (compressions : Compressions) (codecs : Dict String (Codec α))
    (protocol : ServerProtocol) (r : Request p) : Plan α :=
  match codecs.get? (serverCodecName p r.contentType true protocol) with
  | none => refuse protocol true (unsupportedMediaType false)
  | some codec => .stream (streamResponse compressions protocol codec r)

/-- `__call__`, from the content type to where the response is known. -/
def wsgiPlan (compressions : Compressions) (codecs : Dict String (Codec α)) (r : Request p) :
    Plan α :=
  let protocol := negotiateServerProtocol r.contentType
  if usesTrailers protocol && !r.supportsTrailers then
    refuse protocol false (.runtime s!"WSGI server does not support WSGI trailers extension but protocol for content-type '{r.contentType}' requires trailers")
  else
    match createRequestContext protocol r with
    | .error e => refuse protocol false e
    | .ok _ =>
        if r.kind = .unary ∧ protocol = .connect then wsgiUnary compressions codecs r
        else wsgiStream compressions codecs protocol r

/-- What a server can plan for a request: to refuse it, or one of two responses. -/
inductive Planned (compressions : Compressions) (r : Request p) : Plan α → Prop where
  | refused (protocol : ServerProtocol) (hasCtx : Bool) (e : Refusal) :
      Planned compressions r (refuse protocol hasCtx e)
  | unary (codec : Codec α) (default : String)
      (hconnect : negotiateServerProtocol r.contentType = .connect) (hkind : r.kind = .unary) :
      Planned compressions r (.unary ⟨codec,
        negotiateCompression ((r.headers.get? "accept-encoding").getD default) compressions⟩)
  | stream (codec : Codec α)
      (h : ¬ (r.kind = .unary ∧ negotiateServerProtocol r.contentType = .connect)) :
      Planned compressions r (.stream (streamResponse compressions
        (negotiateServerProtocol r.contentType) codec r))

theorem planned_asgiPlan (compressions : Compressions) (codecs : Dict String (Codec α))
    (r : Request p) : Planned compressions r (asgiPlan compressions codecs r) := by
  rw [asgiPlan]
  split
  · exact .refused _ _ _
  · split
    · exact .refused _ _ _
    · dsimp only
      split
      · exact .refused _ _ _
      · split
        · next h =>
            rw [Bool.and_eq_true, decide_eq_true_eq, decide_eq_true_eq] at h
            exact .unary _ _ h.2 h.1
        · next h =>
            rw [Bool.and_eq_true, decide_eq_true_eq, decide_eq_true_eq] at h
            exact .stream _ h

theorem planned_wsgiPlan (compressions : Compressions) (codecs : Dict String (Codec α))
    (r : Request p) : Planned compressions r (wsgiPlan compressions codecs r) := by
  rw [wsgiPlan]
  split
  · exact .refused _ _ _
  · split
    · exact .refused _ _ _
    · split
      · next h =>
          rw [wsgiUnary]
          split
          · exact .refused _ _ _
          · exact .unary _ _ h.2 h.1
      · next h =>
          rw [wsgiStream]
          split
          · exact .refused _ _ _
          · exact .stream _ h

/-! ## The decision -/

/-- What a plan decides: an HTTP error, a `ConnectError`, another failure, or the
    protocol, the codec and the path. -/
inductive Decision (α : Type) where
  | http (status : Nat)
  | error (code : Code)
  | failed
  | unary (codec : Codec α)
  | stream (protocol : ServerProtocol) (codec : Codec α)

def decision : Plan α → Decision α
  | .refused _ _ (.httpError e) _ => .http e.status
  | .refused _ _ (.connectError e) _ => .error e.code
  | .refused _ _ _ _ => .failed
  | .unary u => .unary u.codec
  | .stream st => .stream st.protocol st.codec

/-- A GET request of the Connect protocol for an endpoint with streams, to a method
    without side effects and with valid headers. -/
def StreamByGet (r : Request p) : Prop :=
  negotiateServerProtocol r.contentType = .connect ∧ r.kind ≠ .unary ∧ r.httpMethod = "GET"
    ∧ ∃ ctx, createRequestContext .connect r = .ok ctx

/-- The codec under the name in the query is the one under the name in the content
    type, or both are missing. -/
def SameCodec (codecs : Dict String (Codec α)) (r : Request p) : Prop :=
  codecs.get? (r.encoding.getD "") = codecs.get? (codecNameFromContentType p r.contentType true)

/-- The decision of the path of streams depends on the codec that was found. -/
def streamDecision (protocol : ServerProtocol) : Option (Codec α) → Decision α
  | none => .http 415
  | some codec => .stream protocol codec

theorem streamDecision_injective (protocol : ServerProtocol) {c c' : Option (Codec α)} :
    streamDecision protocol c = streamDecision protocol c' ↔ c = c' := by
  constructor
  · intro h
    cases c with
    | none =>
        cases c' with
        | none => rfl
        | some c' => exact nomatch h
    | some c =>
        cases c' with
        | none => exact nomatch h
        | some c' =>
            injection h with _ h
            exact congrArg some h
  · rintro rfl
    rfl

/-- A protocol other than Connect reads the codec from the content type alone, and
    only of POST requests. -/
theorem post_of_context {protocol : ServerProtocol} (hprotocol : protocol ≠ .connect)
    {r : Request p} {ctx : RequestContext p} (h : createRequestContext protocol r = .ok ctx) :
    r.httpMethod = "POST" := by
  have hgrpc : ∀ ctx, grpcRequestContext r = .ok ctx → r.httpMethod = "POST" := by
    intro ctx h
    rw [grpcRequestContext] at h
    by_contra hpost
    rw [if_pos hpost] at h
    exact nomatch h
  cases protocol with
  | connect => exact absurd rfl hprotocol
  | grpc => exact hgrpc ctx h
  | grpcWeb => exact hgrpc ctx h

/-- Whether the endpoint is unary matters to the Connect protocol only. -/
theorem serverCodecName_stream {protocol : ServerProtocol} (hprotocol : protocol ≠ .connect)
    (contentType : String) (stream stream' : Bool) :
    serverCodecName p contentType stream protocol = serverCodecName p contentType stream' protocol := by
  cases protocol with
  | connect => exact absurd rfl hprotocol
  | grpc => rfl
  | grpcWeb => rfl

section Decisions

variable (compressions : Compressions) (codecs : Dict String (Codec α)) {r : Request p}

theorem decision_wsgiStream (protocol : ServerProtocol) :
    decision (wsgiStream compressions codecs protocol r)
      = streamDecision protocol (codecs.get? (serverCodecName p r.contentType true protocol)) := by
  rw [wsgiStream]
  cases codecs.get? (serverCodecName p r.contentType true protocol) <;> rfl

/-- **The decision of the ASGI server** on a request that gets as far as the codec. -/
theorem decision_asgiPlan {protocol : ServerProtocol} {ctx : RequestContext p}
    (hprotocol : negotiateServerProtocol r.contentType = protocol)
    (htrailers : (usesTrailers protocol && !r.supportsTrailers) = false)
    (hctx : createRequestContext protocol r = .ok ctx) :
    decision (asgiPlan compressions codecs r)
      = if r.kind = .unary ∧ protocol = .connect then
          match codecs.get? (asgiCodecName r protocol) with
          | none => .http 415
          | some codec => .unary codec
        else streamDecision protocol (codecs.get? (asgiCodecName r protocol)) := by
  rw [asgiPlan, hprotocol, htrailers, hctx]
  dsimp only
  rw [if_neg Bool.false_ne_true]
  cases codecs.get? (asgiCodecName r protocol) with
  | none =>
      by_cases hunary : r.kind = .unary ∧ protocol = .connect
      · rw [if_pos hunary]
        rfl
      · rw [if_neg hunary]
        rfl
  | some codec =>
      dsimp only
      by_cases hunary : r.kind = .unary ∧ protocol = .connect
      · rw [if_pos hunary, if_pos (by rw [hunary.1, hunary.2]; rfl)]
        rfl
      · rw [if_neg hunary, if_neg (by simpa using hunary)]
        rfl

/-- **The decision of the WSGI server** on such a request. -/
theorem decision_wsgiPlan {protocol : ServerProtocol} {ctx : RequestContext p}
    (hprotocol : negotiateServerProtocol r.contentType = protocol)
    (htrailers : (usesTrailers protocol && !r.supportsTrailers) = false)
    (hctx : createRequestContext protocol r = .ok ctx) :
    decision (wsgiPlan compressions codecs r)
      = if r.kind = .unary ∧ protocol = .connect then
          match codecs.get? (asgiCodecName r protocol) with
          | none => .http 415
          | some codec => .unary codec
        else streamDecision protocol
          (codecs.get? (serverCodecName p r.contentType true protocol)) := by
  rw [wsgiPlan, hprotocol, htrailers, hctx]
  dsimp only
  rw [if_neg Bool.false_ne_true]
  by_cases hunary : r.kind = .unary ∧ protocol = .connect
  · obtain ⟨hkind, rfl⟩ := hunary
    have hname : asgiCodecName r .connect
        = if r.httpMethod = "GET" then r.encoding.getD ""
          else codecNameFromContentType p r.contentType false := by
      rw [asgiCodecName, hkind]
      rfl
    rw [if_pos ⟨hkind, rfl⟩, if_pos ⟨hkind, rfl⟩, hname, wsgiUnary]
    cases codecs.get? (if r.httpMethod = "GET" then r.encoding.getD ""
        else codecNameFromContentType p r.contentType false) <;> rfl
  · rw [if_neg hunary, if_neg hunary, decision_wsgiStream]

/-- **The two servers decide alike**, on every request and with every set of codecs,
    but for a stream that is asked for by GET: there they do exactly where the query
    and the content type lead to the same codec. -/
theorem dispatch_agrees_iff (r : Request p) :
    decision (asgiPlan compressions codecs r) = decision (wsgiPlan compressions codecs r)
      ↔ (StreamByGet r → SameCodec codecs r) := by
  obtain ⟨protocol, hprotocol⟩ : ∃ q, negotiateServerProtocol r.contentType = q := ⟨_, rfl⟩
  by_cases htrailers : (usesTrailers protocol && !r.supportsTrailers) = true
  · -- No support for trailers: both raise before anything else.
    have hgrpc : protocol ≠ .connect := by
      rintro rfl
      exact nomatch htrailers
    refine iff_of_true ?_ fun h => absurd (hprotocol.symm.trans h.1) hgrpc
    rw [asgiPlan, wsgiPlan, hprotocol, htrailers]
    rfl
  · rw [Bool.not_eq_true] at htrailers
    cases hctx : createRequestContext protocol r with
    | error e =>
        -- Both refuse with the same error; and a GET of a stream would have been accepted.
        refine iff_of_true ?_ ?_
        · rw [asgiPlan, wsgiPlan, hprotocol, htrailers, hctx]
          rfl
        · rintro ⟨hconnect, -, -, ctx, hok⟩
          rw [hprotocol] at hconnect
          subst hconnect
          rw [hok] at hctx
          exact nomatch hctx
    | ok ctx =>
        rw [decision_asgiPlan compressions codecs hprotocol htrailers hctx,
          decision_wsgiPlan compressions codecs hprotocol htrailers hctx]
        by_cases hunary : r.kind = .unary ∧ protocol = .connect
        · rw [if_pos hunary, if_pos hunary]
          exact iff_of_true rfl fun h => absurd hunary.1 h.2.1
        · rw [if_neg hunary, if_neg hunary, streamDecision_injective]
          by_cases hconnect : protocol = .connect
          · subst hconnect
            have hkind : r.kind ≠ .unary := fun h => hunary ⟨h, rfl⟩
            by_cases hget : r.httpMethod = "GET"
            · -- The ASGI server asks the query, the WSGI server the content type.
              rw [asgiCodecName, if_pos hget]
              exact ⟨fun h _ => h, fun h => h ⟨hprotocol, hkind, hget, ctx, hctx⟩⟩
            · rw [asgiCodecName, if_neg hget, decide_eq_false hkind]
              exact iff_of_true rfl fun h => absurd h.2.2.1 hget
          -- gRPC has only POST, and there both ask the content type.
          · have hpost := post_of_context hconnect hctx
            rw [asgiCodecName, if_neg (by rw [hpost]; decide),
              serverCodecName_stream hconnect r.contentType _ true]
            exact iff_of_true rfl fun h => absurd (hprotocol.symm.trans h.1) hconnect

end Decisions

/-- A GET request without side effects for a server stream, with its codec named in
    the query. -/
def hatsByGet : Request Platform.plain where
  kind := .serverStream
  idempotency := .noSideEffects
  httpMethod := "GET"
  httpScheme := "http"
  headers := .empty Platform.plain
  clientAddress := none
  encoding := some "raw"
  supportsTrailers := true

/-- The ASGI server serves the stream, the WSGI server does not find the codec. -/
theorem stream_by_get_disagrees :
    decision (asgiPlan Dict.empty (codecsByName [Codec.raw]) hatsByGet)
        = .stream .connect Codec.raw
      ∧ decision (wsgiPlan Dict.empty (codecsByName [Codec.raw]) hatsByGet) = .http 415
      ∧ ¬ decision (asgiPlan Dict.empty (codecsByName [Codec.raw]) hatsByGet)
        = decision (wsgiPlan Dict.empty (codecsByName [Codec.raw]) hatsByGet) := by
  refine ⟨rfl, rfl, ?_⟩
  exact nofun

end ConnectDispatch
