import ConnectPy.InterceptorRunProofs

/-! # `ConnectASGIApplication._handle_request`

    The coroutine of a request, from where it is known which response it calls
    for.  What comes before (finding the endpoint, the protocol, the codec) is
    synchronous; `Plan` is what it comes to, a response to write or an exception.

    The functions are those of the source, with the exception handlers and cleanup
    blocks in their places.  A run is observed up to some message of the handler's
    stream, so runs that never end are covered by their beginnings. -/

namespace ConnectAsgi

open Utf8 (Bytes)
open Effect
open ConnectErrors ConnectPlatform ConnectHeaders ConnectWireErrors ConnectGrpcStatus
open ConnectEndMessage ConnectWriter ConnectTrailersWire

variable {p : Platform} {ω ι τ α : Type}

/-! ## What is to be written -/

/-- The methods, by how many messages they take and return. -/
inductive EndpointKind where
  | unary | clientStream | serverStream | bidiStream
  deriving DecidableEq, Repr

/-- The handler returns a message, not a generator. -/
def EndpointKind.returnsOne : EndpointKind → Bool
  | .unary => true
  | .clientStream => true
  | .serverStream => false
  | .bidiStream => false

/-- `_UnaryResponse`. -/
structure UnaryResponse (α : Type) where
  codec       : Codec α
  compression : Compression

/-- `_StreamResponse`, with the endpoint and the outcome of looking up the
    compression of the request. -/
structure StreamResponse (α : Type) where
  protocol           : ServerProtocol
  codec              : Codec α
  compression        : Compression
  endpoint           : EndpointKind
  requestCompression : Except Exc Unit

/-- What the synchronous beginning of a request comes to. -/
inductive Plan (α : Type) where
  | refused (protocol : Option ServerProtocol) (hasCtx : Bool) (e : Exc)
      (isException : e.isException = true)
  | unary (u : UnaryResponse α)
  | stream (st : StreamResponse α)

def Plan.streaming : Plan α → Bool
  | .refused _ _ _ _ => false
  | .unary _ => false
  | .stream _ => true

/-- `metadata_run is not None`.  A request that is refused has started nothing. -/
def Plan.hasRun : Plan α → Bool
  | .refused _ _ _ _ => false
  | .unary _ => true
  | .stream _ => true

/-- `uses_trailers`. -/
def usesTrailers : ServerProtocol → Bool
  | .connect => false
  | .grpc => true
  | .grpcWeb => false

/-- `protocol.create_envelope_writer(codec, compression)`. -/
def StreamResponse.writer (st : StreamResponse α) : EnvelopeWriter α :=
  ⟨st.codec, some st.compression⟩

/-- `writer.end`: the bytes of an end message, or trailers. -/
def StreamResponse.writerEnd (st : StreamResponse α) (userTrailers : Headers p)
    (error : Option ConnectWireError) : Except Exc (Bytes ⊕ Headers p) :=
  match st.protocol with
  | .connect => (connectEnd st.writer userTrailers error).map .inl
  | .grpc => .ok (.inr (grpcEnd userTrailers error))
  | .grpcWeb => (webEnd st.writer userTrailers error).map .inl

/-- Header pairs as bytes. -/
def encodeHeaders (env : Env p ω ι τ α) :
    List (String × String) → Except Exc (List (Bytes × Bytes))
  | [] => .ok []
  | (key, value) :: rest =>
      match env.encodeText key, env.encodeText value with
      | .error e, _ => .error e
      | .ok _, .error e => .error e
      | .ok key, .ok value =>
          match encodeHeaders env rest with
          | .error e => .error e
          | .ok rest => .ok ((key, value) :: rest)

/-- `_error_to_http_status`, the codes. -/
def errorToHttpStatus : Code → Nat
  | .canceled => 499
  | .unknown => 500
  | .invalidArgument => 400
  | .deadlineExceeded => 504
  | .notFound => 404
  | .alreadyExists => 409
  | .permissionDenied => 403
  | .resourceExhausted => 429
  | .failedPrecondition => 400
  | .aborted => 409
  | .outOfRange => 400
  | .unimplemented => 501
  | .internal => 500
  | .unavailable => 503
  | .dataLoss => 500
  | .unauthenticated => 401

/-- `_content_type` of the two gRPC protocols, none for Connect. -/
def grpcContentType : ServerProtocol → Option String
  | .connect => none
  | .grpc => some "application/grpc"
  | .grpcWeb => some "application/grpc-web"

/-- `trailers_only_headers`. -/
def trailersOnlyHeaders (contentType : String) (ctx : Option (Ctx p)) (exc : Exc) : Headers p :=
  let trailers := (ctx.map Ctx.responseTrailers).getD (.empty p)
  let headers := (statusTrailers trailers (some (.fromException exc))).setItem "content-type"
    contentType
  match ctx with
  | none => headers
  | some ctx => headers.addAll ctx.responseHeaders.allitems

/-- The status, headers and body of `_handle_error`. -/
def errorReply (env : Env p ω ι τ α) (exc : Exc) (ctx : Option (Ctx p))
    (protocol : Option ServerProtocol) : Except Exc (Nat × List (Bytes × Bytes) × Bytes) :=
  let reply := fun (status : Nat) (headers : List (String × String)) (body : Bytes) =>
    match encodeHeaders env headers with
    | .error e => .error e
    | .ok headers => .ok (status, headers, body)
  let responseHeaders := (ctx.map Ctx.responseHeaders).getD (.empty p)
  let responseTrailers := (ctx.map Ctx.responseTrailers).getD (.empty p)
  match exc, protocol.bind grpcContentType with
  | .httpError e, _ => reply e.status (errorHeaders (.httpError e) responseHeaders responseTrailers) []
  -- A gRPC client reads the status of a response without a body from its headers.
  | exc, some contentType => reply 200 (trailersOnlyHeaders contentType ctx exc).allitems []
  | exc, none =>
      let wireError := ConnectWireError.fromException exc
      match env.encodeText (p.jsonDumps (.obj wireError.toDict)) with
      | .error e => .error e
      | .ok body =>
          reply (errorToHttpStatus wireError.code)
            (errorHeaders exc responseHeaders responseTrailers) body

/-! ## Writing it -/

/-- `_UnaryResponse.send`. -/
def unarySend (env : Env p ω ι τ α) (u : UnaryResponse α) (responseData : α) :
    Prog (Run ω ι τ α) Exc Unit := do
  let data ← Prog.ofExcept (u.codec.encode responseData)
  let resBytes ← Prog.ofExcept (u.compression.compress data)
  let s ← Prog.get
  let headers ← build (encodeHeaders env (unaryHeaders u.codec.name u.compression.name
    (env.ctx s.world).responseHeaders (env.ctx s.world).responseTrailers))
  send env true (.start 200 headers false)
  send env true (.body resBytes false)

/-- `_StreamResponse.send_headers`. -/
def sendHeaders (env : Env p ω ι τ α) (inScope : Bool) (st : StreamResponse α) :
    Prog (Run ω ι τ α) Exc Unit := do
  let s ← Prog.get
  let headers ← build (encodeHeaders env (streamHeaders st.protocol st.codec.name
    st.compression.name (env.ctx s.world).responseHeaders))
  send env inScope (.start 200 headers (usesTrailers st.protocol))

/-- `_StreamResponse.end` once the headers were sent. -/
def sendEnd (env : Env p ω ι τ α) (st : StreamResponse α) (error : Option Exc) :
    Prog (Run ω ι τ α) Exc Bool := do
  let s ← Prog.get
  let endMessage ← build (st.writerEnd (env.ctx s.world).responseTrailers
    (error.map ConnectWireError.fromException))
  match endMessage with
  | .inl data => do
      send env false (.body data false)
      pure true
  | .inr trailers => do
      send env false (.body [] false)
      let headers ← build (encodeHeaders env trailers.allitems)
      send env false (.trailers headers)
      pure true

/-- `_StreamResponse.end`. -/
def streamEnd (env : Env p ω ι τ α) (st : StreamResponse α) (error : Option Exc) :
    Prog (Run ω ι τ α) Exc Bool := do
  let s ← Prog.get
  if s.failed then pure false
  else if s.started then sendEnd env st error
  else do
    sendHeaders env false st
    sendEnd env st error

/-- `_handle_error`. -/
def handleError (env : Env p ω ι τ α) (exc : Exc) (hasCtx : Bool)
    (protocol : Option ServerProtocol) : Prog (Run ω ι τ α) Exc Bool := do
  let s ← Prog.get
  if s.started || s.failed then pure false
  else do
    let reply ← build (errorReply env exc
      (if hasCtx then some (env.ctx s.world) else none) protocol)
    send env false (.start reply.1 reply.2.1 false)
    send env false (.body reply.2.2 false)
    pure true

/-! ## Streams of response messages -/

/-- `with contextlib.suppress(Exception)`. -/
def suppress (x : Prog (Run ω ι τ α) Exc Unit) : Prog (Run ω ι τ α) Exc Unit :=
  Prog.rescue x fun e => if e.isException then pure () else Prog.raise e

/-- `with loop.async_cleanup()`. -/
def asyncCleanup (env : Env p ω ι τ α) (x : Prog (Run ω ι τ α) Exc Unit) :
    Prog (Run ω ι τ α) Exc Unit :=
  Prog.rescue x fun e => do
    let s ← Prog.get
    match env.cleanupExit e s.world with
    | none => pure ()
    | some e => Prog.raise e

/-- `_close_response_stream`.  The generator `_yield_single_response` has nothing
    that closing it or throwing into it could reach. -/
def closeResponseStream (env : Env p ω ι τ α) (st : StreamResponse α) (error : Option Exc) :
    Prog (Run ω ι τ α) Exc Unit :=
  if st.endpoint.returnsOne then pure ()
  else
    match error with
    | none => await env.aclose
    | some e =>
        if e.isCancellation then asyncCleanup env (suppress (await (env.throwInto e)))
        else await (env.throwInto e)

/-- `anext(response_stream)`. -/
def nextResponse (env : Env p ω ι τ α) (st : StreamResponse α) :
    Prog (Run ω ι τ α) Exc (Option α) :=
  if st.endpoint.returnsOne then do
    let s ← Prog.get
    Prog.modify fun s => { s with response := none }
    pure s.response
  else await env.nextResponse

/-- Write one message of the handler. -/
def writeMessage (env : Env p ω ι τ α) (st : StreamResponse α) (message : α) :
    Prog (Run ω ι τ α) Exc Bool := do
  let body ← Prog.ofExcept (st.writer.write message)
  send env true (.body body true)
  pure true

/-- One round of `async for message in response_stream`. -/
def streamRound (env : Env p ω ι τ α) (st : StreamResponse α) :
    Prog (Run ω ι τ α) Exc Bool := do
  let message ← nextResponse env st
  match message with
  | none => pure false
  | some message => do
      let s ← Prog.get
      if env.disconnected s.world then
        Prog.raise (.connect .canceled "Client disconnected")
      else if s.started then writeMessage env st message
      else do
        sendHeaders env true st
        writeMessage env st message

/-- The `match` of `_stream_responses`. -/
def openResponses (env : Env p ω ι τ α) (st : StreamResponse α) :
    Prog (Run ω ι τ α) Exc Unit :=
  if st.endpoint.returnsOne then do
    let response ← await env.callSingle
    -- End the run before sending the response.
    let endError ← endRun env true none
    match endError with
    | some e => Prog.raise e
    | none => Prog.modify fun s => { s with response := some response }
  else await env.openStream

/-- `_stream_responses`, observed up to its `n`-th message. -/
def streamResponses (env : Env p ω ι τ α) (st : StreamResponse α) (n : Nat) :
    Prog (Run ω ι τ α) Exc Unit := do
  openResponses env st
  Prog.rescue (Prog.loop n (streamRound env st)) fun e => do
    closeResponseStream env st (some e)
    Prog.raise e
  closeResponseStream env st none

/-- `_call_stream`. -/
def callStream (env : Env p ω ι τ α) (st : StreamResponse α) (n : Nat) :
    Prog (Run ω ι τ α) Exc Unit := do
  Prog.modify fun s => { s with requestStream := true }
  await env.watchEnter
  Prog.always (streamResponses env st n) (await env.watchExit)

/-! ## The request -/

/-- The body of the inner `try`, from `metadata_run.start()` on.  The result is
    `response_data`. -/
def serve (env : Env p ω ι τ α) (plan : Plan α) (n : Nat) :
    Prog (Run ω ι τ α) Exc (Option α) :=
  match plan with
  | .refused _ _ e _ => Prog.raise e
  | .unary _ => do
      startRun env
      let response ← await env.callUnary
      pure (some response)
  | .stream st => do
      startRun env
      Prog.ofExcept st.requestCompression
      callStream env st n
      pure none

/-- `except Exception as e: error = e`. -/
def keepError (x : Prog (Run ω ι τ α) Exc (Option α)) : Prog (Run ω ι τ α) Exc (Option α) :=
  Prog.rescue x fun e =>
    if e.isException then do
      Prog.modify fun s => { s with error := some e }
      pure none
    else Prog.raise e

/-- `if metadata_run is not None: error = await metadata_run.end(error)`. -/
def endMetadataRun (env : Env p ω ι τ α) (inScope : Bool) (plan : Plan α) :
    Prog (Run ω ι τ α) Exc Unit :=
  if plan.hasRun then do
    let s ← Prog.get
    let error ← endRun env inScope s.error
    Prog.modify fun s => { s with error := error }
  else pure ()

/-- `if error is None and unary is not None`: write the response. -/
def sendUnary (env : Env p ω ι τ α) (plan : Plan α) (responseData : Option α) :
    Prog (Run ω ι τ α) Exc Unit := do
  let s ← Prog.get
  match s.error, plan, responseData with
  | none, .unary u, some responseData => do
      let _ ← keepError (do
        unarySend env u responseData
        pure none)
      pure ()
  | _, _, _ => pure ()

/-- The body of the timeout scope. -/
def scopeBody (env : Env p ω ι τ α) (plan : Plan α) (n : Nat) :
    Prog (Run ω ι τ α) Exc Unit := do
  let responseData ← keepError (serve env plan n)
  endMetadataRun env true plan
  sendUnary env plan responseData

/-- `async with timeout`. -/
def inTimeoutScope (env : Env p ω ι τ α) (x : Prog (Run ω ι τ α) Exc Unit) :
    Prog (Run ω ι τ α) Exc Unit :=
  Prog.rescue x fun e => do
    let s ← Prog.get
    Prog.raise (env.scopeExit e s.world)

/-- `_timeout_error`. -/
def timeoutError (env : Env p ω ι τ α) (w : ω) (e : Exc) : Exc :=
  if !env.expired w then e
  else if env.disconnectedFirst w then .connect .canceled "Client disconnected"
  else .connect .deadlineExceeded "Request timed out"

/-- The outer `except` clauses. -/
def exceptClauses (env : Env p ω ι τ α) (e : Exc) : Prog (Run ω ι τ α) Exc Unit :=
  if e.isTimeoutError then
    Prog.modify fun s =>
      if s.error.isNone then { s with error := some (timeoutError env s.world e) } else s
  else do
    Prog.modify fun s =>
      if e.isCancellation then { s with error := some requestCancelled, cancelled := true }
      else { s with error := some (.connect .unknown "Request was interrupted") }
    Prog.raise e

/-- The end of the stream, or the error response. -/
def respond (env : Env p ω ι τ α) (plan : Plan α) (error : Option Exc) :
    Prog (Run ω ι τ α) Exc Bool :=
  match plan, error with
  | .stream st, error => streamEnd env st error
  | .refused protocol hasCtx _ _, some e => handleError env e hasCtx protocol
  | .unary _, some e => handleError env e true (some .connect)
  | _, none => pure true

/-- The inner `try` of the `finally` block, within its context managers. -/
def writeStatus (env : Env p ω ι τ α) (plan : Plan α) : Prog (Run ω ι τ α) Exc Unit := do
  endMetadataRun env false plan
  let s ← Prog.get
  let write : Prog (Run ω ι τ α) Exc Unit := do
    let responded ← respond env plan s.error
    Prog.modify fun s => { s with responded := responded }
  if s.cancelled then suppress write else write

/-- The `finally` block. -/
def finish (env : Env p ω ι τ α) (plan : Plan α) : Prog (Run ω ι τ α) Exc Unit := do
  let s ← Prog.get
  Prog.always (if s.cancelled then asyncCleanup env (writeStatus env plan) else writeStatus env plan)
    (do
      let s ← Prog.get
      if s.requestStream then await env.acloseRequest else pure ())

/-- The errors that are a response by themselves. -/
def isReported (e : Exc) : Bool := e.isConnectError || e.isHTTPError

/-- `_handle_request`. -/
def handleRequest (env : Env p ω ι τ α) (plan : Plan α) (n : Nat) :
    Prog (Run ω ι τ α) Exc Unit := do
  Prog.always
    (Prog.rescue (inTimeoutScope env (scopeBody env plan n)) (exceptClauses env))
    (finish env plan)
  let s ← Prog.get
  match s.error with
  | none => pure ()
  | some e => if !s.responded || !isReported e then Prog.raise e else pure ()

/-- A request that has just arrived. -/
def Run.new (w : ω) : Run ω ι τ α where
  trace := []
  started := false
  failed := false
  hooks := []
  world := w
  error := none
  cancelled := false
  responded := false
  requestStream := false
  response := none

end ConnectAsgi
