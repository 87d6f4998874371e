import ConnectPy.AsgiRequestProofs

/-! # `ConnectWSGIApplication`

    A request is a call that returns an iterable, of which the app server takes as
    many chunks as it likes before it closes it.  The iterable of a streamed
    response is a generator; at each of its yields the app server either takes the
    next chunk or closes it.  The handler's stream beneath it is any iterator
    (`Responses`), most often a generator too.

    The model keeps what the interceptor run did, and whether the handler's stream is
    open.  What the app server, the handler and the interceptors do is an environment,
    `App`. -/

namespace ConnectWsgi

open Utf8 (Bytes)
open Effect
open ConnectErrors ConnectPlatform ConnectHeaders ConnectWireErrors ConnectWriter
open ConnectTrailersWire
open ConnectAsgi (Ctx Plan StreamResponse UnaryResponse grpcContentType trailersOnlyHeaders
  errorToHttpStatus isReported)

/-! ## The environment -/

/-- What an iterator does when it is resumed.  An exception it raises may be the
    very one that was thrown into it. -/
inductive Resumed (α : Type) where
  | yielded (message : α)
  | returned
  | raised (e : Exc) (same : Bool)
  | pending

/-- The iterators, by what `_end_stream` finds on them: a generator has `throw` and
    `close`, any other may have a `close` of its own. -/
inductive Kind where
  | generator
  | iterator (closes : Bool)
  deriving DecidableEq, Repr

def Kind.isGenerator : Kind → Bool
  | .generator => true
  | .iterator _ => false

/-- There is something to close. -/
def Kind.closes : Kind → Bool
  | .generator => true
  | .iterator closes => closes

/-- The handler's stream. -/
structure Responses (ω α : Type) where
  kind   : Kind
  /-- `__next__`, or what a generator does with an exception that is thrown into it. -/
  resume : Option Exc → ω → Resumed α × ω
  /-- The `close` of an iterator that is no generator. -/
  close  : Prog ω Exc Unit

/-- What a request calls.  `ω` is the state of all that is around it. -/
structure App (p : Platform) (ω ι τ α : Type) where
  /-- The leading metadata interceptors. -/
  interceptors : List ι
  ctx : ω → Ctx p
  onStart : ι → Prog ω Exc τ
  onEnd : ι → τ → Option Exc → Prog ω Exc Unit
  /-- Reading the request of a unary method and invoking its handler. -/
  callUnary : Prog ω Exc α
  /-- The handler of a method with one response message, on its request. -/
  callSingle : Prog ω Exc α
  /-- The handler of a method with a response stream, up to its stream. -/
  openStream : Prog ω Exc Unit
  /-- The stream it returns. -/
  responses : Responses ω α
  /-- `message is None`. -/
  isNone : α → Bool
  /-- `start_response`, with the code of the status. -/
  startResponse : Nat → List (String × String) → Prog ω Exc Unit
  sendTrailers : List (String × String) → Prog ω Exc Unit
  drainRequestBody : Prog ω Exc Unit
  /-- `environ["wsgi.errors"].write`. -/
  writeError : Exc → Prog ω Exc Unit

/-! ## The state of a request -/

/-- One call of `on_end_sync`, and whether the handler's stream was open. -/
structure EndCall (ι τ : Type) where
  interceptor : ι
  token       : τ
  error       : Option Exc
  streamOpen  : Bool

/-- What the invariants speak about: the fields of `MetadataInterceptorsRunSync`,
    the calls of `on_end_sync`, and whether the handler's stream has still to be
    closed.  Nothing else is done about an iterator without a `close`. -/
structure Core (ι τ : Type) where
  started    : List (ι × τ)
  ended      : Bool
  calls      : List (EndCall ι τ)
  streamOpen : Bool

structure Run (ω ι τ α : Type) extends Core ι τ where
  world    : ω
  error    : Option Exc
  /-- What `iter([response])` has still to yield. -/
  response : Option α
  /-- The chunks the app server took. -/
  chunks   : List Bytes

variable {p : Platform} {ω ι τ α β : Type}

/-- Run a part of the environment. -/
def await (x : Prog ω Exc β) : Prog (Run ω ι τ α) Exc β :=
  Prog.zoom Run.world (fun w s => { s with world := w }) x

/-- The handler's stream is closed. -/
def finish (s : Run ω ι τ α) : Run ω ι τ α := { s with streamOpen := false }

/-- It returned or raised, and no generator is open after that. -/
def leave : Kind → Run ω ι τ α → Run ω ι τ α
  | .generator, s => finish s
  | .iterator _, s => s

/-! ## `MetadataInterceptorsRunSync` -/

/-- The loop of `start`. -/
def startLoop (app : App p ω ι τ α) : List ι → Prog (Run ω ι τ α) Exc Unit
  | [] => pure ()
  | i :: rest => do
      let token ← await (app.onStart i)
      Prog.modify fun s => { s with started := s.started ++ [(i, token)] }
      startLoop app rest

/-- `MetadataInterceptorsRunSync.start`. -/
def startRun (app : App p ω ι τ α) : Prog (Run ω ι τ α) Exc Unit :=
  startLoop app app.interceptors

/-- Keep a call of `on_end_sync`. -/
def logCall (i : ι) (token : τ) (error : Option Exc) (s : Run ω ι τ α) : Run ω ι τ α :=
  { s with calls := s.calls ++ [⟨i, token, error, s.streamOpen⟩] }

/-- The loop of `end`. -/
def endLoop (app : App p ω ι τ α) :
    List (ι × τ) → Option Exc → Prog (Run ω ι τ α) Exc (Option Exc)
  | [], error => pure error
  | (i, token) :: rest, error => do
      Prog.modify (logCall i token error)
      let outcome ← Prog.attempt (await (app.onEnd i token error))
      match outcome with
      | .ok _ => endLoop app rest error
      | .error e => if e.isException then endLoop app rest (some e) else Prog.raise e

/-- `MetadataInterceptorsRunSync.end`. -/
def endRun (app : App p ω ι τ α) (error : Option Exc) :
    Prog (Run ω ι τ α) Exc (Option Exc) := do
  let s ← Prog.get
  if s.ended then pure error
  else do
    Prog.modify fun s => { s with ended := true }
    endLoop app s.started.reverse error

/-! ## The handler's stream -/

/-- What closing a generator raises at its yield. -/
def generatorExit : Exc := .baseException "GeneratorExit"

/-- `isinstance(e, GeneratorExit)`. -/
def isGeneratorExit : Exc → Bool
  | .baseException name => name == "GeneratorExit"
  | _ => false

def resume (app : App p ω ι τ α) (thrown : Option Exc) : Prog (Run ω ι τ α) Exc (Resumed α) :=
  await fun w => (.ret (app.responses.resume thrown w).1, (app.responses.resume thrown w).2)

/-- `next(response_stream)`; none when it is exhausted. -/
def nextMessage (app : App p ω ι τ α) (st : StreamResponse α) :
    Prog (Run ω ι τ α) Exc (Option α) := do
  let s ← Prog.get
  if st.endpoint.returnsOne then do
    Prog.modify fun s => { s with response := none }
    pure s.response
  -- A generator that is over is not entered again.
  else if s.streamOpen || !app.responses.kind.isGenerator then do
    let resumed ← resume app none
    match resumed with
    | .yielded message => pure (some message)
    | .returned => do
        Prog.modify (leave app.responses.kind)
        pure none
    | .raised e _ => do
        Prog.modify (leave app.responses.kind)
        Prog.raise e
    | .pending => Prog.stuck
  else pure none

/-- `close` of a generator. -/
def closeGenerator (app : App p ω ι τ α) : Prog (Run ω ι τ α) Exc Unit := do
  let s ← Prog.get
  if s.streamOpen then do
    let resumed ← resume app (some generatorExit)
    match resumed with
    | .yielded _ => Prog.raise (.exception .runtimeError "generator ignored GeneratorExit")
    | .returned => Prog.modify finish
    | .raised e same => do
        Prog.modify finish
        if same || isGeneratorExit e then pure () else Prog.raise e
    | .pending => Prog.stuck
  else pure ()

/-- `response_stream.close()` in `_end_stream`, where there is one. -/
def closeStream (app : App p ω ι τ α) : Prog (Run ω ι τ α) Exc Unit :=
  match app.responses.kind with
  | .generator => closeGenerator app
  | .iterator true => do
      await app.responses.close
      Prog.modify finish
  | .iterator false => pure ()

/-- `response_stream.throw(error)` in `_end_stream`: whether that ended it.  A
    finished generator raises what is thrown into it. -/
def throwInto (app : App p ω ι τ α) (error : Exc) : Prog (Run ω ι τ α) Exc Bool := do
  let s ← Prog.get
  if s.streamOpen then do
    let resumed ← resume app (some error)
    match resumed with
    | .yielded _ => pure false
    | .returned => do
        Prog.modify finish
        pure true
    | .raised e same => do
        Prog.modify finish
        if same then pure true else Prog.raise e
    | .pending => Prog.stuck
  else pure true

/-- `_end_stream`.  The iterator `iter([response])` has neither `throw` nor `close`. -/
def endStream (app : App p ω ι τ α) (st : StreamResponse α) (error : Option Exc) :
    Prog (Run ω ι τ α) Exc Unit :=
  if st.endpoint.returnsOne then pure ()
  else
    match app.responses.kind, error with
    | .generator, some e => do
        let ended ← throwInto app e
        if ended then pure () else closeStream app
    | _, _ => closeStream app

/-! ## Writing the response -/

/-- What `__call__` returns: a list of chunks, or a generator that has not started. -/
inductive Response (α : Type) where
  | list (body : List Bytes)
  | generator (st : StreamResponse α) (first : α)

/-- `start_response`. -/
def startResponse (app : App p ω ι τ α) (status : Nat) (headers : List (String × String)) :
    Prog (Run ω ι τ α) Exc Unit :=
  await (app.startResponse status headers)

/-- `_send_stream_response_headers`. -/
def sendHeaders (app : App p ω ι τ α) (st : StreamResponse α) :
    Prog (Run ω ι τ α) Exc Unit := do
  let s ← Prog.get
  startResponse app 200 (streamHeaders st.protocol st.codec.name st.compression.name
    (app.ctx s.world).responseHeaders)

/-- `_end_response`, on what `writer.end` returns. -/
def endResponse (app : App p ω ι τ α) (st : StreamResponse α) (error : Option Exc) :
    Prog (Run ω ι τ α) Exc Bytes := do
  let s ← Prog.get
  let message ← Prog.ofExcept (st.writerEnd (app.ctx s.world).responseTrailers
    (error.map ConnectWireError.fromException))
  match message with
  | .inl data => pure data
  | .inr trailers => do
      await (app.sendTrailers trailers.allitems)
      pure []

/-- `_maybe_log_exception`. -/
def maybeLogException (app : App p ω ι τ α) (e : Exc) : Prog (Run ω ι τ α) Exc Unit :=
  if isReported e then pure () else await (app.writeError e)

/-- `_handle_error`. -/
def handleError (app : App p ω ι τ α) (exc : Exc) (hasCtx : Bool)
    (protocol : Option ServerProtocol) : Prog (Run ω ι τ α) Exc (List Bytes) := do
  let s ← Prog.get
  let ctx := if hasCtx then some (app.ctx s.world) else none
  let responseHeaders := (ctx.map Ctx.responseHeaders).getD (.empty p)
  let responseTrailers := (ctx.map Ctx.responseTrailers).getD (.empty p)
  match exc, protocol.bind grpcContentType with
  | .httpError e, _ => do
      startResponse app e.status (addContextHeaders e.headers responseHeaders responseTrailers)
      pure []
  -- A gRPC client reads the status of a response without a body from its headers.
  | exc, some contentType => do
      startResponse app 200 (trailersOnlyHeaders contentType ctx exc).allitems
      pure []
  | exc, none => do
      let wireError := ConnectWireError.fromException exc
      startResponse app (errorToHttpStatus wireError.code) (addContextHeaders
        [("Content-Type", "application/json")] responseHeaders responseTrailers)
      pure [Utf8.encode (p.jsonDumps (.obj wireError.toDict))]

/-- The error of a request that was left by something that is no exception. -/
def interrupted : Exc := .connect .unknown "Request was interrupted"

/-- A failed `assert`. -/
def assertionError : Exc := .exception (.other "AssertionError") ""

/-- `_handle_unary`, from `metadata_run.start()` on. -/
def handleUnary (app : App p ω ι τ α) (u : UnaryResponse α) :
    Prog (Run ω ι τ α) Exc (Response α) := do
  let response ← Prog.always
    (Prog.rescue
      (do
        startRun app
        let response ← await app.callUnary
        pure (some response))
      fun e =>
        if e.isException then do
          Prog.modify fun s => { s with error := some e }
          pure none
        else do
          Prog.modify fun s => { s with error := some interrupted }
          Prog.raise e)
    (do
      let s ← Prog.get
      let error ← endRun app s.error
      Prog.modify fun s => { s with error := error })
  let s ← Prog.get
  match s.error, response with
  | some e, _ => Prog.raise e
  | none, none => Prog.raise assertionError
  | none, some response =>
      if app.isNone response then Prog.raise assertionError
      else do
        let data ← Prog.ofExcept (u.codec.encode response)
        let resBytes ← Prog.ofExcept (u.compression.compress data)
        let s ← Prog.get
        startResponse app 200 (unaryHeaders u.codec.name u.compression.name
          (app.ctx s.world).responseHeaders (app.ctx s.world).responseTrailers)
        pure (.list [resBytes])

/-- The `match` of `_handle_stream`. -/
def openResponses (app : App p ω ι τ α) (st : StreamResponse α) :
    Prog (Run ω ι τ α) Exc Unit :=
  if st.endpoint.returnsOne then do
    let response ← await app.callSingle
    -- End the run before sending the response.
    let endError ← endRun app none
    match endError with
    | some e => Prog.raise e
    | none => Prog.modify fun s => { s with response := some response }
  else do
    await app.openStream
    Prog.modify fun s => { s with streamOpen := app.responses.kind.closes }

/-- `next(response_stream, None)`, which does not tell a message that is `None` from
    the end of the stream. -/
def firstResponse (app : App p ω ι τ α) (st : StreamResponse α) :
    Prog (Run ω ι τ α) Exc (Option α) := do
  let message ← nextMessage app st
  match message with
  | none => pure none
  | some message => pure (if app.isNone message then none else some message)

/-- The `try` of `_handle_stream`. -/
def streamBody (app : App p ω ι τ α) (st : StreamResponse α) :
    Prog (Run ω ι τ α) Exc (Response α) := do
  startRun app
  Prog.ofExcept st.requestCompression
  openResponses app st
  let first ← firstResponse app st
  sendHeaders app st
  match first with
  | none => do
      let error ← endRun app none
      let chunk ← endResponse app st error
      pure (.list [chunk])
  | some first => pure (.generator st first)

/-- `_handle_stream`, from `metadata_run.start()` on. -/
def handleStream (app : App p ω ι τ α) (st : StreamResponse α) :
    Prog (Run ω ι τ α) Exc (Response α) :=
  Prog.rescue (streamBody app st) fun e =>
    if e.isException then do
      let error ← endRun app (some e)
      match error with
      | none => Prog.raise assertionError
      | some error => do
          await app.drainRequestBody
          maybeLogException app error
          sendHeaders app st
          let chunk ← endResponse app st (some error)
          pure (.list [chunk])
    else do
      let _ ← endRun app (some interrupted)
      Prog.raise e

/-- The protocol of a response, and whether there is a context. -/
def protocolOf : Plan α → Option ServerProtocol × Bool
  | .refused protocol hasCtx _ _ => (protocol, hasCtx)
  | .unary _ => (some .connect, true)
  | .stream st => (some st.protocol, true)

/-- `__call__`. -/
def call (app : App p ω ι τ α) (plan : Plan α) : Prog (Run ω ι τ α) Exc (Response α) :=
  Prog.rescue
    (match plan with
      | .refused _ _ e _ => Prog.raise e
      | .unary u => handleUnary app u
      | .stream st => handleStream app st)
    fun e =>
      if e.isException then do
        await app.drainRequestBody
        maybeLogException app e
        let body ← handleError app e (protocolOf plan).2 (protocolOf plan).1
        pure (.list body)
      else Prog.raise e

/-! ## The app server's part -/

/-- A chunk that is taken. -/
def deliver (chunk : Bytes) : Prog (Run ω ι τ α) Exc Unit :=
  Prog.modify fun s => { s with chunks := s.chunks ++ [chunk] }

/-- `for message in response_stream`, from a yield of the response on.  The app server
    takes this many more chunks and then closes the response. -/
def streamLoop (app : App p ω ι τ α) (st : StreamResponse α) : Nat → Prog (Run ω ι τ α) Exc Unit
  | 0 => Prog.raise generatorExit
  | k + 1 => do
      let message ← nextMessage app st
      match message with
      | none => pure ()
      | some message => do
          let body ← Prog.ofExcept (st.writer.write message)
          deliver body
          streamLoop app st k

/-- `_response_stream`, whose first chunk is taken, and `k` more. -/
def responseStream (app : App p ω ι τ α) (st : StreamResponse α) (first : α) (k : Nat) :
    Prog (Run ω ι τ α) Exc Unit := do
  Prog.always
    (Prog.rescue
      (do
        let body ← Prog.ofExcept (st.writer.write first)
        deliver body
        streamLoop app st k)
      fun e =>
        if e.isException then do
          Prog.modify fun s => { s with error := some e }
          await app.drainRequestBody
        else do
          Prog.modify fun s => { s with error := some (if isGeneratorExit e
            then .connect .canceled "Client disconnected" else interrupted) }
          Prog.raise e)
    (do
      let s ← Prog.get
      endStream app st s.error
      let error ← endRun app s.error
      Prog.modify fun s => { s with error := error })
  let s ← Prog.get
  let chunk ← endResponse app st s.error
  deliver chunk

/-- Take `k` chunks and close the response.  Closing a generator that has not started
    runs none of it. -/
def consume (app : App p ω ι τ α) : Nat → Response α → Prog (Run ω ι τ α) Exc Unit
  | k, .list body => Prog.modify fun s => { s with chunks := body.take k }
  | 0, .generator _ _ => pure ()
  | k + 1, .generator st first => responseStream app st first k

/-- A request, of whose response the app server takes `k` chunks before it closes it. -/
def handleRequest (app : App p ω ι τ α) (plan : Plan α) (k : Nat) :
    Prog (Run ω ι τ α) Exc Unit := do
  let response ← call app plan
  consume app k response

/-- A request that has just arrived. -/
def Run.new (w : ω) : Run ω ι τ α where
  started := []
  ended := false
  calls := []
  streamOpen := false
  world := w
  error := none
  response := none
  chunks := []

end ConnectWsgi
