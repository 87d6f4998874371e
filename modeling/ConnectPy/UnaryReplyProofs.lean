import ConnectPy.WsgiReplyProofs

/-! # Replies in one piece

    A unary call of the Connect protocol is answered with one message or with an error,
    and a request that is refused with an error.  `Whole` is the reply that these come
    to; nothing of it depends on the server.

    An error is written as the protocol asks: as JSON under an HTTP status, as a status
    of gRPC among the headers, or, where HTTP itself refuses, as an HTTP status alone
    (`errorReply`).  The two servers write it in different places, the one behind its
    timeout scope and the other in its outermost clause; they spell the name of one
    header differently, and names have no case (`Reply.onWire`). -/

namespace ConnectUnaryReply

open Utf8 (Bytes)
open Effect
open ConnectErrors ConnectPlatform ConnectHeaders ConnectWireErrors ConnectWriter
open ConnectTrailersWire ConnectReply
open ConnectAsgi (Ctx Env Plan UnaryResponse StreamResponse grpcContentType trailersOnlyHeaders
  errorToHttpStatus)
open ConnectAsgiReply (Phase Tells encodePairs)
open ConnectWsgi (App)
open ConnectWsgiReply (Heard Answers)

variable {p : Platform} {ω ι τ α β : Type}

/-! ## What is said -/

/-- A reply as HTTP carries it: header names have no case. -/
def Reply.onWire (p : Platform) (r : Reply) : Reply :=
  { r with headers := ConnectTrailersWire.onWire p r.headers }

/-- The body of a unary response: the message, encoded and compressed. -/
def unaryBody (u : UnaryResponse α) (message : α) : Except Exc Bytes :=
  match u.codec.encode message with
  | .error e => .error e
  | .ok data => u.compression.compress data

/-- A unary response. -/
def unaryReply (u : UnaryResponse α) (ctx : Ctx p) (body : Bytes) : Reply where
  status := 200
  headers := unaryHeaders u.codec.name u.compression.name ctx.responseHeaders ctx.responseTrailers
  body := body
  trailers := []

/-- The reply to a request that ends with an error before any response. -/
def errorReply (ctx : Option (Ctx p)) (protocol : Option ServerProtocol) (exc : Exc) : Reply :=
  let responseHeaders := (ctx.map Ctx.responseHeaders).getD (.empty p)
  let responseTrailers := (ctx.map Ctx.responseTrailers).getD (.empty p)
  match exc, protocol.bind grpcContentType with
  | .httpError e, _ =>
      ⟨e.status, errorHeaders (.httpError e) responseHeaders responseTrailers, [], []⟩
  | exc, some contentType => ⟨200, (trailersOnlyHeaders contentType ctx exc).allitems, [], []⟩
  | exc, none =>
      let wireError := ConnectWireError.fromException exc
      ⟨errorToHttpStatus wireError.code, errorHeaders exc responseHeaders responseTrailers,
        Utf8.encode (p.jsonDumps (.obj wireError.toDict)), []⟩

theorem errorReply_trailers (ctx : Option (Ctx p)) (protocol : Option ServerProtocol) (exc : Exc) :
    (errorReply ctx protocol exc).trailers = [] := by
  unfold errorReply
  cases protocol.bind grpcContentType <;> cases exc <;> rfl

/-- What a request comes to that is answered in one piece: its handler returned a
    message or raised, or it was refused. -/
inductive Whole (ctx : Ctx p) : Plan α → Except Exc α → Reply → Prop where
  | message {u : UnaryResponse α} {m : α} {body : Bytes} (hbody : unaryBody u m = .ok body) :
      Whole ctx (.unary u) (.ok m) (unaryReply u ctx body)
  | unwritten {u : UnaryResponse α} {m : α} {e : Exc} (hbody : unaryBody u m = .error e)
      (he : e.isException = true) :
      Whole ctx (.unary u) (.ok m) (errorReply (some ctx) (some .connect) e)
  | raised {u : UnaryResponse α} {e : Exc} (he : e.isException = true) :
      Whole ctx (.unary u) (.error e) (errorReply (some ctx) (some .connect) e)
  | refused {protocol : Option ServerProtocol} {hasCtx : Bool} {e : Exc}
      {he : e.isException = true} {outcome : Except Exc α} :
      Whole ctx (.refused protocol hasCtx e he) outcome
        (errorReply (if hasCtx then some ctx else none) protocol e)

/-- How a call of a handler ends. -/
def called : Except Exc α → Outcome Exc α
  | .ok m => .ret m
  | .error e => .raise e

/-- Where a request stands when it begins: a handler that is not called is done. -/
def firstPhase : Plan α → Phase α
  | .refused _ _ _ _ => .done
  | .unary _ => .before
  | .stream _ => .before

/-! ## The ASGI server -/

section Asgi

open ConnectAsgi ConnectAsgiReply

/-- The messages of a response in one piece. -/
def replyMessages (r : Reply) : List Message :=
  [.start r.status (encodePairs r.headers) false, .body r.body false]

theorem tells_replyMessages {r : Reply} (h : r.trailers = []) : Tells (replyMessages r) r where
  start := ⟨false, rfl⟩
  body := List.append_nil r.body
  trailers := by
    rw [h]
    rfl

/-- The handler of a unary method, left alone. -/
structure CallsAsgi (env : Env p ω ι τ α) (ctx : Ctx p) (outcome : Except Exc α)
    (At : Phase α → ω → Prop) : Prop extends ConnectAsgiReply.Quiet env ctx At where
  callUnary : ∀ w, At .before w →
    (env.callUnary w).1 = called outcome ∧ At .done (env.callUnary w).2

variable {env : Env p ω ι τ α} {ctx : Ctx p} {At : Phase α → ω → Prop}

/-- `_handle_error` makes the reply. -/
theorem errorReply_asgi (hencodes : ∀ s, env.encodeText s = .ok (Utf8.encode s)) (exc : Exc)
    (ctx : Option (Ctx p)) (protocol : Option ServerProtocol) :
    ConnectAsgi.errorReply env exc ctx protocol
      = .ok ((errorReply ctx protocol exc).status,
          encodePairs (errorReply ctx protocol exc).headers, (errorReply ctx protocol exc).body) := by
  unfold ConnectAsgi.errorReply errorReply
  cases hp : protocol.bind grpcContentType with
  | some contentType =>
      cases exc <;> (dsimp only; rw [encodeHeaders_encodes hencodes])
  | none =>
      cases exc <;> (dsimp only; simp only [hencodes, encodeHeaders_encodes hencodes])

theorem spec_handleError (h : ConnectAsgiReply.Quiet env ctx At) (e : Exc) (hasCtx : Bool)
    (protocol : Option ServerProtocol) {kept : Option Exc} :
    Spec (ConnectAsgiReply.Stage (At .done) false [] kept none) (handleError env e hasCtx protocol)
      (.returns fun _ s => At .done s.world
        ∧ s.messages = replyMessages (errorReply (if hasCtx then some ctx else none) protocol e)) := by
  refine Spec.get_of (A := fun t => t.started = false ∧ t.failed = false ∧ env.ctx t.world = ctx)
    (fun s hs => ⟨hs.started, hs.failed, h.settled s.world hs.world⟩) fun t ht => ?_
  obtain ⟨hstarted, hfailed, hctx⟩ := ht
  rw [hstarted, hfailed, hctx, errorReply_asgi h.encodes]
  generalize errorReply (if hasCtx then some ctx else none) protocol e = reply
  show Spec _ (send env false (.start reply.status (encodePairs reply.headers) false) >>=
    fun _ => send env false (.body reply.body false) >>= fun _ => pure true) _
  exact Spec.bind _ (spec_send h false _) fun _ => Spec.bind _ (spec_send h false _) fun _ =>
    Spec.pure fun s hs => ⟨hs.world, hs.messages⟩

theorem spec_unarySend (h : ConnectAsgiReply.Quiet env ctx At) {u : UnaryResponse α} {m : α}
    {body : Bytes} (hbody : unaryBody u m = .ok body) {kept : Option Exc} :
    Spec (ConnectAsgiReply.Stage (At .done) false [] kept none) (unarySend env u m)
      (.returns fun _ s => ConnectAsgiReply.Stage (At .done) true
        (replyMessages (unaryReply u ctx body)) kept none s) := by
  rw [unaryBody] at hbody
  cases hdata : u.codec.encode m with
  | error e => rw [hdata] at hbody; cases hbody
  | ok data =>
      rw [hdata] at hbody
      dsimp only at hbody
      rw [unarySend, hdata]
      refine Spec.ok_bind ?_
      rw [hbody]
      refine Spec.ok_bind (Spec.get_of (A := fun t => env.ctx t.world = ctx) (fun s hs =>
        h.settled s.world hs.world) fun t hctx => ?_)
      rw [hctx, encodeHeaders_encodes h.encodes]
      show Spec _ (send env true (.start 200 (encodePairs (unaryReply u ctx body).headers)
        false) >>= fun _ => send env true (.body body false)) _
      exact Spec.bind _ (spec_send h true _) fun _ => spec_send h true _

/-- A message that cannot be written raises before anything is sent. -/
theorem spec_unarySend_error {u : UnaryResponse α} {m : α} {e : Exc}
    (hbody : unaryBody u m = .error e) {P : Run ω ι τ α → Prop} :
    Spec P (unarySend env u m) ⟨fun _ _ => False, fun e' s => e' = e ∧ P s, fun _ => False⟩ := by
  rw [unaryBody] at hbody
  cases hdata : u.codec.encode m with
  | error e' =>
      rw [hdata] at hbody
      obtain rfl := Except.error.inj hbody
      rw [unarySend, hdata]
      exact fun s hs => ⟨rfl, hs⟩
  | ok data =>
      rw [hdata] at hbody
      dsimp only at hbody
      rw [unarySend, hdata]
      refine Spec.ok_bind ?_
      rw [hbody]
      exact fun s hs => ⟨rfl, hs⟩

/-- An exception of the request is kept. -/
theorem spec_keepError {x : Prog (Run ω ι τ α) Exc (Option α)} {W : ω → Prop} {e : Exc}
    (he : e.isException = true) {P : Run ω ι τ α → Prop}
    (hx : Spec P x ⟨fun _ _ => False,
      fun e' s => e' = e ∧ ConnectAsgiReply.Stage W false [] none none s, fun _ => False⟩) :
    Spec P (keepError x) (.returns fun r s => r = none
      ∧ ConnectAsgiReply.Stage W false [] (some e) none s) := by
  refine Spec.rescue (fun e' s => e' = e ∧ ConnectAsgiReply.Stage W false [] none none s)
    (hx.weaken (fun _ hs => hs) (fun _ _ hs => hs.elim) (fun _ _ hs => hs) fun _ hs => hs)
    fun e' => Spec.assume fun he' => ?_
  subst he'
  rw [if_pos he]
  refine Spec.bind (fun _ => ConnectAsgiReply.Stage W false [] (some e') none)
    (Spec.modify fun s hs => ?_) fun _ => Spec.pure fun _ hs => ⟨rfl, hs⟩
  exact ⟨hs.world, hs.failed, hs.started, hs.messages, rfl, hs.cancelled, hs.response⟩

/-- A response that is kept from an error of its own. -/
theorem spec_keepError_ret {x : Prog (Run ω ι τ α) Exc (Option α)}
    {R : Option α → Run ω ι τ α → Prop} {P : Run ω ι τ α → Prop}
    (hx : Spec P x (.returns R)) :
    Spec P (keepError x) (.returns R) := by
  refine Spec.rescue (fun _ _ => False) hx fun e => ?_
  intro s hs
  exact hs.elim

/-- **A scope that ends with an error** before anything was sent. -/
theorem spec_scopeBody_error (h : ConnectAsgiReply.Quiet env ctx At) {plan : Plan α} {n : Nat}
    {e : Exc} (he : e.isException = true) {φ : Phase α}
    (hserve : Spec (ConnectAsgiReply.Stage (At φ) false [] none none) (serve env plan n)
      ⟨fun _ _ => False,
        fun e' s => e' = e ∧ ConnectAsgiReply.Stage (At .done) false [] none none s,
        fun _ => False⟩) :
    Spec (ConnectAsgiReply.Stage (At φ) false [] none none) (scopeBody env plan n)
      (.returns fun _ s =>
        ConnectAsgiReply.Stage (At .done) false [] (some e) none s) := by
  refine Spec.bind _ (spec_keepError he hserve) fun r => Spec.assume fun hr => ?_
  subst hr
  refine Spec.bind _ (spec_endMetadataRun' h true plan) fun _ => Spec.get_of (A := fun t =>
    t.error = some e) (fun s hs => hs.error) fun t ht => ?_
  rw [ht]
  exact Spec.pure fun _ hs => hs

/-- A handler that returns, called once the hooks have started. -/
theorem spec_serve_ok {m : α} (h : CallsAsgi env ctx (.ok m) At) (u : UnaryResponse α) (n : Nat) :
    Spec (ConnectAsgiReply.Stage (At .before) false [] none none) (serve env (.unary u) n)
      (.returns fun r s => r = some m
        ∧ ConnectAsgiReply.Stage (At .done) false [] none none s) := by
  refine Spec.bind _ (spec_startRun h.toQuiet) fun _ => ?_
  refine Spec.bind _ (spec_await_ret (R := fun r => r = m) fun w hw => ?_) fun r =>
    Spec.assume fun hr => Spec.pure fun _ hs => ⟨congrArg some hr, hs⟩
  obtain ⟨hcall, hdone⟩ := h.callUnary w hw
  exact ⟨m, _, Prod.ext hcall rfl, hdone, rfl⟩

/-- A handler that raises. -/
theorem spec_serve_error {e : Exc} (h : CallsAsgi env ctx (.error e) At) (u : UnaryResponse α)
    (n : Nat) :
    Spec (ConnectAsgiReply.Stage (At .before) false [] none none) (serve env (.unary u) n)
      ⟨fun _ _ => False,
        fun e' s => e' = e ∧ ConnectAsgiReply.Stage (At .done) false [] none none s,
        fun _ => False⟩ := by
  refine Spec.bind _ (Spec.returns_raise (spec_startRun h.toQuiet) _ _) fun _ => ?_
  refine Spec.bind (fun _ _ => False) ?_ fun _ s hs => hs.elim
  intro s hs
  obtain ⟨hcall, hdone⟩ := h.callUnary s.world hs.world
  show Post.at _ (env.callUnary s.world).1 { s with world := (env.callUnary s.world).2 }
  rw [hcall]
  exact ⟨rfl, hs.move hdone⟩

/-- **A scope whose handler returned**, up to what becomes of its message. -/
theorem spec_scopeBody_ok {m : α} (h : CallsAsgi env ctx (.ok m) At) {u : UnaryResponse α} {n : Nat}
    {R : Option α → Run ω ι τ α → Prop}
    (hsend : Spec (ConnectAsgiReply.Stage (At .done) false [] none none)
      (keepError (unarySend env u m >>= fun _ => pure none)) (.returns R)) :
    Spec (ConnectAsgiReply.Stage (At .before) false [] none none) (scopeBody env (.unary u) n)
      (.returns fun _ s => ∃ r, R r s) := by
  refine Spec.bind _ (spec_keepError_ret (spec_serve_ok h u n)) fun r => Spec.assume fun hr => ?_
  subst hr
  refine Spec.bind _ (spec_endMetadataRun' h.toQuiet true (.unary u)) fun _ => Spec.get_of (A :=
    fun t => t.error = none) (fun s hs => hs.error) fun t ht => ?_
  rw [ht]
  exact Spec.bind _ hsend fun r => Spec.pure fun _ hs => ⟨r, hs⟩

/-- **The reply of the ASGI server** to a request that is answered in one piece. -/
theorem handleRequest_tells_whole {plan : Plan α} {outcome : Except Exc α} {reply : Reply}
    (h : CallsAsgi env ctx outcome At) (hwhole : Whole ctx plan outcome reply) (n : Nat) {w : ω}
    (hw : At (firstPhase plan) w) :
    Tells (handleRequest env plan n (Run.new w)).2.messages reply := by
  cases hwhole with
  | @message u m body hbody =>
      have hscope := spec_scopeBody_ok (n := n) h (spec_keepError_ret
        (Spec.bind _ (spec_unarySend h.toQuiet hbody) fun _ => Spec.pure (Q :=
          Post.returns fun _ s => ConnectAsgiReply.Stage (At .done) true
            (replyMessages (unaryReply u ctx body)) none none s) fun _ hs => hs))
      rw [handleRequest_spec h.toQuiet (hscope.weaken (fun _ hs => hs)
        (fun _ _ ⟨_, hs⟩ => hs) (fun _ _ hs => hs) fun _ hs => hs)
        (Spec.pure fun s hs => ⟨hs.world, hs.messages⟩) hw]
      exact tells_replyMessages rfl
  | @unwritten u m e hbody he =>
      have hscope := spec_scopeBody_ok (n := n) h (u := u) (spec_keepError he
        (Spec.bind (fun _ _ => False) (spec_unarySend_error hbody) fun _ s hs => hs.elim))
      rw [handleRequest_spec h.toQuiet (hscope.weaken (fun _ hs => hs)
        (fun _ _ ⟨_, hs⟩ => hs.2) (fun _ _ hs => hs) fun _ hs => hs)
        (spec_handleError h.toQuiet e true (some .connect)) hw]
      exact tells_replyMessages (errorReply_trailers _ _ _)
  | @raised u e he =>
      rw [handleRequest_spec h.toQuiet (spec_scopeBody_error h.toQuiet he (spec_serve_error h u n))
        (spec_handleError h.toQuiet e true (some .connect)) hw]
      exact tells_replyMessages (errorReply_trailers _ _ _)
  | @refused protocol hasCtx e he outcome =>
      have hserve : Spec (ConnectAsgiReply.Stage (At .done) false [] none none)
          (serve env (.refused protocol hasCtx e he) n) ⟨fun _ _ => False,
            fun e' s => e' = e ∧ ConnectAsgiReply.Stage (At .done) false [] none none s,
            fun _ => False⟩ := Spec.raise fun s hs => ⟨rfl, hs⟩
      rw [handleRequest_spec h.toQuiet (spec_scopeBody_error h.toQuiet he hserve)
        (spec_handleError h.toQuiet e hasCtx protocol) hw]
      exact tells_replyMessages (errorReply_trailers _ _ _)

end Asgi

/-! ## The WSGI server -/

section Wsgi

open ConnectWsgi ConnectWsgiReply

/-- The handler of a unary method, left alone; what it returns is a message. -/
structure CallsWsgi (app : App p ω ι τ α) (ctx : Ctx p) (outcome : Except Exc α)
    (At : Phase α → Heard → ω → Prop) : Prop extends ConnectWsgiReply.Quiet app ctx At where
  callUnary : ∀ heard w, At .before heard w →
    (app.callUnary w).1 = called outcome ∧ At .done heard (app.callUnary w).2
  isSome    : ∀ m, outcome = .ok m → app.isNone m = false

/-- The reply as the WSGI server spells it. -/
def errorReplyWsgi (ctx : Option (Ctx p)) (protocol : Option ServerProtocol) (exc : Exc) : Reply :=
  let responseHeaders := (ctx.map Ctx.responseHeaders).getD (.empty p)
  let responseTrailers := (ctx.map Ctx.responseTrailers).getD (.empty p)
  match exc, protocol.bind grpcContentType with
  | .httpError e, _ =>
      ⟨e.status, addContextHeaders e.headers responseHeaders responseTrailers, [], []⟩
  | exc, some contentType => ⟨200, (trailersOnlyHeaders contentType ctx exc).allitems, [], []⟩
  | exc, none =>
      let wireError := ConnectWireError.fromException exc
      ⟨errorToHttpStatus wireError.code, addContextHeaders [("Content-Type", "application/json")]
          responseHeaders responseTrailers,
        Utf8.encode (p.jsonDumps (.obj wireError.toDict)), []⟩

theorem onWire_contentType (headers : List (String × String)) :
    onWire p (("Content-Type", "application/json") :: headers)
      = onWire p (("content-type", "application/json") :: headers) := by
  have hcase : p.lower "Content-Type" = p.lower "content-type" := by
    rw [p.lower_ascii _ (by decide), p.lower_ascii _ (by decide)]
    decide
  rw [onWire, List.map_cons, hcase]
  rfl

/-- Names have no case. -/
theorem onWire_errorReplyWsgi (ctx : Option (Ctx p)) (protocol : Option ServerProtocol)
    (exc : Exc) :
    Reply.onWire p (errorReplyWsgi ctx protocol exc) = Reply.onWire p (errorReply ctx protocol exc) := by
  have hjson : ∀ (status : Nat) (headers : List (String × String)) (body : Bytes),
      Reply.onWire p ⟨status, ("Content-Type", "application/json") :: headers, body, []⟩
        = Reply.onWire p ⟨status, ("content-type", "application/json") :: headers, body, []⟩ := by
    intro status headers body
    rw [Reply.onWire, onWire_contentType]
    rfl
  unfold errorReplyWsgi errorReply
  cases protocol.bind grpcContentType <;> cases exc <;> first | rfl | exact hjson _ _ _

theorem errorReplyWsgi_trailers (ctx : Option (Ctx p)) (protocol : Option ServerProtocol)
    (exc : Exc) : (errorReplyWsgi ctx protocol exc).trailers = [] := by
  unfold errorReplyWsgi
  cases protocol.bind grpcContentType <;> cases exc <;> rfl

variable {app : App p ω ι τ α} {ctx : Ctx p} {At : Phase α → Heard → ω → Prop}

/-- `start_response` was called for this reply, and this list is its body. -/
def Started (At : Phase α → Heard → ω → Prop) (reply : Reply) (body : List Bytes)
    (s : Run ω ι τ α) : Prop :=
  body.length ≤ 1 ∧ body.flatten = reply.body
    ∧ At .done (Heard.nothing.start reply.status reply.headers) s.world

section Quiet

variable (h : ConnectWsgiReply.Quiet app ctx At) {streamOpen : Bool} {chunks : List Bytes}
  {error : Option Exc} {response : Option α}

include h

theorem spec_started {reply : Reply} {body : List Bytes} (hlength : body.length ≤ 1)
    (hbody : body.flatten = reply.body) :
    Spec (ConnectWsgiReply.Stage (At .done .nothing) streamOpen chunks error response)
      (startResponse app reply.status reply.headers >>= fun _ => pure body)
      (.returns fun r s => Started At reply r s) :=
  Spec.bind _ (spec_startResponse h reply.status reply.headers) fun _ =>
    Spec.pure fun _ hs => ⟨hlength, hbody, hs.world⟩

/-- **`_handle_error`** makes the reply. -/
theorem spec_handleError_wsgi (e : Exc) (hasCtx : Bool) (protocol : Option ServerProtocol) :
    Spec (ConnectWsgiReply.Stage (At .done .nothing) streamOpen chunks error response)
      (handleError app e hasCtx protocol)
      (.returns fun r s =>
        Started At (errorReplyWsgi (if hasCtx then some ctx else none) protocol e) r s) := by
  refine Spec.get_of (A := fun t => app.ctx t.world = ctx)
    (fun s hs => h.settled _ s.world hs.world) fun t ht => ?_
  rw [ht]
  generalize (if hasCtx then some ctx else none) = c
  unfold errorReplyWsgi
  cases protocol.bind grpcContentType <;> cases e <;>
    first
    | exact spec_started h (Nat.zero_le 1) rfl
    | exact spec_started h (le_refl 1) List.flatten_singleton

/-- **An exception of `__call__`** is answered. -/
theorem spec_call_error {plan : Plan α} {e : Exc} (he : e.isException = true) {φ : Phase α}
    (hbody : Spec (ConnectWsgiReply.Stage (At φ .nothing) false [] none none)
      (match plan with
        | .refused _ _ e _ => Prog.raise e
        | .unary u => handleUnary app u
        | .stream st => handleStream app st)
      ⟨fun _ _ => False, fun e' s => e' = e
        ∧ ConnectWsgiReply.Stage (At .done .nothing) streamOpen chunks error response s,
        fun _ => False⟩) :
    Spec (ConnectWsgiReply.Stage (At φ .nothing) false [] none none) (call app plan)
      (.returns fun r s => ∃ body, r = .list body ∧ Started At (errorReplyWsgi
        (if (protocolOf plan).2 then some ctx else none) (protocolOf plan).1 e) body s) := by
  refine Spec.rescue (fun e' s => e' = e
    ∧ ConnectWsgiReply.Stage (At .done .nothing) streamOpen chunks error response s)
    (hbody.weaken (fun _ hs => hs) (fun _ _ hs => hs.elim) (fun _ _ hs => hs) fun _ hs => hs)
    fun e' => Spec.assume fun he' => ?_
  subst he'
  rw [if_pos he]
  refine Spec.bind _ (spec_await_unit (h.drain .nothing)) fun _ => ?_
  refine Spec.bind _ (spec_maybeLogException h e') fun _ => ?_
  exact Spec.bind _ (spec_handleError_wsgi h e' _ _) fun body => Spec.pure fun _ hs =>
    ⟨body, rfl, hs⟩

end Quiet

/-- The error that is kept of a call. -/
def keptError : Except Exc α → Option Exc
  | .ok _ => none
  | .error e => some e

/-- **Calling the handler** of a unary method, and ending the hooks. -/
theorem spec_callUnary {outcome : Except Exc α} (h : CallsWsgi app ctx outcome At)
    (he : ∀ e, outcome = .error e → e.isException = true) :
    Spec (ConnectWsgiReply.Stage (At .before .nothing) false [] none none)
      (Prog.always
        (Prog.rescue
          (do
            startRun app
            let response ← await app.callUnary
            pure (some response))
          fun e =>
            if e.isException then do
              Prog.modify fun s => { s with error := some e }
              pure none
            else do
              Prog.modify fun s => { s with error := some interrupted }
              Prog.raise e)
        (do
          let s ← Prog.get
          let error ← endRun app s.error
          Prog.modify fun s => { s with error := error }))
      (.returns fun r s => r = outcome.toOption
        ∧ ConnectWsgiReply.Stage (At .done .nothing) false [] (keptError outcome) none s) := by
  refine Spec.always (fun r s => r = outcome.toOption
    ∧ ConnectWsgiReply.Stage (At .done .nothing) false [] (keptError outcome) none s)
    (fun _ _ => False) ?_ (fun r => Spec.assume fun hr => ?_) fun e s hs => hs.elim
  · refine Spec.rescue (fun e s => outcome = .error e
      ∧ ConnectWsgiReply.Stage (At .done .nothing) false [] none none s) ?_ fun e =>
        Spec.assume fun hout => ?_
    · refine Spec.bind _ (Spec.returns_raise (spec_startRun h.toQuiet .nothing) _ _) fun _ => ?_
      refine Spec.bind (fun m s => outcome = .ok m
        ∧ ConnectWsgiReply.Stage (At .done .nothing) false [] none none s) ?_ fun m =>
          Spec.assume fun hout => Spec.pure fun s hs => ?_
      · intro s hs
        obtain ⟨hcall, hdone⟩ := h.callUnary .nothing s.world hs.world
        show Post.at _ (app.callUnary s.world).1 { s with world := (app.callUnary s.world).2 }
        rw [hcall]
        cases outcome with
        | ok m => exact ⟨rfl, hs.move hdone⟩
        | error e => exact ⟨rfl, hs.move hdone⟩
      · subst hout
        exact ⟨rfl, hs⟩
    -- The handler raises: its exception is kept for the hooks.
    · subst hout
      rw [if_pos (he e rfl)]
      refine Spec.bind (fun _ => ConnectWsgiReply.Stage (At .done .nothing) false [] (some e) none)
        (Spec.modify fun s hs => ⟨hs.world, hs.streamOpen, hs.chunks, rfl, hs.response⟩) fun _ =>
          Spec.pure fun _ hs => ⟨rfl, hs⟩
  -- The `finally` block, which ends the hooks with that exception or none.
  · refine Spec.get_of (A := fun t => t.error = keptError outcome) (fun s hs => hs.error)
      fun t ht => ?_
    rw [ht]
    refine Spec.bind _ (spec_endRun h.toQuiet (keptError outcome)) fun error =>
      Spec.assume fun herror => ?_
    subst herror
    exact Spec.modify fun s hs => ⟨hr, hs.world, hs.streamOpen, hs.chunks, rfl, hs.response⟩

/-- The response of a message that can be written. -/
theorem spec_handleUnary_message {m : α} {body : Bytes} (h : CallsWsgi app ctx (.ok m) At)
    {u : UnaryResponse α} (hbody : unaryBody u m = .ok body) :
    Spec (ConnectWsgiReply.Stage (At .before .nothing) false [] none none) (handleUnary app u)
      (.returns fun r s => ∃ body', r = .list body' ∧ Started At (unaryReply u ctx body) body' s) := by
  refine Spec.bind _ (spec_callUnary h nofun) fun r => Spec.assume fun hr => ?_
  subst hr
  refine Spec.get_of (A := fun t => t.error = none) (fun s hs => hs.error) fun t ht => ?_
  rw [ht]
  dsimp only [Except.toOption]
  rw [h.isSome m rfl, if_neg Bool.false_ne_true]
  rw [unaryBody] at hbody
  cases hdata : u.codec.encode m with
  | error e => rw [hdata] at hbody; cases hbody
  | ok data =>
      rw [hdata] at hbody
      dsimp only at hbody
      refine Spec.ok_bind ?_
      rw [hbody]
      refine Spec.ok_bind (Spec.get_of (A := fun t => app.ctx t.world = ctx)
        (fun s hs => h.settled _ s.world hs.world) fun t ht => ?_)
      rw [ht]
      exact Spec.bind _ (spec_startResponse h.toQuiet 200 _) fun _ => Spec.pure fun s hs =>
        ⟨[body], rfl, le_refl 1, List.flatten_singleton, hs.world⟩

/-- A message that cannot be written. -/
theorem spec_handleUnary_unwritten {m : α} {e : Exc} (h : CallsWsgi app ctx (.ok m) At)
    {u : UnaryResponse α} (hbody : unaryBody u m = .error e) :
    Spec (ConnectWsgiReply.Stage (At .before .nothing) false [] none none) (handleUnary app u)
      ⟨fun _ _ => False, fun e' s => e' = e
        ∧ ConnectWsgiReply.Stage (At .done .nothing) false [] none none s, fun _ => False⟩ := by
  refine Spec.bind _ (Spec.returns_raise (spec_callUnary h nofun) _ _) fun r =>
    Spec.assume fun hr => ?_
  subst hr
  refine Spec.get_of (A := fun t => t.error = none) (fun s hs => hs.error) fun t ht => ?_
  rw [ht]
  dsimp only [Except.toOption]
  rw [h.isSome m rfl, if_neg Bool.false_ne_true]
  rw [unaryBody] at hbody
  cases hdata : u.codec.encode m with
  | error e' =>
      rw [hdata] at hbody
      obtain rfl := Except.error.inj hbody
      exact fun s hs => ⟨rfl, hs⟩
  | ok data =>
      rw [hdata] at hbody
      dsimp only at hbody
      refine Spec.ok_bind ?_
      rw [hbody]
      exact fun s hs => ⟨rfl, hs⟩

/-- A handler that raises. -/
theorem spec_handleUnary_raised {e : Exc} (he : e.isException = true)
    (h : CallsWsgi app ctx (.error e) At) {u : UnaryResponse α} :
    Spec (ConnectWsgiReply.Stage (At .before .nothing) false [] none none) (handleUnary app u)
      ⟨fun _ _ => False, fun e' s => e' = e
        ∧ ConnectWsgiReply.Stage (At .done .nothing) false [] (some e) none s, fun _ => False⟩ := by
  refine Spec.bind _ (Spec.returns_raise (spec_callUnary h fun e' he' => ?_) _ _) fun r =>
    Spec.assume fun hr => ?_
  · obtain rfl := Except.error.inj he'
    exact he
  · subst hr
    refine Spec.get_of (A := fun t => t.error = some e) (fun s hs => hs.error) fun t ht => ?_
    rw [ht]
    exact Spec.raise fun _ hs => ⟨rfl, hs⟩

/-- **The reply of the WSGI server** to a request that is answered in one piece. -/
theorem handleRequest_answers_whole {plan : Plan α} {outcome : Except Exc α} {reply : Reply}
    (h : CallsWsgi app ctx outcome At) (hwhole : Whole ctx plan outcome reply) {k : Nat}
    (hk : 0 < k) {w : ω} (hw : At (firstPhase plan) .nothing w) :
    ∃ heard reply', At .done heard (handleRequest app plan k (Run.new w)).2.world
      ∧ Answers heard (handleRequest app plan k (Run.new w)).2.chunks reply'
      ∧ Reply.onWire p reply' = Reply.onWire p reply := by
  -- However `__call__` comes to its list, the app server takes it whole.
  have hconsume : ∀ {reply' : Reply}, reply'.trailers = [] →
      Reply.onWire p reply' = Reply.onWire p reply →
      Spec (ConnectWsgiReply.Stage (At (firstPhase plan) .nothing) false [] none none)
        (call app plan) (.returns fun r s => ∃ body, r = .list body ∧ Started At reply' body s) →
      ∃ heard reply', At .done heard (handleRequest app plan k (Run.new w)).2.world
        ∧ Answers heard (handleRequest app plan k (Run.new w)).2.chunks reply'
        ∧ Reply.onWire p reply' = Reply.onWire p reply := by
    intro reply' htrailers hwire hcall
    have hrun : Spec (ConnectWsgiReply.Stage (At (firstPhase plan) .nothing) false [] none none)
        (handleRequest app plan k) (.returns fun _ s => s.chunks.flatten = reply'.body
          ∧ At .done (Heard.nothing.start reply'.status reply'.headers) s.world) := by
      refine Spec.bind _ hcall fun r => Spec.exists fun body => Spec.assume fun hr => ?_
      subst hr
      refine Spec.modify fun s hs => ⟨?_, hs.2.2⟩
      show (body.take k).flatten = _
      rw [List.take_of_length_le (by have := hs.1; omega)]
      exact hs.2.1
    obtain ⟨-, -, hchunks, hdone⟩ := Post.of_returns (hrun (Run.new w) ⟨hw, rfl, rfl, rfl, rfl⟩)
    refine ⟨_, reply', hdone, ⟨rfl, hchunks, ?_⟩, hwire⟩
    rw [htrailers]
    rfl
  cases hwhole with
  | @message u m body hbody =>
      refine hconsume rfl rfl (Spec.rescue (fun _ _ => False) (spec_handleUnary_message h hbody)
        fun e s hs => hs.elim)
  | @unwritten u m e hbody he =>
      exact hconsume (errorReplyWsgi_trailers _ _ e) (onWire_errorReplyWsgi _ _ e)
        (spec_call_error h.toQuiet he (spec_handleUnary_unwritten h hbody))
  | @raised u e he =>
      exact hconsume (errorReplyWsgi_trailers _ _ e) (onWire_errorReplyWsgi _ _ e)
        (spec_call_error h.toQuiet he (spec_handleUnary_raised he h))
  | @refused protocol hasCtx e he outcome =>
      exact hconsume (errorReplyWsgi_trailers _ _ e) (onWire_errorReplyWsgi _ _ e)
        (spec_call_error h.toQuiet he (Spec.raise fun _ hs => ⟨rfl, hs⟩))

end Wsgi

end ConnectUnaryReply
