import ConnectPy.BracketProofs
import ConnectPy.WsgiWorldProofs

/-! # How often `start_response` is called

    A WSGI application calls `start_response` once.  `__call__` has an exception handler
    that starts a response, and so has `_handle_stream` within it; each is right as long
    as no response was started before.

    The calls are counted in the state of the environment (`counting`), and every part
    of a request but `start_response` keeps the count (`Keeps`).  `_handle_stream` is then
    cut where it ends a response for the first time: up to there it starts a response
    once if it gets there, and not at all if it raises (`started_begin`).  What is left is
    the ending itself, within the same `try`: if it raises, another response is started
    on top of the first. -/

namespace ConnectStart

open Utf8 (Bytes)
open Effect
open ConnectErrors ConnectPlatform ConnectWireErrors
open ConnectAsgi (Plan StreamResponse UnaryResponse)
open ConnectWsgi
open ConnectWsgiWorld (Kept handleUnary_eq unaryRespond)

variable {p : Platform} {ω ι τ α β : Type}

/-! ## Counting -/

/-- A part of the environment, beside the count. -/
def beside (x : Prog ω Exc β) : Prog (ω × Nat) Exc β :=
  Prog.zoom Prod.fst (fun w s => (w, s.2)) x

/-- The same environment, which counts the calls of `start_response`. -/
def counting (app : App p ω ι τ α) : App p (ω × Nat) ι τ α where
  interceptors := app.interceptors
  ctx := fun w => app.ctx w.1
  onStart := fun i => beside (app.onStart i)
  onEnd := fun i token error => beside (app.onEnd i token error)
  callUnary := beside app.callUnary
  callSingle := beside app.callSingle
  openStream := beside app.openStream
  responses := {
    kind := app.responses.kind
    resume := fun thrown w =>
      ((app.responses.resume thrown w.1).1, (app.responses.resume thrown w.1).2, w.2)
    close := beside app.responses.close }
  isNone := app.isNone
  startResponse := fun status headers => do
    Prog.modify fun w => (w.1, w.2 + 1)
    beside (app.startResponse status headers)
  sendTrailers := fun trailers => beside (app.sendTrailers trailers)
  drainRequestBody := beside app.drainRequestBody
  writeError := fun e => beside (app.writeError e)

/-- The calls of `start_response` so far. -/
def starts (s : Run (ω × Nat) ι τ α) : Nat := s.world.2

/-- `start_response` was called this often. -/
def Called (n : Nat) (s : Run (ω × Nat) ι τ α) : Prop := starts s = n

/-- A bound on the calls so far. -/
theorem Called.lt {m n : Nat} {s : Run (ω × Nat) ι τ α} (h : Called n s) (hm : m < n) :
    m < starts s := by
  rw [Called] at h
  rw [h]
  exact hm

/-- However it ends, it does not call `start_response`. -/
abbrev Keeps (x : Prog (Run (ω × Nat) ι τ α) Exc β) : Prop :=
  ∀ n, Invariant (Called n) (fun _ => True) x

/-- What runs beside the counter leaves it alone. -/
theorem keeps_beside (x : Prog ω Exc β) :
    Keeps (await (beside x) : Prog (Run (ω × Nat) ι τ α) Exc β) :=
  fun _ => Invariant.of_state (fun _ h => h) fun _ _ => trivial

/-- The environment but `start_response` keeps the count. -/
theorem kept_counting (app : App p ω ι τ α) (n : Nat) :
    Kept (fun w : ω × Nat => w.2 = n) (counting app) where
  onStart := fun _ _ h => h
  onEnd := fun _ _ _ _ h => h
  callUnary := fun _ h => h
  callSingle := fun _ h => h
  openStream := fun _ h => h
  resume := fun _ _ h => h
  close := fun _ h => h
  sendTrailers := fun _ _ h => h
  writeError := fun _ _ h => h

section Keeps

variable (app : App p ω ι τ α) (st : StreamResponse α)

/-- Starting the interceptors does not start a response. -/
theorem keeps_startRun : Keeps (startRun (counting app)) :=
  fun n => ConnectWsgiWorld.keeps_startRun (kept_counting app n).onStart

/-- What `end` raises is no exception. -/
theorem spec_endRun (n : Nat) (error : Option Exc) :
    Spec (Called n) (endRun (counting app) error)
      ⟨fun _ => Called n, fun e s => e.isException = false ∧ Called n s, fun _ => True⟩ :=
  ConnectWsgiWorld.spec_endRun (kept_counting app n) error

/-- Nor does ending them. -/
theorem keeps_endRun (error : Option Exc) : Keeps (endRun (counting app) error) :=
  fun n => ConnectWsgiWorld.keeps_endRun (kept_counting app n) error

/-- Nor does waiting for the first message. -/
theorem keeps_firstResponse : Keeps (firstResponse (counting app) st) :=
  fun n => ConnectWsgiWorld.keeps_firstResponse (kept_counting app n) st

/-- Nor does the end of the response. -/
theorem keeps_endResponse (error : Option Exc) : Keeps (endResponse (counting app) st error) :=
  fun n => ConnectWsgiWorld.keeps_endResponse (kept_counting app n) st error

/-- Nor does writing an exception to the error stream. -/
theorem keeps_maybeLogException (e : Exc) :
    Keeps (maybeLogException (counting app) e : Prog (Run (ω × Nat) ι τ α) Exc Unit) :=
  fun n => ConnectWsgiWorld.keeps_maybeLogException (kept_counting app n) e

/-- Nor does calling the handler. -/
theorem keeps_openResponses : Keeps (openResponses (counting app) st) :=
  fun n => ConnectWsgiWorld.keeps_openResponses (kept_counting app n) st

end Keeps

/-! ## Up to the end of a response -/

/-- What `_handle_stream` comes to before it ends a response: a first message, or the
    error to end it with, if any. -/
inductive Begun (α : Type) where
  | message (first : α)
  | ending (error : Option Exc)

/-- The `try` of `_handle_stream`, up to `_end_response`. -/
def beginBody (app : App p ω ι τ α) (st : StreamResponse α) :
    Prog (Run ω ι τ α) Exc (Begun α) := do
  startRun app
  Prog.ofExcept st.requestCompression
  openResponses app st
  let first ← firstResponse app st
  sendHeaders app st
  match first with
  | none => do
      let error ← endRun app none
      pure (.ending error)
  | some first => pure (.message first)

/-- Its `except` clauses, up to `_end_response`. -/
def recover (app : App p ω ι τ α) (st : StreamResponse α) (e : Exc) :
    Prog (Run ω ι τ α) Exc (Begun α) :=
  if e.isException then do
    let error ← endRun app (some e)
    match error with
    | none => Prog.raise assertionError
    | some error => do
        await app.drainRequestBody
        maybeLogException app error
        sendHeaders app st
        pure (.ending (some error))
  else do
    let _ ← endRun app (some interrupted)
    Prog.raise e

/-- `_handle_stream`, up to where it ends a response for the first time. -/
def begin (app : App p ω ι τ α) (st : StreamResponse α) : Prog (Run ω ι τ α) Exc (Begun α) :=
  Prog.rescue (beginBody app st) (recover app st)

/-- What is left. -/
def finish (app : App p ω ι τ α) (st : StreamResponse α) :
    Begun α → Prog (Run ω ι τ α) Exc (Response α)
  | .message first => pure (.generator st first)
  | .ending error => do
      let chunk ← endResponse app st error
      pure (.list [chunk])

/-- A stream begins, and then its response is finished. -/
theorem streamBody_eq (app : App p ω ι τ α) (st : StreamResponse α) :
    streamBody app st = beginBody app st >>= finish app st := by
  simp only [streamBody, beginBody, bind_assoc]
  congr 1; funext _
  congr 1; funext _
  congr 1; funext _
  congr 1; funext first
  congr 1; funext _
  cases first with
  | none =>
      dsimp only
      rw [bind_assoc]
      rfl
  | some first => rfl

/-- **The end is within the `try`.** -/
theorem handleStream_eq (app : App p ω ι τ α) (st : StreamResponse α) :
    handleStream app st = Prog.rescue (beginBody app st >>= finish app st)
      fun e => recover app st e >>= finish app st := by
  rw [handleStream, streamBody_eq]
  congr 1
  funext e
  rw [recover]
  by_cases he : e.isException = true
  · rw [if_pos he, if_pos he, bind_assoc]
    congr 1
    funext error
    cases error with
    | none => rfl
    | some error => simp only [bind_assoc]; rfl
  · rw [if_neg he, if_neg he, bind_assoc]
    rfl

/-- The handler of `__call__`. -/
def answer (app : App p ω ι τ α) (plan : Plan α) (e : Exc) :
    Prog (Run ω ι τ α) Exc (Response α) :=
  if e.isException then do
    await app.drainRequestBody
    maybeLogException app e
    let body ← handleError app e (protocolOf plan).2 (protocolOf plan).1
    pure (.list body)
  else Prog.raise e

/-! ## Where a response is started -/

/-- After a program that starts a response when it returns, and none when it raises an
    exception. -/
def started (n : Nat) : Post (Run (ω × Nat) ι τ α) Exc β :=
  ⟨fun _ => Called (n + 1), fun e s => e.isException = true → Called n s, fun _ => True⟩

/-- `start_response` does not raise. -/
def NeverRaises (app : App p ω ι τ α) : Prop :=
  ∀ status headers w e, (app.startResponse status headers w).1 ≠ .raise e

/-- What comes before a start does not count. -/
theorem started_bind {n : Nat} {γ : Type} {x : Prog (Run (ω × Nat) ι τ α) Exc β}
    {f : β → Prog (Run (ω × Nat) ι τ α) Exc γ} (hx : Keeps x)
    (hf : ∀ b, Spec (Called n) (f b) (started n)) : Spec (Called n) (x >>= f) (started n) :=
  Spec.bind (fun _ => Called n) ((hx n).weaken (fun _ h => h) (fun _ _ h => h)
    (fun _ _ h _ => h) fun _ h => h) hf

/-- Nor does anything that is computed. -/
theorem keeps_ofExcept (r : Except Exc β) :
    Keeps (Prog.ofExcept r : Prog (Run (ω × Nat) ι τ α) Exc β) :=
  fun _ => Invariant.ofExcept r

section Started

variable {app : App p ω ι τ α} (hstart : NeverRaises app) (n : Nat)

include hstart

/-- `start_response` is called once more. -/
theorem started_startResponse (status : Nat) (headers : List (String × String)) :
    Spec (Called n) (startResponse (counting app) status headers) (started n) := by
  rw [startResponse]
  intro s hs
  have hcount : Called (n + 1) (await ((counting app).startResponse status headers) s).2 :=
    congrArg (· + 1) hs
  cases ho : (await ((counting app).startResponse status headers) s).1 with
  | ret u => exact hcount
  | raise e => exact (hstart status headers s.world.1 e ho).elim
  | stuck => exact trivial

/-- The headers of a stream start it. -/
theorem started_sendHeaders (st : StreamResponse α) :
    Spec (Called n) (sendHeaders (counting app) st) (started n) :=
  Spec.get fun _ => (started_startResponse hstart n _ _).pre fun _ h => h.2

/-- A response to an error starts once. -/
theorem started_handleError (e : Exc) (hasCtx : Bool)
    (protocol : Option ConnectTrailersWire.ServerProtocol) :
    Spec (Called n) (handleError (counting app) e hasCtx protocol) (started n) := by
  have hreply : ∀ (status : Nat) (headers : List (String × String)) (body : List Bytes)
      (s : Run (ω × Nat) ι τ α), Spec (fun t => t = s ∧ Called n t)
        (startResponse (counting app) status headers >>= fun _ => pure body) (started n) :=
    fun status headers body _ => (Spec.bind _ (started_startResponse hstart n status headers)
      fun _ => Spec.pure fun _ h => h).pre fun _ h => h.2
  refine Spec.get fun s => ?_
  dsimp only
  split
  · exact hreply _ _ _ s
  · exact hreply _ _ _ s
  · exact hreply _ _ _ s

/-- A stream has started once it returns its body, and has not where it raises before. -/
theorem started_beginBody (st : StreamResponse α) :
    Spec (Called n) (beginBody (counting app) st) (started n) := by
  refine started_bind (keeps_startRun app) fun _ => ?_
  refine started_bind (keeps_ofExcept _) fun _ => ?_
  refine started_bind (keeps_openResponses app st) fun _ => ?_
  refine started_bind (keeps_firstResponse app st) fun first => ?_
  refine Spec.bind (fun _ => Called (n + 1)) (started_sendHeaders hstart n st) fun _ => ?_
  cases first with
  | some first => exact Spec.pure fun _ h => h
  | none =>
      -- Once a response is started, only what is no exception is raised.
      refine Spec.bind (fun _ => Called (n + 1)) ((spec_endRun app (n + 1) none).weaken
        (fun _ h => h) (fun _ _ h => h) (fun _ _ h he => ?_) fun _ h => h)
        fun _ => Spec.pure fun _ h => h
      rw [h.1] at he
      exact nomatch he

/-- An exception is answered if nothing has started. -/
theorem spec_recover (st : StreamResponse α) (e : Exc) :
    Spec (fun s => e.isException = true → Called n s) (recover (counting app) st e)
      (started n) := by
  rw [recover]
  by_cases he : e.isException = true
  · rw [if_pos he]
    refine Spec.pre ?_ fun _ h => h he
    refine started_bind (keeps_endRun app _) fun error => ?_
    cases error with
    | none => exact Spec.raise fun _ h _ => h
    | some error =>
        refine started_bind (keeps_beside _) fun _ => ?_
        refine started_bind (keeps_maybeLogException app error) fun _ => ?_
        exact Spec.bind _ (started_sendHeaders hstart n st) fun _ => Spec.pure fun _ h => h
  · rw [if_neg he]
    intro s _
    have hend : Spec (Called (starts s)) (endRun (counting app) (some interrupted) >>= fun _ =>
        Prog.raise e) (started n : Post (Run (ω × Nat) ι τ α) Exc (Begun α)) := by
      refine Spec.bind (fun _ _ => True) ((spec_endRun app (starts s) (some interrupted)).weaken
        (fun _ h => h) (fun _ _ _ => trivial) (fun e' _ h he' => ?_) fun _ h => h)
        fun _ => Spec.raise fun _ _ he' => absurd he' he
      rw [h.1] at he'
      exact nomatch he'
    exact hend s rfl

/-- A unary response starts once. -/
theorem started_unaryRespond (u : UnaryResponse α) (response : Option α) :
    Spec (Called n) (unaryRespond (counting app) u response) (started n) := by
  have hraise : ∀ e, Spec (Called n) (Prog.raise e) (started n : Post (Run (ω × Nat) ι τ α) Exc
      (Response α)) := fun _ => Spec.raise fun _ h _ => h
  refine Spec.get fun s => Spec.pre ?_ fun _ h => h.2
  cases s.error with
  | some e => exact hraise e
  | none =>
      cases response with
      | none => exact hraise _
      | some response =>
          dsimp only
          split
          · exact hraise _
          · refine started_bind (keeps_ofExcept _) fun data => ?_
            refine started_bind (keeps_ofExcept _) fun resBytes => ?_
            refine Spec.get fun _ => Spec.pre ?_ fun _ h => h.2
            exact Spec.bind _ (started_startResponse hstart n _ _) fun _ => Spec.pure fun _ h => h

/-- And it is the only start of the call. -/
theorem started_handleUnary (u : UnaryResponse α) :
    Spec (Called n) (handleUnary (counting app) u) (started n) := by
  rw [handleUnary_eq]
  refine started_bind (fun n => ?_) fun response => started_unaryRespond hstart n u response
  have hfinally := ConnectWsgiWorld.keeps_unaryFinally (kept_counting app n)
  exact Spec.always (fun _ => Called n) (fun _ => Called n)
    (ConnectWsgiWorld.keeps_unaryTry (kept_counting app n)) (fun _ => hfinally) fun _ => hfinally

/-- The handler of `__call__` starts a response. -/
theorem starts_answer {plan : Plan α} {e : Exc} {s : Run (ω × Nat) ι τ α} {response : Response α}
    (hret : (answer (counting app) plan e s).1 = .ret response) :
    e.isException = true ∧ starts (answer (counting app) plan e s).2 = starts s + 1 := by
  rw [answer] at hret ⊢
  by_cases he : e.isException = true
  · rw [if_pos he] at hret ⊢
    have hspec : Spec (Called (starts s)) (await (counting app).drainRequestBody >>= fun _ =>
        maybeLogException (counting app) e >>= fun _ =>
          handleError (counting app) e (protocolOf plan).2 (protocolOf plan).1 >>= fun body =>
            (pure (.list body) : Prog (Run (ω × Nat) ι τ α) Exc (Response α)))
        (started (starts s)) :=
      started_bind (keeps_beside _) fun _ => started_bind (keeps_maybeLogException app e)
        fun _ => Spec.bind _ (started_handleError hstart _ e _ _) fun _ => Spec.pure fun _ h => h
    have h := hspec s rfl
    rw [hret] at h
    exact ⟨he, h⟩
  · rw [if_neg he] at hret
    exact nomatch hret

end Started

/-! ## The whole of `__call__` -/

/-- The body of `__call__`. -/
def serve (app : App p ω ι τ α) : Plan α → Prog (Run ω ι τ α) Exc (Response α)
  | .refused _ _ e _ => Prog.raise e
  | .unary u => handleUnary app u
  | .stream st => handleStream app st

/-- The application serves a request, or answers the exception. -/
theorem call_eq (app : App p ω ι τ α) (plan : Plan α) :
    call app plan = Prog.rescue (serve app plan) (answer app plan) := by
  cases plan <;> rfl

/-- A response was started twice when the program returns, and once when it raises an
    exception. -/
def restarted : Post (Run (ω × Nat) ι τ α) Exc β :=
  ⟨fun _ s => 1 < starts s, fun e s => e.isException = true → 0 < starts s, fun _ => True⟩

section Call

variable {app : App p ω ι τ α} (hstart : NeverRaises app) {plan : Plan α}
  {s : Run (ω × Nat) ι τ α} {response : Response α}
  (hret : (call (counting app) plan s).1 = .ret response)

include hstart hret

/-- Served well, a request starts one response. -/
theorem starts_call
    (h : (started 0).at (serve (counting app) plan s).1 (serve (counting app) plan s).2) :
    starts (call (counting app) plan s).2 = 1 := by
  rw [call_eq] at hret ⊢
  cases hs : serve (counting app) plan s with
  | mk o s' =>
      rw [hs] at h
      cases o with
      | ret r =>
          rw [Prog.rescue_ret hs]
          exact h
      | raise e =>
          rw [Prog.rescue_raise hs] at hret ⊢
          obtain ⟨he, hcount⟩ := starts_answer hstart hret
          rw [hcount, h he]
      | stuck =>
          rw [Prog.rescue_stuck hs] at hret
          exact nomatch hret

/-- An exception after the start leads to another start. -/
theorem starts_call_again
    (h : restarted.at (serve (counting app) plan s).1 (serve (counting app) plan s).2) :
    1 < starts (call (counting app) plan s).2 := by
  rw [call_eq] at hret ⊢
  cases hs : serve (counting app) plan s with
  | mk o s' =>
      rw [hs] at h
      cases o with
      | ret r =>
          rw [Prog.rescue_ret hs]
          exact h
      | raise e =>
          rw [Prog.rescue_raise hs] at hret ⊢
          obtain ⟨he, hcount⟩ := starts_answer hstart hret
          rw [hcount]
          exact Nat.succ_lt_succ (h he)
      | stuck =>
          rw [Prog.rescue_stuck hs] at hret
          exact nomatch hret

end Call

/-- Finishing a stream does not start it again. -/
theorem keeps_finish (app : App p ω ι τ α) (st : StreamResponse α) (begun : Begun α) :
    Keeps (finish (counting app) st begun) := by
  intro n
  cases begun with
  | message first => exact Invariant.pure _
  | ending error =>
      exact Invariant.bind (keeps_endResponse app st error n) fun _ => Invariant.pure _

section Stream

variable {app : App p ω ι τ α} (hstart : NeverRaises app) {st : StreamResponse α}
  {s : Run (ω × Nat) ι τ α} (hs : Called 0 s)

include hstart

/-- **Up to the end** a response is started, once. -/
theorem started_begin (n : Nat) :
    Spec (Called n) (begin (counting app) st) (started n) :=
  Spec.rescue _ (started_beginBody hstart n st) (spec_recover hstart n st)

include hs

/-- If the end does not raise, that is all. -/
theorem started_handleStream
    (hend : ∀ error s' e, begin (counting app) st s = (.ret (.ending error), s') →
      (endResponse (counting app) st error s').1 ≠ .raise e) :
    (started 0).at (handleStream (counting app) st s).1 (handleStream (counting app) st s).2 := by
  -- Neither end of the body raises, so the clauses are not needed.
  have hfinish : ∀ begun s', begin (counting app) st s = (.ret begun, s') →
      ∀ e, (finish (counting app) st begun s').1 ≠ .raise e := by
    intro begun s' hb e he
    cases begun with
    | message first => exact nomatch he
    | ending error =>
        cases ho : endResponse (counting app) st error s' with
        | mk o t =>
            cases o with
            | ret chunk =>
                rw [finish, Prog.bind_ret ho] at he
                exact nomatch he
            | raise e' => exact hend error s' e' hb (by rw [ho])
            | stuck =>
                rw [finish, Prog.bind_stuck ho] at he
                exact nomatch he
  have hrun : handleStream (counting app) st s
      = (begin (counting app) st >>= finish (counting app) st) s := by
    rw [handleStream_eq]
    exact Prog.rescue_bind fun begun s' hb => hfinish begun s' (Prog.rescue_ret hb)
  have hbegin : (started 0).at (begin (counting app) st s).1 (begin (counting app) st s).2 :=
    started_begin hstart 0 s hs
  rw [hrun]
  cases hb : begin (counting app) st s with
  | mk o s' =>
      rw [hb] at hbegin
      cases o with
      | ret begun =>
          rw [Prog.bind_ret hb]
          -- The response has started where the body was returned, and finishing it changes that
          -- no more.
          have hkeep := keeps_finish app st begun 1 s' hbegin
          cases ho : (finish (counting app) st begun s').1 with
          | ret response =>
              rw [ho] at hkeep
              exact hkeep
          | raise e => exact absurd ho (hfinish begun s' hb e)
          | stuck => exact trivial
      | raise e =>
          rw [Prog.bind_raise hb]
          exact hbegin
      | stuck =>
          rw [Prog.bind_stuck hb]
          exact trivial

/-- If it raises, another one is started, here or by the handler of `__call__`. -/
theorem restarted_handleStream {error : Option Exc} {e : Exc} {s' s'' : Run (ω × Nat) ι τ α}
    (hb : begin (counting app) st s = (.ret (.ending error), s'))
    (he : endResponse (counting app) st error s' = (.raise e, s'')) :
    restarted.at (handleStream (counting app) st s).1 (handleStream (counting app) st s).2 := by
  have hbegin : (started 0).at (begin (counting app) st s).1 (begin (counting app) st s).2 :=
    started_begin hstart 0 s hs
  rw [hb] at hbegin
  have hcount : Called 1 s'' := by
    have h := keeps_endResponse app st error 1 s' hbegin
    rw [he] at h
    exact h
  have hfinish : finish (counting app) st (.ending error) s' = (.raise e, s'') := Prog.bind_raise he
  rw [handleStream_eq]
  by_cases hx : ∃ begun t, beginBody (counting app) st s = (.ret begun, t)
  · -- The `try` is still around the end, and its handler starts a response of its own.
    obtain ⟨begun, t, hx⟩ := hx
    obtain ⟨rfl, rfl⟩ : begun = .ending error ∧ t = s' := by
      have h : ((.ret begun, t) : Outcome Exc (Begun α) × _) = (.ret (.ending error), s') :=
        (Prog.rescue_ret hx).symm.trans hb
      simpa using h
    rw [Prog.rescue_bind_raise hx hfinish]
    have hspec : Spec (fun s => e.isException = true → Called 1 s)
        (recover (counting app) st e >>= finish (counting app) st) restarted :=
      Spec.bind (fun _ => Called 2) ((spec_recover hstart 1 st e).weaken (fun _ h => h)
        (fun _ _ h => h) (fun _ _ h hexc => (h hexc).lt Nat.one_pos) fun _ h => h)
        fun begun => (keeps_finish app st begun 2).weaken (fun _ h => h)
          (fun _ _ h => Called.lt h Nat.one_lt_two) (fun _ _ h _ => Called.lt h Nat.two_pos)
          fun _ h => h
    exact hspec s'' fun _ => hcount
  · -- The handler was already there.
    have hrun := Prog.rescue_bind (h := recover (counting app) st) (f := finish (counting app) st)
      fun begun t h => absurd ⟨begun, t, h⟩ hx
    rw [hrun, show (Prog.rescue (beginBody (counting app) st) (recover (counting app) st)
      >>= finish (counting app) st) s = _ from (Prog.bind_ret hb).trans hfinish]
    exact fun _ => hcount.lt Nat.one_pos

end Stream

/-- Where the response is ended for the first time, that does not raise. -/
def EndsCleanly (app : App p ω ι τ α) (w : ω) : Plan α → Prop
  | .refused _ _ _ _ => True
  | .unary _ => True
  | .stream st => ∀ error s e,
      begin (counting app) st (Run.new (w, 0)) = (.ret (.ending error), s) →
      (endResponse (counting app) st error s).1 ≠ .raise e

/-- **WHEN `start_response` IS CALLED ONCE.**  A request whose `__call__` returns has
    called it once if the end of the response did not raise where it was first tried,
    and only then. -/
theorem started_once_iff {app : App p ω ι τ α} (hstart : NeverRaises app) (plan : Plan α)
    (w : ω) {response : Response α}
    (hret : (call (counting app) plan (Run.new (w, 0))).1 = .ret response) :
    starts (call (counting app) plan (Run.new (w, 0))).2 = 1 ↔ EndsCleanly app w plan := by
  cases plan with
  | refused protocol hasCtx e isException =>
      refine iff_of_true (starts_call hstart hret ?_) trivial
      exact fun _ => rfl
  | unary u =>
      refine iff_of_true (starts_call hstart hret ?_) trivial
      exact started_handleUnary hstart 0 u _ rfl
  | stream st =>
      constructor
      · intro hone error s e hb he
        have hagain := starts_call_again hstart hret
          (restarted_handleStream hstart rfl hb (Prod.ext he rfl))
        rw [hone] at hagain
        exact absurd hagain (lt_irrefl 1)
      · intro hend
        exact starts_call hstart hret (started_handleStream hstart rfl hend)

/-- A handler without messages, and an app server that cannot send trailers to a client
    which has gone, or can. -/
def emptyStream (gone : Bool) : App Platform.plain Unit Unit Unit Bytes where
  interceptors := []
  ctx := fun _ => ⟨.empty _, .empty _⟩
  onStart := fun _ => pure ()
  onEnd := fun _ _ _ => pure ()
  callUnary := pure [7]
  callSingle := pure [7]
  openStream := pure ()
  responses := {
    kind := .generator
    resume := fun _ w => (.returned, w)
    close := pure () }
  isNone := fun _ => false
  startResponse := fun _ _ => pure ()
  sendTrailers := fun _ =>
    if gone then Prog.raise (.exception (.other "BrokenPipeError") "") else pure ()
  drainRequestBody := pure ()
  writeError := fun _ => pure ()

/-- A gRPC method with a stream of responses. -/
def grpcStream : Plan Bytes := .stream ⟨.grpc, Codec.raw, .identity, .serverStream, .ok ()⟩

/-- The example raises nowhere but where its trailers are sent. -/
theorem emptyStream_neverRaises (gone : Bool) : NeverRaises (emptyStream gone) :=
  fun _ _ _ _ h => nomatch (h : Outcome.ret () = Outcome.raise _)

/-- With a server that takes its trailers, it starts one response. -/
theorem started_once_emptyStream : EndsCleanly (emptyStream false) () grpcStream := by
  have hret : (call (counting (emptyStream false)) grpcStream (Run.new ((), 0))).1
      = .ret (.list [[]]) := rfl
  exact (started_once_iff (emptyStream_neverRaises false) grpcStream () hret).mp rfl

/-- With the client gone a response is started when the stream is over, again by the
    handler of `_handle_stream`, and again by the one of `__call__`. -/
theorem started_three_times :
    NeverRaises (emptyStream true)
    ∧ (call (counting (emptyStream true)) grpcStream (Run.new ((), 0))).1 = .ret (.list [])
    ∧ starts (call (counting (emptyStream true)) grpcStream (Run.new ((), 0))).2 = 3 :=
  ⟨emptyStream_neverRaises true, rfl, rfl⟩

end ConnectStart
