import ConnectPy.BracketProofs
import ConnectPy.WsgiWorldProofs

/-! # Hoisted interceptors — against the nest

    Metadata interceptors at the front of the list are started before the request is
    read, in a loop, and ended after the handler, in another; the interceptors behind
    them are nested around the handler.  `applyInterceptors` nests all of them.

    Every call is kept in a trace with its arguments, so that two executions that
    leave the same world made the same calls in the same order.  The nest of the
    leading interceptors is `Brackets.nest`; both servers' loops, on their own stacks,
    enter and leave what `Brackets.run` does (`asgiServe_enters`, `wsgiServe_enters`), and
    the library says that it agrees with the nest. -/

namespace ConnectNest

open Effect
open ConnectErrors ConnectPlatform
open ConnectAsgi (UnaryResponse requestCancelled)

variable {p : Platform} {ω ι μ τ ρ χ α β κ : Type}

/-! ## Calls -/

/-- A call of an interceptor or of the handler, with its arguments. -/
inductive Call (ι μ τ ρ χ : Type) where
  | onStart (i : ι) (ctx : χ)
  | onEnd (i : ι) (token : τ) (ctx : χ) (error : Option Exc)
  | intercept (m : μ) (request : ρ) (ctx : χ)
  | handler (request : ρ) (ctx : χ)

/-- The world, and the calls made so far. -/
structure Traced (κ ω : Type) where
  calls : List κ
  world : ω

/-- Keep a call. -/
def keepCall (call : κ) (s : Traced κ ω) : Traced κ ω := { s with calls := s.calls ++ [call] }

/-- Make a call. -/
def traced (call : κ) (x : Prog ω Exc β) : Prog (Traced κ ω) Exc β := do
  Prog.modify (keepCall call)
  Prog.zoom Traced.world (fun w s => { s with world := w }) x

/-- The world of a unary request. -/
abbrev World (ω ι μ τ ρ χ : Type) : Type := Traced (Call ι μ τ ρ χ) ω

/-- What the interceptors and the handler of a unary method do.  A message interceptor
    may call what is next as often as it likes, with any request and context. -/
structure Chain (ω ι μ τ ρ χ α : Type) where
  onStart   : ι → χ → Prog ω Exc τ
  onEnd     : ι → τ → χ → Option Exc → Prog ω Exc Unit
  intercept : μ → (ρ → χ → Prog (World ω ι μ τ ρ χ) Exc α) →
    ρ → χ → Prog (World ω ι μ τ ρ χ) Exc α
  handler   : ρ → χ → Prog ω Exc α

namespace Chain

variable (chain : Chain ω ι μ τ ρ χ α)

def callStart (ctx : χ) (i : ι) : Prog (World ω ι μ τ ρ χ) Exc τ :=
  traced (.onStart i ctx) (chain.onStart i ctx)

def callEnd (ctx : χ) (i : ι) (token : τ) (error : Option Exc) :
    Prog (World ω ι μ τ ρ χ) Exc Unit :=
  traced (.onEnd i token ctx error) (chain.onEnd i token ctx error)

def callHandler (request : ρ) (ctx : χ) : Prog (World ω ι μ τ ρ χ) Exc α :=
  traced (.handler request ctx) (chain.handler request ctx)

def callIntercept (m : μ) (callNext : ρ → χ → Prog (World ω ι μ τ ρ χ) Exc α) (request : ρ)
    (ctx : χ) : Prog (World ω ι μ τ ρ χ) Exc α := do
  Prog.modify (keepCall (.intercept m request ctx))
  chain.intercept m callNext request ctx

end Chain

/-! ## Nesting -/

/-- The kinds of interceptors, as far as a unary method goes. -/
inductive Interceptor (ι μ : Type) where
  | metadata (i : ι)
  | unary (m : μ)
  | other

/-- The `except` clauses of an invoker: what `on_end` is told about an exception. -/
def seenAsync (e : Exc) : Option Exc :=
  if e.isException then some e
  else if e.isCancellation then some requestCancelled
  else none

def seenSync (e : Exc) : Option Exc := if e.isException then some e else none

/-- `intercept_unary` of the invokers, which differ in their `except` clauses. -/
def invoker (seen : Exc → Option Exc) (chain : Chain ω ι μ τ ρ χ α) (i : ι)
    (callNext : ρ → χ → Prog (World ω ι μ τ ρ χ) Exc α) (request : ρ) (ctx : χ) :
    Prog (World ω ι μ τ ρ χ) Exc α := do
  let token ← chain.callStart ctx i
  let outcome ← Prog.attempt (callNext request ctx)
  let error := match outcome with
    | .ok _ => none
    | .error e => seen e
  chain.callEnd ctx i token error
  Prog.ofExcept outcome

/-- One round of the loop of `_apply_interceptors`, on a resolved interceptor. -/
def wrap (seen : Exc → Option Exc) (chain : Chain ω ι μ τ ρ χ α) (interceptor : Interceptor ι μ)
    (func : ρ → χ → Prog (World ω ι μ τ ρ χ) Exc α) :
    ρ → χ → Prog (World ω ι μ τ ρ χ) Exc α :=
  match interceptor with
  | .metadata i => invoker seen chain i func
  | .unary m => chain.callIntercept m func
  | .other => func

/-- `_apply_interceptors`, on the function of a unary endpoint. -/
def applyInterceptors (seen : Exc → Option Exc) (chain : Chain ω ι μ τ ρ χ α)
    (interceptors : List (Interceptor ι μ)) : ρ → χ → Prog (World ω ι μ τ ρ χ) Exc α :=
  interceptors.foldr (wrap seen chain) chain.callHandler

/-- `split_leading_metadata_interceptors`. -/
def splitLeading : List (Interceptor ι μ) → List ι × List (Interceptor ι μ)
  | .metadata i :: rest => (i :: (splitLeading rest).1, (splitLeading rest).2)
  | rest => ([], rest)

/-- The leading interceptors and the others are all of them. -/
theorem splitLeading_eq (interceptors : List (Interceptor ι μ)) :
    (splitLeading interceptors).1.map .metadata ++ (splitLeading interceptors).2
      = interceptors := by
  induction interceptors with
  | nil => rfl
  | cons interceptor rest ih =>
      cases interceptor with
      | metadata i => exact congrArg (Interceptor.metadata i :: ·) ih
      | unary m => rfl
      | other => rfl

/-- The invokers as brackets. -/
def brackets (seen : Exc → Option Exc) (chain : Chain ω ι μ τ ρ χ α) (ctx : χ) :
    Brackets (World ω ι μ τ ρ χ) Exc ι τ where
  enter := chain.callStart ctx
  leave := chain.callEnd ctx
  seen := seen

/-- A metadata interceptor is a bracket around the call. -/
theorem invoker_eq (seen : Exc → Option Exc) (chain : Chain ω ι μ τ ρ χ α) (i : ι)
    (callNext : ρ → χ → Prog (World ω ι μ τ ρ χ) Exc α) (request : ρ) (ctx : χ) :
    invoker seen chain i callNext request ctx
      = (brackets seen chain ctx).around i (callNext request ctx) := by
  rw [invoker, Brackets.around]
  congr 1
  funext token
  congr 1
  funext outcome
  cases outcome <;> rfl

/-- **The nest of all** is the nest of the leading ones around the others. -/
theorem applyInterceptors_eq_nest (seen : Exc → Option Exc) (chain : Chain ω ι μ τ ρ χ α)
    (interceptors : List (Interceptor ι μ)) (request : ρ) (ctx : χ) :
    applyInterceptors seen chain interceptors request ctx
      = (brackets seen chain ctx).nest (splitLeading interceptors).1
        (applyInterceptors seen chain (splitLeading interceptors).2 request ctx) := by
  have hnest : ∀ is : List ι, ∀ rest : List (Interceptor ι μ),
      applyInterceptors seen chain (is.map .metadata ++ rest) request ctx
        = (brackets seen chain ctx).nest is
          (applyInterceptors seen chain rest request ctx) := by
    intro is rest
    induction is with
    | nil => rfl
    | cons i is ih =>
        show invoker seen chain i
            (applyInterceptors seen chain (is.map .metadata ++ rest)) request ctx = _
        rw [invoker_eq, ih]
        rfl
  rw [← hnest, splitLeading_eq]

/-! ## Exceptions only -/

/-- Whatever is raised is an `Exception`. -/
def Exceptional {σ : Type} (x : Prog σ Exc β) : Prop := Raises (fun e => e.isException = true) x

/-- Interceptors and a handler that raise exceptions, if anything. -/
structure Chain.Tame (chain : Chain ω ι μ τ ρ χ α) : Prop where
  onStart   : ∀ i ctx, Exceptional (chain.onStart i ctx)
  onEnd     : ∀ i token ctx error, Exceptional (chain.onEnd i token ctx error)
  handler   : ∀ request ctx, Exceptional (chain.handler request ctx)
  intercept : ∀ m callNext, (∀ request ctx, Exceptional (callNext request ctx)) →
    ∀ request ctx, Exceptional (chain.intercept m callNext request ctx)

/-- Tracing a call adds no way for it to end. -/
theorem exceptional_traced {x : Prog ω Exc β} (h : Exceptional x) (call : κ) :
    Exceptional (traced call x) := fun s e he => h s.world e he

/-- Interceptors that raise exceptions only make nothing else of a call. -/
theorem exceptional_applyInterceptors (seen : Exc → Option Exc) {chain : Chain ω ι μ τ ρ χ α}
    (h : chain.Tame) (interceptors : List (Interceptor ι μ)) (request : ρ) (ctx : χ) :
    Exceptional (applyInterceptors seen chain interceptors request ctx) := by
  induction interceptors generalizing request ctx with
  | nil => exact exceptional_traced (h.handler request ctx) _
  | cons interceptor rest ih =>
      cases interceptor with
      | other => exact ih request ctx
      | unary m => exact fun s e he => h.intercept m _ ih request ctx _ e he
      | metadata i =>
          show Exceptional (invoker seen chain i (applyInterceptors seen chain rest) request ctx)
          rw [invoker_eq]
          exact Brackets.raises_around _ (exceptional_traced (h.onStart i ctx) _)
            (fun token error => exceptional_traced (h.onEnd i token ctx error) _) (ih request ctx)

/-! ## The error that a run keeps -/

/-- The error after an outcome. -/
def kept : Except Exc α → Option Exc
  | .ok _ => none
  | .error e => some e

/-- What `end` returns when the unwinding ends so. -/
def report : Outcome Exc α → Outcome Exc (Option Exc)
  | .ret _ => .ret none
  | .raise e => .ret (some e)
  | .stuck => .stuck

/-- An outcome without cancellations. -/
def Plain (o : Except Exc α) : Prop := ∀ e, o = .error e → e.isException = true

/-- A value is plain. -/
theorem plain_ok (a : α) : Plain (.ok a) := nofun

/-- And so is an `Exception`. -/
theorem plain_error {e : Exc} (h : e.isException = true) : Plain (.error e : Except Exc α) := by
  rintro e' ⟨⟩
  exact h

/-- A request whose run left an error or none, and a response or none, comes to a value
    or an exception, in this world. -/
inductive Ends {S W : Type} (error : S → Option Exc) (world : S → W) :
    Outcome Exc (Option α) × S → Outcome Exc α × W → Prop where
  | value {s : S} {a : α} (h : error s = none) :
      Ends error world (.ret (some a), s) (.ret a, world s)
  | error {s : S} {r : Option α} {e : Exc} (h : error s = some e) :
      Ends error world (.ret r, s) (.raise e, world s)
  | stuck {s : S} : Ends error world (.stuck, s) (.stuck, world s)

/-! ## Loops on a stack -/

section Loops

variable {S W : Type} {b : Brackets W Exc ι τ} {world : S → W} {error : S → Option Exc}
  {stack : S → List (ι × τ)}

/-- What is left is told about an exception. -/
def TellsExceptions (b : Brackets W Exc ι τ) : Prop :=
  ∀ e, e.isException = true → b.seen e = some e

/-- Of a plain outcome an interceptor is told as it is. -/
theorem told_eq {o : Except Exc β} (hb : TellsExceptions b) (h : Plain o) : b.told o = kept o := by
  cases o with
  | ok a => rfl
  | error e => exact hb e (h e rfl)

/-- A loop that leaves what is on a list one by one, and goes on over the exceptions. -/
structure EndLoop (b : Brackets W Exc ι τ) (world : S → W)
    (loop : List (ι × τ) → Option Exc → Prog S Exc (Option Exc)) : Prop where
  nil   : ∀ error s, loop [] error s = (.ret error, s)
  ret   : ∀ {i token error s w} rest, b.leave i token error (world s) = (.ret (), w) →
    ∃ s', loop ((i, token) :: rest) error s = loop rest error s' ∧ world s' = w
  raise : ∀ {i token error s w e} rest, b.leave i token error (world s) = (.raise e, w) →
    e.isException = true →
    ∃ s', loop ((i, token) :: rest) error s = loop rest (some e) s' ∧ world s' = w
  stuck : ∀ {i token error s w} rest, b.leave i token error (world s) = (.stuck, w) →
    ∃ s', loop ((i, token) :: rest) error s = (.stuck, s') ∧ world s' = w

/-- **Such a loop unwinds.** -/
theorem EndLoop.unwind {loop : List (ι × τ) → Option Exc → Prog S Exc (Option Exc)}
    (h : EndLoop b world loop) (hb : TellsExceptions b)
    (hleave : ∀ i token error, Exceptional (b.leave i token error))
    (hooks : List (ι × τ)) (o : Except Exc α) (s : S) (ho : Plain o) :
    ∃ s', loop hooks (kept o) s = (report (b.unwind hooks o (world s)).1, s')
        ∧ world s' = (b.unwind hooks o (world s)).2
        ∧ ∀ a, (b.unwind hooks o (world s)).1 = .ret a → o = .ok a := by
  induction hooks generalizing o s with
  | nil =>
      rw [h.nil]
      cases o with
      | ok a => exact ⟨s, rfl, rfl, fun a' ha => by injection ha with ha; rw [ha]⟩
      | error e => exact ⟨s, rfl, rfl, fun a' ha => nomatch ha⟩
  | cons hook rest ih =>
      obtain ⟨i, token⟩ := hook
      cases hleft : b.leave i token (kept o) (world s) with
      | mk out w =>
          have hunwind := hleft
          rw [← told_eq hb ho] at hunwind
          cases out with
          | ret u =>
              obtain ⟨s', hloop, rfl⟩ := h.ret rest hleft
              rw [hloop, Brackets.unwind_ret hunwind]
              exact ih o s' ho
          | raise e =>
              have he : e.isException = true := hleave i token (kept o) (world s) e (by rw [hleft])
              obtain ⟨s', hloop, rfl⟩ := h.raise rest hleft he
              obtain ⟨t, hrest, hworld, hret⟩ := ih (.error e) s' (plain_error he)
              rw [hloop, Brackets.unwind_raise hunwind]
              exact ⟨t, hrest, hworld, fun a ha => nomatch hret a ha⟩
          | stuck =>
              obtain ⟨s', hloop, rfl⟩ := h.stuck rest hleft
              rw [hloop, Brackets.unwind_stuck hunwind]
              exact ⟨s', rfl, rfl, fun a ha => nomatch ha⟩

/-- A statement that keeps the error of its body and then leaves what is on the stack. -/
structure Unwinds (b : Brackets W Exc ι τ) (world : S → W) (error : S → Option Exc)
    (stack : S → List (ι × τ)) (Ready : S → Prop)
    (tail : Prog S Exc (Option α) → Prog S Exc (Option α)) : Prop where
  congr : ∀ {x y s t}, x s = y t → tail x s = tail y t
  ret   : ∀ {x s s' a}, x s = (.ret (some a), s') → Ready s' →
    Ends error world (tail x s) (b.unwind (stack s') (.ok a) (world s'))
  raise : ∀ {x s s' e}, x s = (.raise e, s') → e.isException = true → Ready s' →
    Ends error world (tail x s) (b.unwind (stack s') (.error e) (world s'))
  stuck : ∀ {x s s'}, x s = (.stuck, s') → Ends error world (tail x s) (.stuck, world s')

/-- A loop that enters the parts and puts them on the stack, and then the call. -/
structure Enters (b : Brackets W Exc ι τ) (call : Prog W Exc α) (world : S → W)
    (stack : S → List (ι × τ)) (Ready : S → Prop) (serve : List ι → Prog S Exc (Option α)) :
    Prop where
  ret   : ∀ {s w a}, Ready s → call (world s) = (.ret a, w) →
    ∃ s', serve [] s = (.ret (some a), s') ∧ world s' = w ∧ stack s' = stack s ∧ Ready s'
  raise : ∀ {s w e}, Ready s → call (world s) = (.raise e, w) →
    ∃ s', serve [] s = (.raise e, s') ∧ world s' = w ∧ stack s' = stack s ∧ Ready s'
  stuck : ∀ {s w}, call (world s) = (.stuck, w) → ∃ s', serve [] s = (.stuck, s') ∧ world s' = w
  enter : ∀ {i s w token} is, Ready s → b.enter i (world s) = (.ret token, w) →
    ∃ s', serve (i :: is) s = serve is s' ∧ world s' = w ∧ stack s' = (i, token) :: stack s
      ∧ Ready s'
  enterRaise : ∀ {i s w e} is, Ready s → b.enter i (world s) = (.raise e, w) →
    ∃ s', serve (i :: is) s = (.raise e, s') ∧ world s' = w ∧ stack s' = stack s ∧ Ready s'
  enterStuck : ∀ {i s w} is, b.enter i (world s) = (.stuck, w) →
    ∃ s', serve (i :: is) s = (.stuck, s') ∧ world s' = w

/-- **The two together** are the run of the brackets on a stack. -/
theorem Enters.ends {call : Prog W Exc α} {Ready : S → Prop}
    {serve : List ι → Prog S Exc (Option α)}
    {tail : Prog S Exc (Option α) → Prog S Exc (Option α)}
    (h : Enters b call world stack Ready serve) (ht : Unwinds b world error stack Ready tail)
    (henter : ∀ i, Exceptional (b.enter i)) (hcall : Exceptional call) (is : List ι) (s : S)
    (hs : Ready s) :
    Ends error world (tail (serve is) s) (b.run is (stack s) call (world s)) := by
  induction is generalizing s with
  | nil =>
      rw [Brackets.run]
      cases ho : call (world s) with
      | mk o w =>
          cases o with
          | ret a =>
              obtain ⟨s', hserve, rfl, hstack, hready⟩ := h.ret hs ho
              rw [Prog.bind_ret (Prog.attempt_ret ho), ← hstack]
              exact ht.ret hserve hready
          | raise e =>
              obtain ⟨s', hserve, rfl, hstack, hready⟩ := h.raise hs ho
              rw [Prog.bind_ret (Prog.attempt_raise ho), ← hstack]
              exact ht.raise hserve (hcall (world s) e (by rw [ho])) hready
          | stuck =>
              obtain ⟨s', hserve, rfl⟩ := h.stuck ho
              rw [Prog.bind_stuck (Prog.attempt_stuck ho)]
              exact ht.stuck hserve
  | cons i is ih =>
      rw [Brackets.run]
      cases ho : b.enter i (world s) with
      | mk o w =>
          cases o with
          | ret token =>
              -- The part is on the stack, and the loop goes on.
              obtain ⟨s', hserve, rfl, hstack, hready⟩ := h.enter is hs ho
              rw [Prog.bind_ret (Prog.attempt_ret ho), ht.congr hserve]
              dsimp only
              rw [← hstack]
              exact ih s' hready
          | raise e =>
              obtain ⟨s', hserve, rfl, hstack, hready⟩ := h.enterRaise is hs ho
              rw [Prog.bind_ret (Prog.attempt_raise ho)]
              dsimp only
              rw [← hstack]
              exact ht.raise hserve (henter i (world s) e (by rw [ho])) hready
          | stuck =>
              obtain ⟨s', hserve, rfl⟩ := h.enterStuck is ho
              rw [Prog.bind_stuck (Prog.attempt_stuck ho)]
              exact ht.stuck hserve

end Loops

/-! ## The ASGI server -/

section Asgi

open ConnectAsgi (Env Run)

variable {W : Type}

/-- `on_start` and `on_end` of the leading interceptors, as brackets. -/
def asgiBrackets (env : Env p W ι τ α) : Brackets W Exc ι τ where
  enter := env.onStart
  leave := env.onEnd true
  seen := seenAsync

/-- The ASGI server tells its interceptors of exceptions. -/
theorem asgi_tellsExceptions (env : Env p W ι τ α) : TellsExceptions (asgiBrackets env) :=
  fun _ he => if_pos he

theorem asgiAwait_eq {x : Prog W Exc β} {s : Run W ι τ α} {o : Outcome Exc β} {w : W}
    (h : x s.world = (o, w)) : ConnectAsgi.await x s = (o, { s with world := w }) := by
  show ((x s.world).1, { s with world := (x s.world).2 }) = _
  rw [h]

/-- `MetadataInterceptorsRun.end`, as long as nothing is cancelled. -/
theorem asgi_endLoop (env : Env p W ι τ α) :
    EndLoop (asgiBrackets env) (fun s : Run W ι τ α => s.world)
      fun hooks error => ConnectAsgi.endLoop env true hooks error none where
  nil := fun _ _ => rfl
  ret := by
    intro i token error s w rest h
    have hcall : ConnectAsgi.await (env.onEnd true i token error) (ConnectAsgi.pop rest s)
        = (.ret (), { ConnectAsgi.pop rest s with world := w }) := asgiAwait_eq h
    refine ⟨ConnectAsgi.logEnd ⟨true, i, token, error, .ok ()⟩
      { ConnectAsgi.pop rest s with world := w }, ?_, rfl⟩
    exact (Prog.bind_ret rfl).trans
      ((Prog.bind_ret (Prog.attempt_ret hcall)).trans (Prog.bind_ret rfl))
  raise := by
    intro i token error s w e rest h he
    have hcall : ConnectAsgi.await (env.onEnd true i token error) (ConnectAsgi.pop rest s)
        = (.raise e, { ConnectAsgi.pop rest s with world := w }) := asgiAwait_eq h
    refine ⟨ConnectAsgi.logEnd ⟨true, i, token, error, .error e⟩
      { ConnectAsgi.pop rest s with world := w }, ?_, rfl⟩
    refine (Prog.bind_ret rfl).trans
      ((Prog.bind_ret (Prog.attempt_raise hcall)).trans ((Prog.bind_ret rfl).trans ?_))
    dsimp only
    rw [if_pos he]
  stuck := by
    intro i token error s w rest h
    have hcall : ConnectAsgi.await (env.onEnd true i token error) (ConnectAsgi.pop rest s)
        = (.stuck, { ConnectAsgi.pop rest s with world := w }) := asgiAwait_eq h
    exact ⟨_, (Prog.bind_ret rfl).trans (Prog.bind_stuck (Prog.attempt_stuck hcall)), rfl⟩

/-- The part of the timeout scope that is about interceptors: run something, keep its
    error and end the run. -/
def asgiTail (env : Env p W ι τ α) (u : UnaryResponse α)
    (x : Prog (Run W ι τ α) Exc (Option α)) : Prog (Run W ι τ α) Exc (Option α) := do
  let responseData ← ConnectAsgi.keepError x
  ConnectAsgi.endMetadataRun env true (.unary u)
  pure responseData

/-- A unary request up to where its response is written. -/
def asgiRun (env : Env p W ι τ α) (u : UnaryResponse α) :
    Prog (Run W ι τ α) Exc (Option α) :=
  asgiTail env u (ConnectAsgi.serve env (.unary u) 0)

/-- What is left of the scope writes the response, if there is no error. -/
theorem scopeBody_unary (env : Env p W ι τ α) (u : UnaryResponse α) (n : Nat) :
    ConnectAsgi.scopeBody env (.unary u) n
      = asgiRun env u >>= ConnectAsgi.sendUnary env (.unary u) := by
  rw [asgiRun, asgiTail, bind_assoc, ConnectAsgi.scopeBody]
  congr 1
  funext response
  rw [bind_assoc]
  rfl

/-- Once the error is kept, ending the run is unwinding. -/
theorem asgiEnd_ends {env : Env p W ι τ α} {u : UnaryResponse α}
    (hleave : ∀ i token error, Exceptional (env.onEnd true i token error))
    {o : Except Exc α} (ho : Plain o) {r : Option α} (hr : ∀ a, o = .ok a → r = some a)
    {s : Run W ι τ α} (hs : s.error = kept o) :
    Ends Run.error (fun s => s.world) ((do
        ConnectAsgi.endMetadataRun env true (.unary u)
        pure r : Prog (Run W ι τ α) Exc (Option α)) s)
      ((asgiBrackets env).unwind s.hooks o s.world) := by
  obtain ⟨s', heq, hworld, hret⟩ :=
    (asgi_endLoop env).unwind (asgi_tellsExceptions env) hleave s.hooks o s ho
  rw [← hs] at heq
  cases h : (asgiBrackets env).unwind s.hooks o s.world with
  | mk out w =>
      rw [h] at heq hworld hret
      obtain rfl : s'.world = w := hworld
      have hrun : ConnectAsgi.endMetadataRun env true (.unary u) s
          = (ConnectAsgi.endRun env true s.error >>= fun error =>
              Prog.modify fun s => { s with error := error }) s := rfl
      have hend : ConnectAsgi.endRun env true s.error s = (report out, s') := heq
      cases out with
      | ret a =>
          have hall : ConnectAsgi.endMetadataRun env true (.unary u) s
              = (.ret (), { s' with error := none }) := hrun.trans (Prog.bind_ret hend)
          rw [Prog.bind_ret hall, hr a (hret a rfl)]
          exact Ends.value (S := Run W ι τ α) (s := { s' with error := none }) rfl
      | raise e =>
          have hall : ConnectAsgi.endMetadataRun env true (.unary u) s
              = (.ret (), { s' with error := some e }) := hrun.trans (Prog.bind_ret hend)
          rw [Prog.bind_ret hall]
          exact Ends.error (S := Run W ι τ α) (s := { s' with error := some e }) rfl
      | stuck =>
          have hall : ConnectAsgi.endMetadataRun env true (.unary u) s = (.stuck, s') :=
            hrun.trans (Prog.bind_stuck hend)
          rw [Prog.bind_stuck hall]
          exact .stuck

/-- The tail of an ASGI request unwinds the brackets. -/
theorem asgiTail_unwinds {env : Env p W ι τ α} (u : UnaryResponse α)
    (hleave : ∀ i token error, Exceptional (env.onEnd true i token error)) :
    Unwinds (asgiBrackets env) (fun s : Run W ι τ α => s.world) Run.error (fun s => s.hooks)
      (fun s => s.error = none) (asgiTail env u) where
  congr := by
    intro x y s t h
    have hk : ConnectAsgi.keepError x s = ConnectAsgi.keepError y t := by
      rw [ConnectAsgi.keepError, ConnectAsgi.keepError, Prog.rescue, Prog.rescue, h]
    exact Prog.bind_congr hk
  ret := by
    intro x s s' a h hs
    have hk : ConnectAsgi.keepError x s = (.ret (some a), s') := Prog.rescue_ret h
    rw [asgiTail, Prog.bind_ret hk]
    exact asgiEnd_ends hleave (plain_ok a) (fun b hb => by injection hb with hb; rw [hb]) hs
  raise := by
    intro x s s' e h he hs
    have hk : ConnectAsgi.keepError x s = (.ret none, { s' with error := some e }) := by
      rw [ConnectAsgi.keepError, Prog.rescue_raise h, if_pos he]
      rfl
    rw [asgiTail, Prog.bind_ret hk]
    exact asgiEnd_ends (o := .error e) (s := { s' with error := some e }) hleave (plain_error he)
      (by rintro b ⟨⟩) rfl
  stuck := by
    intro x s s' h
    have hk : ConnectAsgi.keepError x s = (.stuck, s') := Prog.rescue_stuck h
    rw [asgiTail, Prog.bind_stuck hk]
    exact .stuck

/-- `metadata_run.start()` and the handler, when these are left to start. -/
def asgiServe (env : Env p W ι τ α) (is : List ι) : Prog (Run W ι τ α) Exc (Option α) := do
  ConnectAsgi.startLoop env is
  let response ← ConnectAsgi.await env.callUnary
  pure (some response)

/-- Its serving enters them around the call. -/
theorem asgiServe_enters (env : Env p W ι τ α) :
    Enters (asgiBrackets env) env.callUnary (fun s : Run W ι τ α => s.world) (fun s => s.hooks)
      (fun s => s.error = none) (asgiServe env) where
  ret := by
    intro s w a hs h
    exact ⟨{ s with world := w }, (Prog.bind_ret rfl).trans (Prog.bind_ret (asgiAwait_eq h)),
      rfl, rfl, hs⟩
  raise := by
    intro s w e hs h
    exact ⟨{ s with world := w }, (Prog.bind_ret rfl).trans (Prog.bind_raise (asgiAwait_eq h)),
      rfl, rfl, hs⟩
  stuck := by
    intro s w h
    exact ⟨{ s with world := w }, (Prog.bind_ret rfl).trans (Prog.bind_stuck (asgiAwait_eq h)),
      rfl⟩
  enter := by
    intro i s w token is hs h
    have hstart : ConnectAsgi.startLoop env (i :: is) s
        = ConnectAsgi.startLoop env is (ConnectAsgi.push i token { s with world := w }) :=
      (Prog.bind_ret (asgiAwait_eq h)).trans (Prog.bind_ret rfl)
    exact ⟨ConnectAsgi.push i token { s with world := w }, Prog.bind_congr hstart, rfl, rfl, hs⟩
  enterRaise := by
    intro i s w e is hs h
    exact ⟨{ s with world := w }, Prog.bind_raise (Prog.bind_raise (asgiAwait_eq h)), rfl, rfl,
      hs⟩
  enterStuck := by
    intro i s w is h
    exact ⟨{ s with world := w }, Prog.bind_stuck (Prog.bind_stuck (asgiAwait_eq h)), rfl⟩

end Asgi

/-! ## The WSGI server -/

section Wsgi

open ConnectWsgi (App Run)

variable {W : Type}

/-- `on_start_sync` and `on_end_sync` of the leading interceptors, as brackets. -/
def wsgiBrackets (app : App p W ι τ α) : Brackets W Exc ι τ where
  enter := app.onStart
  leave := app.onEnd
  seen := seenSync

/-- The WSGI server tells its interceptors of exceptions. -/
theorem wsgi_tellsExceptions (app : App p W ι τ α) : TellsExceptions (wsgiBrackets app) :=
  fun _ he => if_pos he

theorem wsgiAwait_eq {x : Prog W Exc β} {s : Run W ι τ α} {o : Outcome Exc β} {w : W}
    (h : x s.world = (o, w)) : ConnectWsgi.await x s = (o, { s with world := w }) := by
  show ((x s.world).1, { s with world := (x s.world).2 }) = _
  rw [h]

/-- `MetadataInterceptorsRunSync.end`. -/
theorem wsgi_endLoop (app : App p W ι τ α) :
    EndLoop (wsgiBrackets app) (fun s : Run W ι τ α => s.world) (ConnectWsgi.endLoop app) where
  nil := fun _ _ => rfl
  ret := by
    intro i token error s w rest h
    have hcall : ConnectWsgi.await (app.onEnd i token error) (ConnectWsgi.logCall i token error s)
        = (.ret (), { ConnectWsgi.logCall i token error s with world := w }) := wsgiAwait_eq h
    exact ⟨_, (Prog.bind_ret rfl).trans (Prog.bind_ret (Prog.attempt_ret hcall)), rfl⟩
  raise := by
    intro i token error s w e rest h he
    have hcall : ConnectWsgi.await (app.onEnd i token error) (ConnectWsgi.logCall i token error s)
        = (.raise e, { ConnectWsgi.logCall i token error s with world := w }) := wsgiAwait_eq h
    refine ⟨{ ConnectWsgi.logCall i token error s with world := w }, ?_, rfl⟩
    refine (Prog.bind_ret rfl).trans ((Prog.bind_ret (Prog.attempt_raise hcall)).trans ?_)
    dsimp only
    rw [if_pos he]
  stuck := by
    intro i token error s w rest h
    have hcall : ConnectWsgi.await (app.onEnd i token error) (ConnectWsgi.logCall i token error s)
        = (.stuck, { ConnectWsgi.logCall i token error s with world := w }) := wsgiAwait_eq h
    exact ⟨_, (Prog.bind_ret rfl).trans (Prog.bind_stuck (Prog.attempt_stuck hcall)), rfl⟩

/-- The `finally` block of `_handle_unary`. -/
def wsgiEnd (app : App p W ι τ α) : Prog (Run W ι τ α) Exc Unit := do
  let s ← Prog.get
  let error ← ConnectWsgi.endRun app s.error
  Prog.modify fun s => { s with error := error }

/-- The `try` statement of `_handle_unary`, with this in its body. -/
def wsgiTail (app : App p W ι τ α) (x : Prog (Run W ι τ α) Exc (Option α)) :
    Prog (Run W ι τ α) Exc (Option α) :=
  Prog.always
    (Prog.rescue x fun e =>
      if e.isException then do
        Prog.modify fun s => { s with error := some e }
        pure none
      else do
        Prog.modify fun s => { s with error := some ConnectWsgi.interrupted }
        Prog.raise e)
    (wsgiEnd app)

/-- `metadata_run.start()` and the handler, when these are left to start. -/
def wsgiServe (app : App p W ι τ α) (is : List ι) : Prog (Run W ι τ α) Exc (Option α) := do
  ConnectWsgi.startLoop app is
  let response ← ConnectWsgi.await app.callUnary
  pure (some response)

/-- A unary request up to where its response is written. -/
def wsgiRun (app : App p W ι τ α) : Prog (Run W ι τ α) Exc (Option α) :=
  wsgiTail app (wsgiServe app app.interceptors)

/-- What is left of `_handle_unary` raises the error, or writes the response. -/
theorem handleUnary_eq (app : App p W ι τ α) (u : UnaryResponse α) :
    ConnectWsgi.handleUnary app u = wsgiRun app >>= ConnectWsgiWorld.unaryRespond app u := rfl

section Tail

variable {app : App p W ι τ α} {x : Prog (Run W ι τ α) Exc (Option α)} {s s' : Run W ι τ α}

/-- Once the error is kept, ending the run is unwinding. -/
theorem wsgiEnd_unwind (hleave : ∀ i token error, Exceptional (app.onEnd i token error))
    {o : Except Exc α} (ho : Plain o) {s : Run W ι τ α} (hs : s.error = kept o)
    (hended : s.ended = false) :
    ∃ s' : Run W ι τ α, s'.world = ((wsgiBrackets app).unwind s.started.reverse o s.world).2
      ∧ match ((wsgiBrackets app).unwind s.started.reverse o s.world).1 with
        | .ret a => wsgiEnd app s = (.ret (), s') ∧ s'.error = none ∧ o = .ok a
        | .raise e => wsgiEnd app s = (.ret (), s') ∧ s'.error = some e
        | .stuck => wsgiEnd app s = (.stuck, s') := by
  obtain ⟨s', heq, hworld, hret⟩ := (wsgi_endLoop app).unwind (wsgi_tellsExceptions app) hleave
    s.started.reverse o { s with ended := true } ho
  have hend : ConnectWsgi.endRun app s.error s
      = ConnectWsgi.endLoop app s.started.reverse (kept o) { s with ended := true } := by
    refine (Prog.bind_ret rfl).trans ?_
    rw [hended]
    exact congrArg (fun error => ConnectWsgi.endLoop app s.started.reverse error
      { s with ended := true }) hs
  have hrun : wsgiEnd app s
      = (ConnectWsgi.endRun app s.error >>= fun error =>
          Prog.modify fun s => { s with error := error }) s := rfl
  rw [heq] at hend
  cases h : (wsgiBrackets app).unwind s.started.reverse o s.world with
  | mk out w =>
      rw [h] at hend hworld hret
      cases out with
      | ret a =>
          exact ⟨{ s' with error := none }, hworld, hrun.trans (Prog.bind_ret hend), rfl,
            hret a rfl⟩
      | raise e =>
          exact ⟨{ s' with error := some e }, hworld, hrun.trans (Prog.bind_ret hend), rfl⟩
      | stuck => exact ⟨s', hworld, hrun.trans (Prog.bind_stuck hend)⟩

/-- A WSGI request that returns unwinds with its response. -/
theorem wsgiTail_ret (hleave : ∀ i token error, Exceptional (app.onEnd i token error))
    {a : α} (h : x s = (.ret (some a), s')) (hs : s'.error = none) (hended : s'.ended = false) :
    Ends Run.error Run.world (wsgiTail app x s)
      ((wsgiBrackets app).unwind s'.started.reverse (.ok a) s'.world) := by
  obtain ⟨t, hworld, ht⟩ := wsgiEnd_unwind hleave (plain_ok a) hs hended
  rw [wsgiTail, Prog.always, Prog.rescue, h]
  dsimp only
  cases hu : (wsgiBrackets app).unwind s'.started.reverse (.ok a) s'.world with
  | mk out w =>
      rw [hu] at hworld ht
      obtain rfl : t.world = w := hworld
      cases out with
      | ret b =>
          obtain ⟨hrun, herror, hb⟩ := ht
          injection hb with hb
          rw [hrun, hb]
          exact .value herror
      | raise e =>
          rw [ht.1]
          exact .error ht.2
      | stuck =>
          rw [show wsgiEnd app s' = (.stuck, t) from ht]
          exact .stuck

/-- One that raises unwinds with its exception. -/
theorem wsgiTail_raise (hleave : ∀ i token error, Exceptional (app.onEnd i token error))
    {e : Exc} (he : e.isException = true) (h : x s = (.raise e, s')) (hended : s'.ended = false) :
    Ends Run.error Run.world (wsgiTail app x s)
      ((wsgiBrackets app).unwind s'.started.reverse (.error e) s'.world) := by
  obtain ⟨t, hworld, ht⟩ := wsgiEnd_unwind (s := { s' with error := some e }) hleave
    (plain_error (α := α) he) rfl hended
  have hx : Prog.rescue x (fun e =>
        if e.isException then do
          Prog.modify fun s => { s with error := some e }
          pure none
        else do
          Prog.modify fun s => { s with error := some ConnectWsgi.interrupted }
          Prog.raise e) s = (.ret none, { s' with error := some e }) := by
    rw [Prog.rescue, h]
    dsimp only
    rw [if_pos he]
    rfl
  rw [wsgiTail, Prog.always, hx]
  dsimp only
  cases hu : (wsgiBrackets app).unwind s'.started.reverse (.error e) s'.world with
  | mk out w =>
      dsimp only at hworld ht
      rw [hu] at hworld ht
      obtain rfl : t.world = w := hworld
      cases out with
      | ret b => cases ht.2.2
      | raise e' =>
          rw [ht.1]
          exact .error ht.2
      | stuck =>
          rw [show wsgiEnd app { s' with error := some e } = (.stuck, t) from ht]
          exact .stuck

end Tail

/-- The tail of a WSGI request unwinds the brackets. -/
theorem wsgiTail_unwinds {app : App p W ι τ α}
    (hleave : ∀ i token error, Exceptional (app.onEnd i token error)) :
    Unwinds (wsgiBrackets app) (fun s : Run W ι τ α => s.world) Run.error
      (fun s => s.started.reverse) (fun s => s.error = none ∧ s.ended = false)
      (wsgiTail app) where
  congr := by
    intro x y s t h
    rw [wsgiTail, wsgiTail, Prog.always, Prog.always, Prog.rescue, Prog.rescue, h]
  ret := fun h hs => wsgiTail_ret hleave h hs.1 hs.2
  raise := fun h he hs => wsgiTail_raise hleave he h hs.2
  stuck := by
    intro x s s' h
    rw [wsgiTail, Prog.always, Prog.rescue_stuck h]
    exact .stuck

/-- The list is kept in the order of the starts, the stack in the other. -/
theorem wsgiServe_enters (app : App p W ι τ α) :
    Enters (wsgiBrackets app) app.callUnary (fun s : Run W ι τ α => s.world)
      (fun s => s.started.reverse) (fun s => s.error = none ∧ s.ended = false)
      (wsgiServe app) where
  ret := by
    intro s w a hs h
    exact ⟨{ s with world := w }, (Prog.bind_ret rfl).trans (Prog.bind_ret (wsgiAwait_eq h)),
      rfl, rfl, hs⟩
  raise := by
    intro s w e hs h
    exact ⟨{ s with world := w }, (Prog.bind_ret rfl).trans (Prog.bind_raise (wsgiAwait_eq h)),
      rfl, rfl, hs⟩
  stuck := by
    intro s w h
    exact ⟨{ s with world := w }, (Prog.bind_ret rfl).trans (Prog.bind_stuck (wsgiAwait_eq h)),
      rfl⟩
  enter := by
    intro i s w token is hs h
    have hstart : ConnectWsgi.startLoop app (i :: is) s
        = ConnectWsgi.startLoop app is
          { s with world := w, started := s.started ++ [(i, token)] } :=
      (Prog.bind_ret (wsgiAwait_eq h)).trans (Prog.bind_ret rfl)
    exact ⟨{ s with world := w, started := s.started ++ [(i, token)] }, Prog.bind_congr hstart,
      rfl, List.reverse_concat, hs⟩
  enterRaise := by
    intro i s w e is hs h
    exact ⟨{ s with world := w }, Prog.bind_raise (Prog.bind_raise (wsgiAwait_eq h)), rfl, rfl,
      hs⟩
  enterStuck := by
    intro i s w is h
    exact ⟨{ s with world := w }, Prog.bind_stuck (Prog.bind_stuck (wsgiAwait_eq h)), rfl⟩

end Wsgi

/-! ## Hoisting -/

section Hoisting

open ConnectAsgi (Env)
open ConnectWsgi (App)

variable (chain : Chain ω ι μ τ ρ χ α) (interceptors : List (Interceptor ι μ)) (request : ρ)
  (ctx : χ)

/-- An ASGI server with these interceptors, on a request that decodes to this message:
    the leading ones are hoisted, the others nested around the handler. -/
def asgiEnv (env : Env p (World ω ι μ τ ρ χ) ι τ α) : Env p (World ω ι μ τ ρ χ) ι τ α :=
  { env with
    interceptors := (splitLeading interceptors).1
    onStart := chain.callStart ctx
    onEnd := fun _ => chain.callEnd ctx
    callUnary := applyInterceptors seenAsync chain (splitLeading interceptors).2 request ctx }

/-- A WSGI server with these interceptors, on such a request. -/
def wsgiApp (app : App p (World ω ι μ τ ρ χ) ι τ α) : App p (World ω ι μ τ ρ χ) ι τ α :=
  { app with
    interceptors := (splitLeading interceptors).1
    onStart := chain.callStart ctx
    onEnd := chain.callEnd ctx
    callUnary := applyInterceptors seenSync chain (splitLeading interceptors).2 request ctx }

/-- **HOISTING IS INVISIBLE.**  Both servers' executions of a request come to the value
    or the exception of the nest of all interceptors around the handler, after the same
    calls, with the same tokens and errors. -/
theorem hoisting_invisible (h : chain.Tame) (w : World ω ι μ τ ρ χ) :
    (∀ (env : Env p (World ω ι μ τ ρ χ) ι τ α) (u : UnaryResponse α),
      Ends ConnectAsgi.Run.error (fun s => s.world)
        (asgiRun (asgiEnv chain interceptors request ctx env) u (ConnectAsgi.Run.new w))
        (applyInterceptors seenAsync chain interceptors request ctx w))
    ∧ ∀ app : App p (World ω ι μ τ ρ χ) ι τ α,
      Ends ConnectWsgi.Run.error (fun s => s.world)
        (wsgiRun (wsgiApp chain interceptors request ctx app) (ConnectWsgi.Run.new w))
        (applyInterceptors seenSync chain interceptors request ctx w) := by
  constructor
  · intro env u
    have hloops := (asgiServe_enters (asgiEnv chain interceptors request ctx env)).ends
      (asgiTail_unwinds u fun i token error => exceptional_traced (h.onEnd i token ctx error) _)
      (fun i => exceptional_traced (h.onStart i ctx) _)
      (exceptional_applyInterceptors seenAsync h _ request ctx) (splitLeading interceptors).1
      (ConnectAsgi.Run.new w) rfl
    rw [applyInterceptors_eq_nest, ← Brackets.run_eq_nest]
    exact hloops
  · intro app
    have hloops := (wsgiServe_enters (wsgiApp chain interceptors request ctx app)).ends
      (wsgiTail_unwinds fun i token error => exceptional_traced (h.onEnd i token ctx error) _)
      (fun i => exceptional_traced (h.onStart i ctx) _)
      (exceptional_applyInterceptors seenSync h _ request ctx) (splitLeading interceptors).1
      (ConnectWsgi.Run.new w) ⟨rfl, rfl⟩
    rw [applyInterceptors_eq_nest, ← Brackets.run_eq_nest]
    exact hloops

end Hoisting

/-- A handler that raises, a message interceptor that changes the request, and a
    metadata interceptor whose `on_end` raises. -/
def shaky : Chain Unit Nat Unit Nat Nat Unit Nat where
  onStart := fun i _ => pure (i + 10)
  onEnd := fun i _ _ _ => if i = 1 then Prog.raise (.exception .typeError "on_end") else pure ()
  intercept := fun _ callNext request ctx => callNext (request + 1) ctx
  handler := fun _ _ => Prog.raise (.exception .valueError "handler")

/-- The interceptors of the example raise exceptions only. -/
theorem shaky_tame : shaky.Tame where
  onStart := fun _ _ _ _ h => nomatch h
  onEnd := by
    intro i token ctx error s e he
    by_cases hi : i = 1
    · rw [show shaky.onEnd i token ctx error = _ from if_pos hi] at he
      injection he with he
      rw [← he]
      rfl
    · rw [show shaky.onEnd i token ctx error = _ from if_neg hi] at he
      exact nomatch he
  handler := by
    rintro request ctx s e ⟨⟩
    rfl
  intercept := fun _ _ h request ctx => h (request + 1) ctx

/-- The run of `shaky`, with two leading interceptors and one that is nested. -/
theorem hoisting_invisible_shaky :
    let interceptors := [.metadata 0, .metadata 1, .unary (), .metadata 2]
    let world : World Unit Nat Unit Nat Nat Unit := ⟨
      [.onStart 0 (), .onStart 1 (), .intercept () 5 (), .onStart 2 (), .handler 6 (),
        .onEnd 2 12 () (some (.exception .valueError "handler")),
        .onEnd 1 11 () (some (.exception .valueError "handler")),
        .onEnd 0 10 () (some (.exception .typeError "on_end"))], ()⟩
    (∀ (env : ConnectAsgi.Env .plain (World Unit Nat Unit Nat Nat Unit) Nat Nat Nat)
        (u : UnaryResponse Nat),
      Ends ConnectAsgi.Run.error (fun s => s.world)
        (asgiRun (asgiEnv shaky interceptors 5 () env) u (ConnectAsgi.Run.new ⟨[], ()⟩))
        (.raise (.exception .typeError "on_end"), world))
    ∧ ∀ app : ConnectWsgi.App .plain (World Unit Nat Unit Nat Nat Unit) Nat Nat Nat,
      Ends ConnectWsgi.Run.error (fun s => s.world)
        (wsgiRun (wsgiApp shaky interceptors 5 () app) (ConnectWsgi.Run.new ⟨[], ()⟩))
        (.raise (.exception .typeError "on_end"), world) :=
  hoisting_invisible shaky [.metadata 0, .metadata 1, .unary (), .metadata 2] 5 () shaky_tame
    ⟨[], ()⟩

end ConnectNest
