import ConnectPy.InterceptorNestProofs

/-! # Interceptors around streams — one generator within the other

    A metadata interceptor around a method with a response stream is a generator that
    consumes another.  Its consumer may ask for a message, throw an exception in at a
    `yield`, or close it, and it does the same to what it wraps (`interceptStream`).

    To consume a stream through interceptors is to run the interceptors around the
    consumption of the stream (`consume_nest`): whatever the stream, the interceptors and
    the consumer do, on_start and on_end are called as they are around a call that returns
    one message.  The server closes its stream in another way, which on a generator comes
    to the same (`Generator.streamResponses_eq`).  So hoisting the leading interceptors is
    as invisible for streams as it is for one message (`stream_hoisting_invisible`).

    That needs two things.  What closes the stream or ends an interceptor must not raise a
    group that has the exception of the consumer in it, nor a `GeneratorExit`: both would
    be taken for that exception. -/

namespace ConnectInterceptorStream

open Effect
open ConnectErrors ConnectNest

variable {ω α ι μ τ : Type}

/-! ## Exceptions -/

/-- An exception object, by its identity, or a group of exceptions. -/
inductive Raised where
  | object (n : Nat) (e : Exc)
  | group (n : Nat) (exceptions : List Raised)

namespace Raised

/-- `id(e)`. -/
def id : Raised → Nat
  | .object n _ => n
  | .group n _ => n

mutual

/-- `_contains`. -/
def contains : Raised → Raised → Bool
  | .object n _, cause => n == cause.id
  | .group n exceptions, cause => n == cause.id || anyContains exceptions cause

def anyContains : List Raised → Raised → Bool
  | [], _ => false
  | e :: exceptions, cause => contains e cause || anyContains exceptions cause

end

/-- `isinstance(error, GeneratorExit)`. -/
def isExit : Raised → Bool
  | .object _ (.baseException name) => name = "GeneratorExit"
  | _ => false

/-- The `GeneratorExit` that closing a generator throws in. -/
def generatorExit : Raised := .object 0 (.baseException "GeneratorExit")

/-- `GeneratorExit` ends a generator. -/
@[simp] theorem isExit_generatorExit : generatorExit.isExit = true := rfl

mutual

/-- `isinstance(error, Exception)`.  A group is one if all within it are. -/
def isException : Raised → Bool
  | .object _ e => e.isException
  | .group _ exceptions => allExceptions exceptions

def allExceptions : List Raised → Bool
  | [] => true
  | e :: exceptions => isException e && allExceptions exceptions

end

mutual

/-- `TrioLoop.is_cancellation`. -/
def hasCancellation : Raised → Bool
  | .object _ e => e.isCancellation
  | .group _ exceptions => anyCancellation exceptions

def anyCancellation : List Raised → Bool
  | [] => false
  | e :: exceptions => hasCancellation e || anyCancellation exceptions

end

mutual

/-- An `Exception` is no cancellation, nor a group with one. -/
theorem hasCancellation_of_isException (e : Raised) (h : e.isException = true) :
    e.hasCancellation = false := by
  cases e with
  | object n e =>
      rw [isException] at h
      rw [hasCancellation]
      cases e with
      | cancelled origin => cases h
      | connectError e => rfl
      | httpError e => rfl
      | exception cls text => rfl
      | baseException name => rfl
  | group n exceptions =>
      rw [isException] at h
      rw [hasCancellation]
      exact anyCancellation_of_allExceptions exceptions h

/-- Nor is there one in a group of exceptions. -/
theorem anyCancellation_of_allExceptions (exceptions : List Raised)
    (h : allExceptions exceptions = true) : anyCancellation exceptions = false := by
  cases exceptions with
  | nil => rfl
  | cons e exceptions =>
      rw [allExceptions, Bool.and_eq_true] at h
      rw [anyCancellation, hasCancellation_of_isException e h.1,
        anyCancellation_of_allExceptions exceptions h.2]
      rfl

end

/-- An exception that is not taken for one of `A`, or for a `GeneratorExit`. -/
structure Apart (A : Raised → Prop) (e : Raised) : Prop where
  exit     : e.isExit = false
  contains : ∀ cause, A cause → contains e cause = true → e = cause

end Raised

/-- The event loops. -/
inductive Loop where
  | asyncio
  | trio

/-- `loop.is_cancellation`. -/
def Loop.isCancellation : Loop → Raised → Bool
  | .asyncio, .object _ e => e.isCancellation
  | .asyncio, .group _ _ => false
  | .trio, e => e.hasCancellation

/-- What `on_end` is told about an exception. -/
def Loop.seen (loop : Loop) (e : Raised) : Option Raised :=
  if e.isException then some e
  else if loop.isCancellation e then some (.object 1 ConnectAsgi.requestCancelled)
  else none

/-- On no event loop is it taken for one. -/
theorem Loop.isCancellation_of_isException (loop : Loop) {e : Raised}
    (h : e.isException = true) : loop.isCancellation e = false := by
  cases loop with
  | trio => exact e.hasCancellation_of_isException h
  | asyncio =>
      cases e with
      | object n e => exact Raised.hasCancellation_of_isException (.object n e) h
      | group n exceptions => rfl

/-- A `GeneratorExit` is neither. -/
theorem Loop.seen_exit (loop : Loop) {e : Raised} (h : e.isExit = true) : loop.seen e = none := by
  cases e with
  | group n exceptions => cases h
  | object n e =>
      cases e with
      | baseException name => cases loop <;> rfl
      | connectError e => cases h
      | httpError e => cases h
      | exception cls text => cases h
      | cancelled origin => cases h

/-! ## Streams -/

/-- An asynchronous iterator with its state: what calling the function comes to, and
    then `anext`, and `athrow` and `aclose` where it has them; none is its end. -/
structure Stream (ω α : Type) where
  State  : Type
  create : Prog ω Raised State
  anext  : Prog (State × ω) Raised (Option α)
  athrow : Option (Raised → Prog (State × ω) Raised (Option α))
  aclose : Option (Prog (State × ω) Raised Unit)

/-- A program on the world, next to a stream. -/
def onWorld {S β : Type} (x : Prog ω Raised β) : Prog (S × ω) Raised β :=
  Prog.zoom Prod.snd (fun w s => (s.1, w)) x

section OnWorld

variable {S β : Type} {s : S} {x : Prog ω Raised β} {w w' : ω}

theorem onWorld_ret {v : β} (h : x w = (.ret v, w')) : onWorld x (s, w) = (.ret v, (s, w')) := by
  rw [onWorld, Prog.zoom, h]

theorem onWorld_raise {e : Raised} (h : x w = (.raise e, w')) :
    onWorld x (s, w) = (.raise e, (s, w')) := by
  rw [onWorld, Prog.zoom, h]

theorem onWorld_stuck (h : x w = (.stuck, w')) : onWorld x (s, w) = (.stuck, (s, w')) := by
  rw [onWorld, Prog.zoom, h]

end OnWorld

/-- Use a stream from a state of it on. -/
def runFrom {S β : Type} (s : S) (x : Prog (S × ω) Raised β) : Prog ω Raised β := fun w =>
  ((x (s, w)).1, (x (s, w)).2.2)

/-- `_aclose`. -/
def aclose (stream : Stream ω α) : Prog (stream.State × ω) Raised Unit :=
  stream.aclose.getD (pure ())

/-- `_throw_into`. -/
def throwInto (stream : Stream ω α) (error : Raised) : Prog (stream.State × ω) Raised Unit :=
  match stream.athrow with
  | none => aclose stream
  | some athrow =>
      if error.isExit then aclose stream
      else do
        let thrown ← Prog.attempt (athrow error)
        match thrown with
        | .ok none => pure ()
        | .ok (some _) => aclose stream
        | .error e => if e.contains error then pure () else Prog.raise e

/-- An exception of a consumer is thrown into the stream and then raised. -/
def rethrow {β : Type} (stream : Stream ω α) (error : Raised) :
    Prog (stream.State × ω) Raised β := do
  throwInto stream error
  Prog.raise error

/-! ## An interceptor around a stream -/

/-- Where the generator of an interceptor stands; a call of it that never comes back
    leaves it nowhere. -/
inductive Control (τ S : Type) where
  | unstarted
  | suspended (token : τ) (responses : S)
  | done

/-- The end of a generator, after its last clauses. -/
def ended {S : Type} (x : Prog ω Raised Unit) : Prog (S × ω) Raised (Option α) := do
  onWorld x
  pure none

section Intercept

variable (b : Brackets ω Raised ι τ) (i : ι) (stream : Stream ω α)

/-- The clauses of the interceptor. -/
def leaving (token : τ) (outcome : Except Raised Unit) : Prog ω Raised Unit := do
  b.leave i token (b.told outcome)
  Prog.ofExcept outcome

/-- The `finally` clause around the responses, and then these. -/
def finish (token : τ) (outcome : Except Raised Unit) (responses : stream.State) :
    Prog ω Raised Unit := do
  let outcome ← Prog.attempt (do
    runFrom responses (aclose stream)
    Prog.ofExcept outcome)
  leaving b i token outcome

/-- Go on with the responses until the next `yield` or the end. -/
def goOn (token : τ) (x : Prog (stream.State × ω) Raised (Option α)) (responses : stream.State) :
    Prog (Control τ stream.State × ω) Raised (Option α) := fun s =>
  match x (responses, s.2) with
  | (.ret (some a), r) => (.ret (some a), (.suspended token r.1, r.2))
  | (.ret none, r) => ended (finish b i stream token (.ok ()) r.1) (.done, r.2)
  | (.raise e, r) => ended (finish b i stream token (.error e) r.1) (.done, r.2)
  | (.stuck, r) => (.stuck, (.done, r.2))

/-- Call `on_start` and then the function, whose exception ends the interceptor. -/
def begin : Prog (Control τ stream.State × ω) Raised (Option α) := do
  let token ← onWorld (b.enter i)
  let created ← Prog.attempt (onWorld stream.create)
  match created with
  | .ok responses => goOn b i stream token stream.anext responses
  | .error e => ended (leaving b i token (.error e))

/-- `intercept_server_stream` and `intercept_bidi_stream` of the invoker.  What is done
    to a generator that has ended, or not begun, runs none of its code. -/
def interceptStream : Stream ω α where
  State := Control τ stream.State
  create := pure .unstarted
  anext := fun s =>
    match s.1 with
    | .unstarted => begin b i stream (.done, s.2)
    | .suspended token responses => goOn b i stream token stream.anext responses s
    | .done => (.ret none, s)
  athrow := some fun error s =>
    match s.1 with
    | .unstarted => (.raise error, (.done, s.2))
    | .suspended token responses =>
        goOn b i stream token (rethrow stream error) responses s
    | .done => (.ret none, s)
  aclose := some fun s =>
    match s.1 with
    | .unstarted => (.ret (), (.done, s.2))
    | .suspended token responses =>
        (do
          let thrown ← Prog.attempt
            (goOn b i stream token (rethrow stream .generatorExit) responses)
          match thrown with
          | .error e => if e.isExit then pure () else Prog.raise e
          | .ok none => pure ()
          | .ok (some _) => Prog.raise (.object 0 (.exception .runtimeError
              "async generator ignored GeneratorExit"))) s
    | .done => (.ret (), s)

end Intercept

/-! ## Consumers -/

/-- A consumer of a stream: the body of its loop gets each message, and an exception of
    the body is thrown into the stream, which is closed in the end. -/
def round (stream : Stream ω α) (body : α → Prog ω Raised Unit) :
    Prog (stream.State × ω) Raised Bool := do
  let response ← stream.anext
  match response with
  | none => pure false
  | some a => do
      let consumed ← Prog.attempt (onWorld (body a))
      match consumed with
      | .ok () => pure true
      | .error e => rethrow stream e

def consume (n : Nat) (body : α → Prog ω Raised Unit) (stream : Stream ω α) :
    Prog ω Raised Unit := do
  let responses ← stream.create
  runFrom responses (Prog.always (Prog.loop (n + 1) (round stream body)) (aclose stream))

/-! ## The end of an interceptor -/

section Finish

variable {b : Brackets ω Raised ι τ} {i : ι} {stream : Stream ω α} {token : τ}

/-- A stream that closes leaves its outcome to the interceptor. -/
theorem finish_ret {outcome : Except Raised Unit} {responses : stream.State} {w w' : ω}
    (h : runFrom responses (aclose stream) w = (.ret (), w')) :
    finish b i stream token outcome responses w = leaving b i token outcome w' := by
  rw [finish]
  cases outcome with
  | ok u => exact Prog.bind_ret (Prog.attempt_ret (Prog.bind_ret h))
  | error e => exact Prog.bind_ret (Prog.attempt_raise (Prog.bind_ret h))

/-- One that raises when it is closed has that for its outcome. -/
theorem finish_raise {outcome : Except Raised Unit} {responses : stream.State} {w w' : ω}
    {e : Raised} (h : runFrom responses (aclose stream) w = (.raise e, w')) :
    finish b i stream token outcome responses w = leaving b i token (.error e) w' :=
  Prog.bind_ret (Prog.attempt_raise (Prog.bind_raise h))

/-- And one that waits for ever keeps the interceptor waiting. -/
theorem finish_stuck {outcome : Except Raised Unit} {responses : stream.State} {w w' : ω}
    (h : runFrom responses (aclose stream) w = (.stuck, w')) :
    finish b i stream token outcome responses w = (.stuck, w') :=
  Prog.bind_stuck (Prog.attempt_stuck (Prog.bind_stuck h))

/-- How the use of the responses ended, and then the clauses of the interceptor. -/
def settle (b : Brackets ω Raised ι τ) (i : ι) (stream : Stream ω α) (token : τ) :
    Outcome Raised Unit × (stream.State × ω) → Outcome Raised Unit × ω
  | (.ret (), r) => finish b i stream token (.ok ()) r.1 r.2
  | (.raise e, r) => finish b i stream token (.error e) r.1 r.2
  | (.stuck, r) => (.stuck, r.2)

/-- Closing the responses after a program. -/
theorem runFrom_always {x : Prog (stream.State × ω) Raised Unit} {responses : stream.State} {w : ω}
    {o : Except Raised Unit} {r : stream.State × ω}
    (hx : Prog.attempt x (responses, w) = (.ret o, r)) :
    runFrom responses (Prog.always x (aclose stream)) w
      = (do
          runFrom r.1 (aclose stream)
          Prog.ofExcept o) r.2 := by
  obtain ⟨responses', w'⟩ := r
  rw [Prog.attempt] at hx
  cases hr : x (responses, w) with
  | mk o' r' =>
      rw [hr] at hx
      cases hc : aclose stream (responses', w') with
      | mk oc rc =>
          cases o' with
          | stuck => cases hx
          | ret u =>
              cases hx
              cases oc <;> simp [runFrom, Prog.always, Prog.bind_apply, hr, hc, Prog.ofExcept,
                Prog.pure]
          | raise e =>
              cases hx
              cases oc <;> simp [runFrom, Prog.always, Prog.bind_apply, hr, hc, Prog.ofExcept,
                Prog.raise]

/-- Leaving an interceptor around a program that closes the responses. -/
theorem leave_always (x : Prog (stream.State × ω) Raised Unit) (responses : stream.State) (w : ω) :
    (do
      let outcome ← Prog.attempt (runFrom responses (Prog.always x (aclose stream)))
      leaving b i token outcome) w = settle b i stream token (x (responses, w)) := by
  cases hx : x (responses, w) with
  | mk o r =>
      cases o with
      | stuck =>
          refine Prog.bind_stuck (Prog.attempt_stuck ?_)
          rw [runFrom, Prog.always, hx]
      | ret u => exact Prog.attempt_bind_congr (runFrom_always (Prog.attempt_ret hx))
      | raise e => exact Prog.attempt_bind_congr (runFrom_always (Prog.attempt_raise hx))

end Finish

/-! ## What is thrown in comes out -/

/-- An exception that is not taken for another one which was thrown in. -/
def Distinct (thrown e : Raised) : Prop := e.contains thrown = true → e = thrown

/-- What closes a stream raises nothing that is taken for an exception of the consumer. -/
def Orderly (A : Raised → Prop) (stream : Stream ω α) : Prop :=
  Raises (Raised.Apart A) (aclose stream)

/-- What leaves an interceptor neither, and a `GeneratorExit` is not told. -/
structure Tactful (A : Raised → Prop) (b : Brackets ω Raised ι τ) : Prop where
  leave : ∀ i token error, Raises (Raised.Apart A) (b.leave i token error)
  exit  : ∀ e, e.isExit = true → b.seen e = none

section Thrown

variable {A : Raised → Prop} {b : Brackets ω Raised ι τ} {i : ι} {stream : Stream ω α} {token : τ}

/-- What is not taken for any exception of the consumer is not taken for the one thrown in. -/
theorem Raised.Apart.distinct {e thrown : Raised} (h : e.Apart A) (ha : A thrown) :
    Distinct thrown e :=
  fun hc => h.contains thrown ha hc

/-- What comes of throwing into a stream is not taken for what was thrown in. -/
theorem raises_throwInto (h : Orderly A stream) {thrown : Raised} (ha : A thrown) :
    Raises (Distinct thrown) (throwInto stream thrown) := by
  have hclose : Raises (Distinct thrown) (aclose stream) := Raises.mono h fun e he => he.distinct ha
  rw [throwInto]
  cases stream.athrow with
  | none => exact hclose
  | some athrow =>
      dsimp only
      split
      · exact hclose
      · refine Raises.bind (Raises.attempt _) fun o => ?_
        rcases o with e | _ | a
        · dsimp only
          split
          · exact Raises.pure ()
          · next hc => exact Raises.raise fun hcontains => absurd hcontains hc
        · exact Raises.pure ()
        · exact hclose

/-- A program on a stream raises what it raises on its own. -/
theorem raises_runFrom {β : Type} {B : Raised → Prop} {x : Prog (stream.State × ω) Raised β}
    (hx : Raises B x) (responses : stream.State) : Raises B (runFrom responses x) :=
  fun w e he => hx (responses, w) e he

/-- What may come of finishing a stream. -/
theorem raises_finish (h : Orderly A stream) (hb : Tactful A b) {B : Raised → Prop}
    (hapart : ∀ e, e.Apart A → B e) {outcome : Except Raised Unit}
    (ho : ∀ e, outcome = .error e → B e) (responses : stream.State) :
    Raises B (finish b i stream token outcome responses) := by
  have hclosed : Raises B (do
      runFrom responses (aclose stream)
      Prog.ofExcept outcome) :=
    ((raises_runFrom h responses).mono hapart).bind fun _ => .ofExcept ho
  exact hclosed.attempt_bind fun o ho' =>
    ((hb.leave i token (b.told o)).mono hapart).bind fun _ => .ofExcept ho'

/-- An interceptor that is left with an exception does not return. -/
theorem leaving_error_ne_ret (e : Raised) (w : ω) (u : Unit) :
    (leaving b i token (.error e) w).1 ≠ .ret u := by
  rw [leaving]
  cases h : b.leave i token (b.told (.error e : Except Raised Unit)) w with
  | mk o w' =>
      cases o with
      | ret v => rw [Prog.bind_ret h]; rintro ⟨⟩
      | raise e' => rw [Prog.bind_raise h]; rintro ⟨⟩
      | stuck => rw [Prog.bind_stuck h]; rintro ⟨⟩

/-- An exception does not end in a return. -/
theorem finish_error_ne_ret (e : Raised) (responses : stream.State) (w : ω) (u : Unit) :
    (finish b i stream token (.error e) responses w).1 ≠ .ret u := by
  cases h : runFrom responses (aclose stream) w with
  | mk o w' =>
      cases o with
      | ret v =>
          rw [finish_ret h]
          exact leaving_error_ne_ret e w' u
      | raise e' =>
          rw [finish_raise h]
          exact leaving_error_ne_ret e' w' u
      | stuck =>
          rw [finish_stuck h]
          rintro ⟨⟩

/-- One `GeneratorExit` is as good as another. -/
theorem leaving_exit (hb : Tactful A b) {e e' : Raised} (he : e.isExit = true)
    (he' : e'.isExit = true) (w : ω) :
    (∃ w', leaving b i token (.error e) w = (.raise e, w')
        ∧ leaving b i token (.error e') w = (.raise e', w'))
      ∨ leaving b i token (.error e') w = leaving b i token (.error e) w
        ∧ ∀ ef, (leaving b i token (.error e) w).1 = .raise ef → ef.Apart A := by
  have htold : ∀ e : Raised, e.isExit = true →
      b.told (.error e : Except Raised Unit) = none := hb.exit
  cases h : b.leave i token none w with
  | mk o w' =>
      have hleave : ∀ e : Raised, e.isExit = true →
          b.leave i token (b.told (.error e : Except Raised Unit)) w = (o, w') := by
        intro e he
        rw [htold e he, h]
      cases o with
      | ret u =>
          refine .inl ⟨w', ?_, ?_⟩
          · exact Prog.bind_ret (hleave e he)
          · exact Prog.bind_ret (hleave e' he')
      | raise el =>
          refine .inr ?_
          have hl : leaving b i token (.error e) w = (.raise el, w') :=
            Prog.bind_raise (hleave e he)
          refine ⟨(Prog.bind_raise (hleave e' he')).trans hl.symm, ?_⟩
          rw [hl]
          rintro ef ⟨⟩
          exact hb.leave i token none w el (by rw [h])
      | stuck =>
          refine .inr ?_
          have hl : leaving b i token (.error e) w = (.stuck, w') :=
            Prog.bind_stuck (hleave e he)
          refine ⟨(Prog.bind_stuck (hleave e' he')).trans hl.symm, ?_⟩
          rw [hl]
          rintro ef ⟨⟩

/-- Two exits finish a stream alike, but for which of them is raised. -/
theorem finish_exit (h : Orderly A stream) (hb : Tactful A b) {e e' : Raised} (he : e.isExit = true)
    (he' : e'.isExit = true) (responses : stream.State) (w : ω) :
    (∃ w', finish b i stream token (.error e) responses w = (.raise e, w')
        ∧ finish b i stream token (.error e') responses w = (.raise e', w'))
      ∨ finish b i stream token (.error e') responses w
          = finish b i stream token (.error e) responses w
        ∧ ∀ ef, (finish b i stream token (.error e) responses w).1 = .raise ef → ef.Apart A := by
  cases hc : runFrom responses (aclose stream) w with
  | mk o w' =>
      cases o with
      | ret u =>
          rw [finish_ret hc, finish_ret hc]
          exact leaving_exit hb he he' w'
      | raise ec =>
          rw [finish_raise hc, finish_raise hc]
          refine .inr ⟨rfl, fun ef hef => ?_⟩
          refine Raises.bind (hb.leave i token _) (fun _ => Raises.raise ?_) w' ef hef
          exact h (responses, w) ec (congrArg Prod.fst hc)
      | stuck =>
          rw [finish_stuck hc, finish_stuck hc]
          refine .inr ⟨rfl, ?_⟩
          rintro ef ⟨⟩

end Thrown

/-! ## The rounds of a consumer -/

section Rounds

variable {stream : Stream ω α} {body : α → Prog ω Raised Unit} {n : Nat}
  {c c' : stream.State × ω}

/-- The consumer returns at the end of the stream. -/
theorem loop_none (h : stream.anext c = (.ret none, c')) :
    Prog.loop (n + 1) (round stream body) c = (.ret (), c') := by
  have hround : round stream body c = (.ret false, c') := Prog.bind_ret h
  exact Prog.bind_ret hround

/-- It raises what the stream raises. -/
theorem loop_raise {e : Raised} (h : stream.anext c = (.raise e, c')) :
    Prog.loop (n + 1) (round stream body) c = (.raise e, c') :=
  Prog.bind_raise (Prog.bind_raise h)

theorem loop_stuck (h : stream.anext c = (.stuck, c')) :
    Prog.loop (n + 1) (round stream body) c = (.stuck, c') :=
  Prog.bind_stuck (Prog.bind_stuck h)

variable {a : α} {s : stream.State} {w w' : ω}

/-- An exception that the stream takes is raised all the same. -/
theorem rethrow_ret {β : Type} {e : Raised} (h : throwInto stream e c = (.ret (), c')) :
    (rethrow stream e : Prog (stream.State × ω) Raised β) c = (.raise e, c') :=
  Prog.bind_ret h

/-- Another one that it raises takes its place. -/
theorem rethrow_raise {β : Type} {e e' : Raised} (h : throwInto stream e c = (.raise e', c')) :
    (rethrow stream e : Prog (stream.State × ω) Raised β) c = (.raise e', c') :=
  Prog.bind_raise h

theorem rethrow_stuck {β : Type} {e : Raised} (h : throwInto stream e c = (.stuck, c')) :
    (rethrow stream e : Prog (stream.State × ω) Raised β) c = (.stuck, c') :=
  Prog.bind_stuck h

/-- A message that is consumed leads to the next. -/
theorem loop_consumed (h : stream.anext c = (.ret (some a), (s, w)))
    (hbody : body a w = (.ret (), w')) :
    Prog.loop (n + 1) (round stream body) c = Prog.loop n (round stream body) (s, w') := by
  have hround : round stream body c = (.ret true, (s, w')) :=
    (Prog.bind_ret h).trans (Prog.bind_ret (Prog.attempt_ret (onWorld_ret hbody)))
  exact Prog.bind_ret hround

/-- A consumer that raises has its exception thrown into the stream. -/
theorem loop_thrown {e : Raised} (h : stream.anext c = (.ret (some a), (s, w)))
    (hbody : body a w = (.raise e, w')) :
    Prog.loop (n + 1) (round stream body) c = rethrow stream e (s, w') := by
  have hround : round stream body c = rethrow stream e (s, w') :=
    (Prog.bind_ret h).trans (Prog.bind_ret (Prog.attempt_raise (onWorld_raise hbody)))
  cases ht : throwInto stream e (s, w') with
  | mk o t =>
      cases o with
      | ret u =>
          rw [rethrow_ret ht] at hround ⊢
          exact Prog.bind_raise hround
      | raise e' =>
          rw [rethrow_raise ht] at hround ⊢
          exact Prog.bind_raise hround
      | stuck =>
          rw [rethrow_stuck ht] at hround ⊢
          exact Prog.bind_stuck hround

theorem loop_waiting (h : stream.anext c = (.ret (some a), (s, w)))
    (hbody : body a w = (.stuck, w')) :
    Prog.loop (n + 1) (round stream body) c = (.stuck, (s, w')) := by
  have hround : round stream body c = (.stuck, (s, w')) :=
    (Prog.bind_ret h).trans (Prog.bind_stuck (Prog.attempt_stuck (onWorld_stuck hbody)))
  exact Prog.bind_stuck hround

end Rounds

/-! ## An interceptor and what it wraps -/

section Simulation

variable {A : Raised → Prop} {b : Brackets ω Raised ι τ} {i : ι} {stream : Stream ω α} {token : τ}

/-- How a consumer of an interceptor ended, given how it would have ended on the
    responses: these are settled, and the interceptor is done. -/
def Settled (b : Brackets ω Raised ι τ) (i : ι) (stream : Stream ω α) (token : τ)
    (x : Outcome Raised Unit × (stream.State × ω))
    (y : Outcome Raised Unit × (Control τ stream.State × ω)) : Prop :=
  (y.1, y.2.2) = settle b i stream token x ∧ (y.1 ≠ .stuck → y.2.1 = .done)

/-- Equal runs settle alike. -/
theorem Settled.congr {x x' : Outcome Raised Unit × (stream.State × ω)}
    {y y' : Outcome Raised Unit × (Control τ stream.State × ω)} (hx : x = x') (hy : y = y')
    (h : Settled b i stream token x' y') : Settled b i stream token x y :=
  hx ▸ hy ▸ h

/-- Two that wait for ever are alike. -/
theorem settled_stuck {r : stream.State × ω} {c : Control τ stream.State} :
    Settled b i stream token (.stuck, r) (.stuck, (c, r.2)) :=
  ⟨rfl, fun h => absurd rfl h⟩

/-- To settle a run is to come to what the interceptor comes to. -/
theorem settled_of_eq {x : Outcome Raised Unit × (stream.State × ω)}
    {y : Outcome Raised Unit × (Control τ stream.State × ω)} {F : Outcome Raised Unit × ω}
    (hx : settle b i stream token x = F) (hy : y = (F.1, (.done, F.2))) :
    Settled b i stream token x y := by
  subst hy
  exact ⟨hx.symm, fun _ => rfl⟩

/-- A stream that has ended ends the loop, with its outcome. -/
theorem loop_ended {S : Stream ω α} {body : α → Prog ω Raised Unit} {n : Nat}
    {c : S.State × ω} {done : S.State} {w : ω} {x : Prog ω Raised Unit}
    (h : S.anext c = ended x (done, w)) :
    Prog.loop (n + 1) (round S body) c = ((x w).1, (done, (x w).2)) := by
  cases hx : x w with
  | mk o w' =>
      cases o with
      | ret u =>
          have hended : (ended x : Prog (S.State × ω) Raised (Option α)) (done, w)
              = (.ret none, (done, w')) := Prog.bind_ret (onWorld_ret hx)
          exact loop_none (h.trans hended)
      | raise e =>
          have hended : (ended x : Prog (S.State × ω) Raised (Option α)) (done, w)
              = (.raise e, (done, w')) := Prog.bind_raise (onWorld_raise hx)
          exact loop_raise (h.trans hended)
      | stuck =>
          have hended : (ended x : Prog (S.State × ω) Raised (Option α)) (done, w)
              = (.stuck, (done, w')) := Prog.bind_stuck (onWorld_stuck hx)
          exact loop_stuck (h.trans hended)

/-- An exit is not thrown in: the stream is closed. -/
theorem throwInto_exit {e : Raised} (he : e.isExit = true) :
    throwInto stream e = aclose stream := by
  rw [throwInto]
  cases stream.athrow with
  | none => rfl
  | some athrow => exact if_pos he

/-- Any other exception is thrown in, and a stream that goes on is closed. -/
theorem throwInto_athrow {S : Stream ω α} {e : Raised}
    {athrow : Raised → Prog (S.State × ω) Raised (Option α)} (hathrow : S.athrow = some athrow)
    (he : e.isExit = false) :
    throwInto S e = (do
      let thrown ← Prog.attempt (athrow e)
      match thrown with
      | .ok none => pure ()
      | .ok (some _) => aclose S
      | .error e' => if e'.contains e then pure () else Prog.raise e') := by
  rw [throwInto, hathrow]
  dsimp only
  rw [he]
  rfl

/-- What a stream that ends with an exception makes of one that is thrown in. -/
theorem rethrow_ended {S : Stream ω α} {e : Raised} {c : S.State × ω} {done : S.State} {w : ω}
    {athrow : Raised → Prog (S.State × ω) Raised (Option α)} (hathrow : S.athrow = some athrow)
    (he : e.isExit = false) {x : Prog ω Raised Unit} (hx : ∀ u, (x w).1 ≠ .ret u)
    (hdistinct : Raises (Distinct e) x) (h : athrow e c = ended x (done, w)) :
    rethrow S e c = ((x w).1, (done, (x w).2)) := by
  have hthrow := congrFun (throwInto_athrow hathrow he) c
  cases hxw : x w with
  | mk o w' =>
      cases o with
      | ret u => exact absurd (congrArg Prod.fst hxw) (hx u)
      | raise ef =>
          have hended : athrow e c = (.raise ef, (done, w')) :=
            h.trans (Prog.bind_raise (onWorld_raise hxw))
          rw [Prog.bind_ret (Prog.attempt_raise hended)] at hthrow
          dsimp only at hthrow
          by_cases hc : ef.contains e = true
          · rw [if_pos hc] at hthrow
            rw [hdistinct w ef (congrArg Prod.fst hxw) hc]
            exact rethrow_ret hthrow
          · rw [if_neg hc] at hthrow
            exact rethrow_raise hthrow
      | stuck =>
          have hended : athrow e c = (.stuck, (done, w')) :=
            h.trans (Prog.bind_stuck (onWorld_stuck hxw))
          rw [Prog.bind_stuck (Prog.attempt_stuck hended)] at hthrow
          exact rethrow_stuck hthrow

/-- An exception settles the stream and its interceptor alike. -/
theorem rethrow_settled_exception (h : Orderly A stream) (hb : Tactful A b) {e : Raised} (ha : A e)
    (he : e.isExit = false) (responses : stream.State) (w : ω) :
    Settled b i stream token (rethrow stream e (responses, w))
      (rethrow (interceptStream b i stream) e (.suspended token responses, w)) := by
  have hapart : ∀ e', e'.Apart A → Distinct e e' := fun e' he' => he'.distinct ha
  have hgo : ∀ {e' : Raised} {r : stream.State × ω}, Distinct e e' →
      (rethrow stream e (responses, w) : Outcome Raised Unit × _) = (.raise e', r) →
      goOn b i stream token (rethrow stream e) responses (.suspended token responses, w)
        = ended (finish b i stream token (.error e') r.1) (.done, r.2) →
      Settled b i stream token (rethrow stream e (responses, w))
        (rethrow (interceptStream b i stream) e (.suspended token responses, w)) := by
    intro e' r hdistinct hx hgo
    refine .congr hx rfl (settled_of_eq rfl (rethrow_ended rfl he ?_ ?_ hgo))
    · exact finish_error_ne_ret e' r.1 r.2
    · refine raises_finish h hb hapart ?_ r.1
      rintro e'' ⟨⟩
      exact hdistinct
  cases ht : throwInto stream e (responses, w) with
  | mk o r =>
      cases o with
      | ret u =>
          refine hgo (fun _ => rfl) (rethrow_ret ht) ?_
          rw [goOn, rethrow_ret ht]
      | raise e' =>
          refine hgo ?_ (rethrow_raise ht) ?_
          · exact raises_throwInto h ha (responses, w) e' (congrArg Prod.fst ht)
          · rw [goOn, rethrow_raise ht]
      | stuck =>
          have hgo' : goOn b i stream token (rethrow stream e) responses
              (.suspended token responses, w) = (.stuck, (.done, r.2)) := by
            rw [goOn, rethrow_stuck ht]
          have hthrow : throwInto (interceptStream b i stream) e (.suspended token responses, w)
              = (.stuck, (.done, r.2)) := by
            rw [throwInto_athrow rfl he]
            exact Prog.bind_stuck (Prog.attempt_stuck hgo')
          exact .congr (rethrow_stuck ht) (rethrow_stuck hthrow) settled_stuck

section Close

variable {responses : stream.State} {w w₁ w₂ : ω} {x : Prog ω Raised Unit} {e : Raised}

/-- Closing an interceptor swallows the `GeneratorExit` that it throws in. -/
theorem aclose_exit (h : goOn b i stream token (rethrow stream .generatorExit) responses
      (.suspended token responses, w) = ended x (.done, w₁))
    (hx : x w₁ = (.raise e, w₂)) (he : e.isExit = true) :
    aclose (interceptStream b i stream) (.suspended token responses, w)
      = (.ret (), (.done, w₂)) := by
  have hended := h.trans (Prog.bind_raise (onWorld_raise hx))
  refine (Prog.bind_ret (Prog.attempt_raise hended)).trans ?_
  dsimp only
  rw [if_pos he]
  rfl

/-- A stream that raises when it is closed. -/
theorem aclose_raise (h : goOn b i stream token (rethrow stream .generatorExit) responses
      (.suspended token responses, w) = ended x (.done, w₁))
    (hx : x w₁ = (.raise e, w₂)) (he : e.isExit = false) :
    aclose (interceptStream b i stream) (.suspended token responses, w)
      = (.raise e, (.done, w₂)) := by
  have hended := h.trans (Prog.bind_raise (onWorld_raise hx))
  refine (Prog.bind_ret (Prog.attempt_raise hended)).trans ?_
  dsimp only
  rw [he]
  rfl

/-- A stream that waits for ever when it is closed. -/
theorem aclose_stuck (h : goOn b i stream token (rethrow stream .generatorExit) responses
      (.suspended token responses, w) = ended x (.done, w₁))
    (hx : x w₁ = (.stuck, w₂)) :
    aclose (interceptStream b i stream) (.suspended token responses, w)
      = (.stuck, (.done, w₂)) := by
  have hended := h.trans (Prog.bind_stuck (onWorld_stuck hx))
  exact Prog.bind_stuck (Prog.attempt_stuck hended)

end Close

/-- Closing an interceptor closes the responses. -/
theorem rethrow_settled_exit (h : Orderly A stream) (hb : Tactful A b) {e : Raised}
    (he : e.isExit = true) (responses : stream.State) (w : ω) :
    Settled b i stream token (rethrow stream e (responses, w))
      (rethrow (interceptStream b i stream) e (.suspended token responses, w)) := by
  have houter : throwInto (interceptStream b i stream) e = aclose (interceptStream b i stream) :=
    throwInto_exit he
  -- An exception that is not a `GeneratorExit` passes through.
  have hraised : ∀ {x : Prog ω Raised Unit} {w₁ : ω}, (∀ u, (x w₁).1 ≠ .ret u) →
      (∀ ef, (x w₁).1 = .raise ef → ef.Apart A) →
      goOn b i stream token (rethrow stream .generatorExit) responses
        (.suspended token responses, w) = ended x (.done, w₁) →
      rethrow (interceptStream b i stream) e (.suspended token responses, w)
        = (((x w₁).1 : Outcome Raised Unit), (.done, (x w₁).2)) := by
    intro x w₁ hne hx hgo
    cases hxw : x w₁ with
    | mk o w₂ =>
        cases o with
        | ret u => exact absurd (congrArg Prod.fst hxw) (hne u)
        | raise ef =>
            have hclose := aclose_raise hgo hxw (hx ef (congrArg Prod.fst hxw)).exit
            exact rethrow_raise ((congrFun houter _).trans hclose)
        | stuck => exact rethrow_stuck ((congrFun houter _).trans (aclose_stuck hgo hxw))
  have hinner : ∀ {e' : Raised}, e'.isExit = true → throwInto stream e' = aclose stream :=
    throwInto_exit
  cases hclose : aclose stream (responses, w) with
  | mk o r =>
      cases o with
      | ret u =>
          have hx : (rethrow stream e (responses, w) : Outcome Raised Unit × _) = (.raise e, r) :=
            rethrow_ret ((congrFun (hinner he) _).trans hclose)
          have hgo : goOn b i stream token (rethrow stream .generatorExit) responses
              (.suspended token responses, w)
              = ended (finish b i stream token (.error .generatorExit) r.1) (.done, r.2) := by
            rw [goOn, rethrow_ret ((congrFun (hinner rfl) _).trans hclose)]
          rcases finish_exit h hb he Raised.isExit_generatorExit r.1 r.2 with
            ⟨w', hf, hf'⟩ | ⟨heq, hpl⟩
          · have hclosed := aclose_exit hgo hf' rfl
            refine .congr hx (rethrow_ret ((congrFun houter _).trans hclosed)) ?_
            exact settled_of_eq hf rfl
          · refine .congr hx (hraised (finish_error_ne_ret _ _ _) ?_ hgo) ?_
            · rw [heq]
              exact hpl
            · rw [heq]
              exact settled_of_eq rfl rfl
      | raise e' =>
          have he' : e'.Apart A := h (responses, w) e' (congrArg Prod.fst hclose)
          have hx : (rethrow stream e (responses, w) : Outcome Raised Unit × _) = (.raise e', r) :=
            rethrow_raise ((congrFun (hinner he) _).trans hclose)
          have hgo : goOn b i stream token (rethrow stream .generatorExit) responses
              (.suspended token responses, w)
              = ended (finish b i stream token (.error e') r.1) (.done, r.2) := by
            rw [goOn, rethrow_raise ((congrFun (hinner rfl) _).trans hclose)]
          refine .congr hx (hraised (finish_error_ne_ret _ _ _) ?_ hgo) (settled_of_eq rfl rfl)
          refine raises_finish h hb (fun _ hp => hp) ?_ r.1 r.2
          rintro e'' ⟨⟩
          exact he'
      | stuck =>
          have hx : (rethrow stream e (responses, w) : Outcome Raised Unit × _) = (.stuck, r) :=
            rethrow_stuck ((congrFun (hinner he) _).trans hclose)
          have hgo : goOn b i stream token (rethrow stream .generatorExit) responses
              (.suspended token responses, w) = (.stuck, (.done, r.2)) := by
            rw [goOn, rethrow_stuck ((congrFun (hinner rfl) _).trans hclose)]
          have hclosed : aclose (interceptStream b i stream) (.suspended token responses, w)
              = (.stuck, (.done, r.2)) := Prog.bind_stuck (Prog.attempt_stuck hgo)
          exact .congr hx (rethrow_stuck ((congrFun houter _).trans hclosed)) settled_stuck

/-- **What is thrown into an interceptor** is thrown into the responses, and comes out
    again. -/
theorem rethrow_settled (h : Orderly A stream) (hb : Tactful A b) {e : Raised} (ha : A e)
    (responses : stream.State) (w : ω) :
    Settled b i stream token (rethrow stream e (responses, w))
      (rethrow (interceptStream b i stream) e (.suspended token responses, w)) := by
  cases he : e.isExit with
  | true => exact rethrow_settled_exit h hb he responses w
  | false => exact rethrow_settled_exception h hb ha he responses w

/-- **A consumer of an interceptor** does what it does to the responses.  By induction on
    its rounds. -/
theorem loop_settled (h : Orderly A stream) (hb : Tactful A b) {body : α → Prog ω Raised Unit}
    (hbody : ∀ a, Raises A (body a)) (n : Nat) (responses : stream.State) (w : ω) :
    Settled b i stream token (Prog.loop n (round stream body) (responses, w))
      (Prog.loop n (round (interceptStream b i stream) body)
        (.suspended token responses, w)) := by
  induction n generalizing responses w with
  | zero => exact settled_stuck
  | succ n ih =>
      have hnext : (interceptStream b i stream).anext (.suspended token responses, w)
          = goOn b i stream token stream.anext responses (.suspended token responses, w) := rfl
      cases ha : stream.anext (responses, w) with
      | mk o r =>
          rw [goOn, ha] at hnext
          rcases o with (_ | a) | e | _
          · exact .congr (loop_none ha) rfl (settled_of_eq rfl (loop_ended hnext))
          · cases hrun : body a r.2 with
            | mk o w' =>
                cases o with
                | ret u =>
                    exact .congr (loop_consumed ha hrun) (loop_consumed hnext hrun) (ih r.1 w')
                | raise e =>
                    have he : A e := hbody a r.2 e (congrArg Prod.fst hrun)
                    exact .congr (loop_thrown ha hrun) (loop_thrown hnext hrun)
                      (rethrow_settled h hb he r.1 w')
                | stuck =>
                    exact .congr (loop_waiting ha hrun) (loop_waiting hnext hrun) settled_stuck
          · exact .congr (loop_raise ha) rfl (settled_of_eq rfl (loop_ended hnext))
          · exact .congr (loop_stuck ha) (loop_stuck hnext) settled_stuck

/-- A generator that has ended is closed without more ado. -/
theorem runFrom_always_done {x : Prog (Control τ stream.State × ω) Raised Unit}
    {c : Control τ stream.State} {w : ω}
    (h : (x (c, w)).1 ≠ .stuck → (x (c, w)).2.1 = .done) :
    runFrom c (Prog.always x (aclose (interceptStream b i stream))) w
      = ((x (c, w)).1, (x (c, w)).2.2) := by
  cases hx : x (c, w) with
  | mk o r =>
      obtain ⟨c', w'⟩ := r
      rw [hx] at h
      cases o with
      | stuck => simp only [runFrom, Prog.always, hx]
      | ret u =>
          obtain rfl : c' = .done := h (by rintro ⟨⟩)
          simp only [runFrom, Prog.always, hx]
          rfl
      | raise e =>
          obtain rfl : c' = .done := h (by rintro ⟨⟩)
          simp only [runFrom, Prog.always, hx]
          rfl

end Simulation

/-! ## Consuming through interceptors -/

section Nest

variable {A : Raised → Prop} {b : Brackets ω Raised ι τ}

/-- **ONE INTERCEPTOR**: to consume a stream through it is to run it around the
    consumption. -/
theorem consume_intercept {stream : Stream ω α} (h : Orderly A stream) (hb : Tactful A b) (i : ι)
    (n : Nat) {body : α → Prog ω Raised Unit} (hbody : ∀ a, Raises A (body a)) :
    consume n body (interceptStream b i stream) = b.around i (consume n body stream) := by
  funext w
  -- What the rounds leave is what the consumer leaves.
  have hrounds : ∀ y, Prog.loop (n + 1) (round (interceptStream b i stream) body) (.unstarted, w)
      = y → (y.1 ≠ .stuck → y.2.1 = .done) →
      consume n body (interceptStream b i stream) w = (y.1, y.2.2) := by
    rintro _ rfl hdone
    exact runFrom_always_done hdone
  have hbegin : (interceptStream b i stream).anext (.unstarted, w)
      = begin b i stream (.done, w) := rfl
  cases henter : b.enter i w with
  | mk o w₁ =>
      cases o with
      | raise e =>
          have hnext := hbegin.trans (Prog.bind_raise (onWorld_raise henter))
          rw [hrounds _ (loop_raise hnext) fun _ => rfl]
          exact (Prog.bind_raise henter).symm
      | stuck =>
          have hnext := hbegin.trans (Prog.bind_stuck (onWorld_stuck henter))
          rw [hrounds _ (loop_stuck hnext) fun _ => rfl]
          exact (Prog.bind_stuck henter).symm
      | ret token =>
          have haround : b.around i (consume n body stream) w = (do
              let outcome ← Prog.attempt (consume n body stream)
              leaving b i token outcome) w₁ := Prog.bind_ret henter
          rw [haround]
          have hentered := hbegin.trans (Prog.bind_ret (onWorld_ret henter))
          cases hcreate : stream.create w₁ with
          | mk o w₂ =>
              cases o with
              | raise e =>
                  have hnext := hentered.trans
                    (Prog.bind_ret (Prog.attempt_raise (onWorld_raise hcreate)))
                  have hleft : (do
                      let outcome ← Prog.attempt (consume n body stream)
                      leaving b i token outcome) w₁ = leaving b i token (.error e) w₂ :=
                    Prog.bind_ret (Prog.attempt_raise (Prog.bind_raise hcreate))
                  exact (hrounds _ (loop_ended hnext) fun _ => rfl).trans hleft.symm
              | stuck =>
                  have hnext := hentered.trans
                    (Prog.bind_stuck (Prog.attempt_stuck (onWorld_stuck hcreate)))
                  rw [hrounds _ (loop_stuck hnext) fun _ => rfl]
                  exact (Prog.bind_stuck (Prog.attempt_stuck (Prog.bind_stuck hcreate))).symm
              | ret responses =>
                  have hnext := hentered.trans
                    (Prog.bind_ret (Prog.attempt_ret (onWorld_ret hcreate)))
                  have hloop : Prog.loop (n + 1) (round (interceptStream b i stream) body)
                      (.unstarted, w)
                      = Prog.loop (n + 1) (round (interceptStream b i stream) body)
                        (.suspended token responses, w₂) :=
                    Prog.bind_congr (Prog.bind_congr hnext)
                  have hsettled : Settled b i stream token _ _ :=
                    loop_settled h hb hbody (n + 1) responses w₂
                  refine (hrounds _ hloop hsettled.2).trans (hsettled.1.trans ?_)
                  rw [← leave_always]
                  have hopen : consume n body stream w₁ = runFrom responses
                      (Prog.always (Prog.loop (n + 1) (round stream body)) (aclose stream)) w₂ :=
                    Prog.bind_ret hcreate
                  exact Prog.attempt_bind_congr hopen.symm

/-- Closing an interceptor is as orderly as closing the responses. -/
theorem interceptStream_orderly {stream : Stream ω α} (h : Orderly A stream) (hb : Tactful A b)
    (i : ι) : Orderly A (interceptStream b i stream) := by
  rintro ⟨c, w⟩ e he
  cases c with
  | unstarted => cases he
  | done => cases he
  | suspended token responses =>
      have hinner : throwInto stream .generatorExit = aclose stream := throwInto_exit rfl
      -- Either the interceptor is left with an exception of this kind, or it waits.
      have hleft : ∀ (x : Prog ω Raised Unit) (w₁ : ω),
          goOn b i stream token (rethrow stream .generatorExit) responses
            (.suspended token responses, w) = ended x (.done, w₁) →
          (∀ u, (x w₁).1 ≠ .ret u) →
          (∀ ef, (x w₁).1 = .raise ef → ef.isExit = true ∨ ef.Apart A) → e.Apart A := by
        intro x w₁ hgo hne hx
        cases hxw : x w₁ with
        | mk o w₂ =>
            cases o with
            | ret u => exact absurd (congrArg Prod.fst hxw) (hne u)
            | stuck =>
                rw [aclose_stuck hgo hxw] at he
                cases he
            | raise ef =>
                rcases hx ef (congrArg Prod.fst hxw) with hexit | hapart
                · rw [aclose_exit hgo hxw hexit] at he
                  cases he
                · rw [aclose_raise hgo hxw hapart.exit] at he
                  cases he
                  exact hapart
      cases hclose : aclose stream (responses, w) with
      | mk o r =>
          cases o with
          | ret u =>
              refine hleft (finish b i stream token (.error .generatorExit) r.1) r.2
                ?_ (finish_error_ne_ret _ _ _) fun ef hef => ?_
              · rw [goOn, rethrow_ret ((congrFun hinner _).trans hclose)]
              · rcases finish_exit h hb Raised.isExit_generatorExit Raised.isExit_generatorExit
                  r.1 r.2 with ⟨w', hf, -⟩ | ⟨-, hapart⟩
                · rw [hf] at hef
                  cases hef
                  exact .inl rfl
                · exact .inr (hapart ef hef)
          | raise e' =>
              refine hleft (finish b i stream token (.error e') r.1) r.2
                ?_ (finish_error_ne_ret _ _ _) fun ef hef => .inr ?_
              · rw [goOn, rethrow_raise ((congrFun hinner _).trans hclose)]
              · refine raises_finish h hb (fun _ ha => ha) ?_ r.1 r.2 ef hef
                rintro e'' ⟨⟩
                exact h (responses, w) e' (congrArg Prod.fst hclose)
          | stuck =>
              have hgo : goOn b i stream token (rethrow stream .generatorExit) responses
                  (.suspended token responses, w) = (.stuck, (.done, r.2)) := by
                rw [goOn, rethrow_stuck ((congrFun hinner _).trans hclose)]
              have hclosed : aclose (interceptStream b i stream) (.suspended token responses, w)
                  = (.stuck, (.done, r.2)) := Prog.bind_stuck (Prog.attempt_stuck hgo)
              rw [hclosed] at he
              cases he

/-- Interceptors around a stream, the first outermost. -/
def nestStream (b : Brackets ω Raised ι τ) (is : List ι) (stream : Stream ω α) : Stream ω α :=
  is.foldr (interceptStream b) stream

/-- A nest of interceptors is as orderly as the stream within it. -/
theorem nestStream_orderly {stream : Stream ω α} (h : Orderly A stream) (hb : Tactful A b)
    (is : List ι) : Orderly A (nestStream b is stream) := by
  induction is with
  | nil => exact h
  | cons i is ih => exact interceptStream_orderly ih hb i

/-- **CONSUMING A NEST** of generators is running the nest of the interceptors around the
    consumption.  By induction on the interceptors. -/
theorem consume_nest {stream : Stream ω α} (h : Orderly A stream) (hb : Tactful A b)
    (is : List ι) (n : Nat) {body : α → Prog ω Raised Unit} (hbody : ∀ a, Raises A (body a)) :
    consume n body (nestStream b is stream) = b.nest is (consume n body stream) := by
  induction is with
  | nil => rfl
  | cons i is ih =>
      refine (consume_intercept (nestStream_orderly h hb is) hb i n hbody).trans ?_
      rw [ih]
      rfl

end Nest

/-! ## The loop of the server -/

/-- `_close_response_stream`, on a loop whose cleanup awaits as usual. -/
def closeResponseStream (loop : Loop) (stream : Stream ω α) :
    Except Raised Unit → Prog (stream.State × ω) Raised Unit
  | .ok () => aclose stream
  | .error error =>
      if loop.isCancellation error then
        Prog.rescue (throwInto stream error) fun e =>
          if e.isException then pure () else Prog.raise e
      else throwInto stream error

/-- What the server does about how its loop ended. -/
def settleResponses (loop : Loop) (stream : Stream ω α) (x : Prog (stream.State × ω) Raised Unit) :
    Prog (stream.State × ω) Raised Unit := do
  let outcome ← Prog.attempt x
  closeResponseStream loop stream outcome
  Prog.ofExcept outcome

/-- One round of `async for message in response_stream`. -/
def sendRound (stream : Stream ω α) (send : α → Prog ω Raised Unit) :
    Prog (stream.State × ω) Raised Bool := do
  let message ← stream.anext
  match message with
  | none => pure false
  | some a => do
      onWorld (send a)
      pure true

/-- `_stream_responses` of a method with a response stream; `send` is the body of its
    loop. -/
def streamResponses (loop : Loop) (n : Nat) (send : α → Prog ω Raised Unit)
    (stream : Stream ω α) : Prog ω Raised Unit := do
  let responses ← stream.create
  runFrom responses (settleResponses loop stream (Prog.loop (n + 1) (sendRound stream send)))

/-- A stream that is over once it has ended or raised, was thrown into or closed; doing
    so again changes nothing. -/
structure Generator (stream : Stream ω α) (Over : stream.State → Prop) : Prop where
  ended  : ∀ {c c'}, stream.anext c = (.ret none, c') → Over c'.1
  raised : ∀ {c c' e}, stream.anext c = (.raise e, c') → Over c'.1
  thrown : ∀ {c c' o} e, throwInto stream e c = (o, c') → o ≠ .stuck → Over c'.1
  close  : ∀ {c}, Over c.1 → aclose stream c = (.ret (), c)
  throw  : ∀ {c} e, Over c.1 → throwInto stream e c = (.ret (), c)

section Server

variable {stream : Stream ω α} {Over : stream.State → Prop} {send : α → Prog ω Raised Unit}

/-- Closing a stream that is over. -/
theorem Generator.closed_again (h : Generator stream Over) (loop : Loop)
    (outcome : Except Raised Unit) {c : stream.State × ω} (hc : Over c.1) :
    closeResponseStream loop stream outcome c = (.ret (), c) := by
  cases outcome with
  | ok u => exact h.close hc
  | error e =>
      rw [closeResponseStream]
      split
      · exact Prog.rescue_ret (h.throw e hc)
      · exact h.throw e hc

/-- Consuming a generator leaves it over. -/
theorem Generator.always_close (h : Generator stream Over) {x : Prog (stream.State × ω) Raised Unit}
    {c c' : stream.State × ω} {o : Outcome Raised Unit} (hx : x c = (o, c'))
    (ho : o ≠ .stuck → Over c'.1) : Prog.always x (aclose stream) c = (o, c') := by
  cases o with
  | stuck => rw [Prog.always, hx]
  | ret u =>
      have hc := h.close (ho (by rintro ⟨⟩))
      rw [Prog.always, hx]
      dsimp only
      rw [hc]
  | raise e =>
      have hc := h.close (ho (by rintro ⟨⟩))
      rw [Prog.always, hx]
      dsimp only
      rw [hc]

/-- What throws into a generator leaves it over. -/
theorem Generator.always_rethrow (h : Generator stream Over)
    {x : Prog (stream.State × ω) Raised Unit} {c c' : stream.State × ω} {e : Raised}
    (hx : x c = rethrow stream e c') :
    Prog.always x (aclose stream) c = rethrow stream e c' := by
  cases ht : throwInto stream e c' with
  | mk o t =>
      cases o with
      | ret u =>
          rw [rethrow_ret ht] at hx ⊢
          exact h.always_close hx fun _ => h.thrown e ht (by rintro ⟨⟩)
      | raise e' =>
          rw [rethrow_raise ht] at hx ⊢
          exact h.always_close hx fun _ => h.thrown e ht (by rintro ⟨⟩)
      | stuck =>
          rw [rethrow_stuck ht] at hx ⊢
          exact h.always_close hx fun hne => absurd rfl hne

/-- Nothing, when the stream has ended or raised. -/
theorem Generator.settle_over (h : Generator stream Over) (loop : Loop)
    {x : Prog (stream.State × ω) Raised Unit} {c c' : stream.State × ω} (hc : Over c'.1)
    {o : Outcome Raised Unit} (hx : x c = (o, c')) (ho : o ≠ .stuck) :
    settleResponses loop stream x c = (o, c') := by
  cases o with
  | stuck => exact absurd rfl ho
  | ret u =>
      exact (Prog.bind_ret (Prog.attempt_ret hx)).trans (Prog.bind_ret (h.closed_again loop _ hc))
  | raise e =>
      exact (Prog.bind_ret (Prog.attempt_raise hx)).trans
        (Prog.bind_ret (h.closed_again loop _ hc))

/-- An exception that is not a cancellation is thrown into the stream. -/
theorem settle_thrown {loop : Loop} {x : Prog (stream.State × ω) Raised Unit}
    {c c' : stream.State × ω} {e : Raised} (hx : x c = (.raise e, c'))
    (he : loop.isCancellation e = false) :
    settleResponses loop stream x c = rethrow stream e c' := by
  have hclose : closeResponseStream loop stream (.error e) = throwInto stream e := by
    rw [closeResponseStream, he]
    rfl
  refine (Prog.bind_ret (Prog.attempt_raise hx)).trans ?_
  rw [hclose]
  rfl

/-- **The server's loop** closes a generator as an interceptor does.  By induction on the
    messages. -/
theorem Generator.loop_eq (h : Generator stream Over) {loop : Loop} {A : Raised → Prop}
    (hA : ∀ e, A e → loop.isCancellation e = false) (hsend : ∀ a, Raises A (send a)) (n : Nat)
    (c : stream.State × ω) :
    Prog.always (Prog.loop n (round stream send)) (aclose stream) c
      = settleResponses loop stream (Prog.loop n (sendRound stream send)) c := by
  induction n generalizing c with
  | zero => rfl
  | succ n ih =>
      -- What the stream does with the next round decides.
      cases ha : stream.anext c with
      | mk o c' =>
          rcases o with (_ | a) | e | _
          · have hround : sendRound stream send c = (.ret false, c') := Prog.bind_ret ha
            have hsent : Prog.loop (n + 1) (sendRound stream send) c = (.ret (), c') :=
              Prog.bind_ret hround
            rw [h.always_close (loop_none ha) fun _ => h.ended ha]
            exact (h.settle_over loop (h.ended ha) hsent (by rintro ⟨⟩)).symm
          · cases hrun : send a c'.2 with
            | mk o w =>
                have hround : sendRound stream send c = (do
                    onWorld (send a)
                    pure true) c' := Prog.bind_ret ha
                cases o with
                | ret u =>
                    have hsent : Prog.loop (n + 1) (sendRound stream send) c
                        = Prog.loop n (sendRound stream send) (c'.1, w) :=
                      Prog.bind_ret (hround.trans (Prog.bind_ret (onWorld_ret hrun)))
                    rw [Prog.always_congr (loop_consumed ha hrun), ih]
                    exact (Prog.attempt_bind_congr hsent).symm
                | raise e =>
                    have hsent : Prog.loop (n + 1) (sendRound stream send) c
                        = (.raise e, (c'.1, w)) :=
                      Prog.bind_raise (hround.trans (Prog.bind_raise (onWorld_raise hrun)))
                    -- The consumer raises, which is no cancellation: the exception is thrown
                    -- in.
                    have he : loop.isCancellation e = false :=
                      hA e (hsend a c'.2 e (congrArg Prod.fst hrun))
                    rw [settle_thrown hsent he]
                    exact h.always_rethrow (loop_thrown ha hrun)
                | stuck =>
                    have hsent : Prog.loop (n + 1) (sendRound stream send) c
                        = (.stuck, (c'.1, w)) :=
                      Prog.bind_stuck (hround.trans (Prog.bind_stuck (onWorld_stuck hrun)))
                    rw [h.always_close (loop_waiting ha hrun) fun hne => absurd rfl hne]
                    exact (Prog.bind_stuck (Prog.attempt_stuck hsent)).symm
          · have hsent : Prog.loop (n + 1) (sendRound stream send) c = (.raise e, c') :=
              Prog.bind_raise (Prog.bind_raise ha)
            rw [h.always_close (loop_raise ha) fun _ => h.raised ha]
            exact (h.settle_over loop (h.raised ha) hsent (by rintro ⟨⟩)).symm
          · have hsent : Prog.loop (n + 1) (sendRound stream send) c = (.stuck, c') :=
              Prog.bind_stuck (Prog.bind_stuck ha)
            rw [h.always_close (loop_stuck ha) fun hne => absurd rfl hne]
            exact (Prog.bind_stuck (Prog.attempt_stuck hsent)).symm

/-- The server does to a generator what an interceptor does. -/
theorem Generator.streamResponses_eq (h : Generator stream Over) {loop : Loop}
    {A : Raised → Prop} (hA : ∀ e, A e → loop.isCancellation e = false)
    (hsend : ∀ a, Raises A (send a)) (n : Nat) :
    streamResponses loop n send stream = consume n send stream := by
  rw [streamResponses, consume]
  congr 1
  funext responses w
  rw [runFrom, runFrom, h.loop_eq hA hsend]

end Server

section Control

variable {b : Brackets ω Raised ι τ} {i : ι} {stream : Stream ω α} {token : τ}

/-- A stream that has ended has no message. -/
theorem ended_ne_some {S : Type} (x : Prog ω Raised Unit) (c : S × ω) (a : α) :
    (ended x c : Outcome Raised (Option α) × (S × ω)).1 ≠ .ret (some a) := by
  rw [ended]
  cases h : x c.2 with
  | mk o w =>
      have hx : (c.1, c.2) = c := rfl
      cases o with
      | ret u => rw [← hx, Prog.bind_ret (onWorld_ret h)]; rintro ⟨⟩
      | raise e => rw [← hx, Prog.bind_raise (onWorld_raise h)]; rintro ⟨⟩
      | stuck => rw [← hx, Prog.bind_stuck (onWorld_stuck h)]; rintro ⟨⟩

/-- And is where it ended. -/
theorem ended_state {S : Type} (x : Prog ω Raised Unit) (c : S × ω) :
    (ended x c : Outcome Raised (Option α) × (S × ω)).2.1 = c.1 := by
  rw [ended]
  cases h : x c.2 with
  | mk o w =>
      have hx : (c.1, c.2) = c := rfl
      cases o with
      | ret u => rw [← hx, Prog.bind_ret (onWorld_ret h)]; rfl
      | raise e => rw [← hx, Prog.bind_raise (onWorld_raise h)]
      | stuck => rw [← hx, Prog.bind_stuck (onWorld_stuck h)]

/-- An interceptor that does not yield a message is done. -/
theorem goOn_done (x : Prog (stream.State × ω) Raised (Option α)) (responses : stream.State)
    (c : Control τ stream.State × ω)
    (h : ∀ a, (goOn b i stream token x responses c).1 ≠ .ret (some a)) :
    (goOn b i stream token x responses c).2.1 = .done := by
  rw [goOn] at h ⊢
  cases hx : x (responses, c.2) with
  | mk o r =>
      rw [hx] at h
      rcases o with (_ | a) | e | _
      · exact ended_state _ _
      · exact absurd rfl (h a)
      · exact ended_state _ _
      · rfl

/-- And what throws into the responses yields none. -/
theorem goOn_rethrow (e : Raised) (responses : stream.State) (c : Control τ stream.State × ω)
    (a : α) : (goOn b i stream token (rethrow stream e) responses c).1 ≠ .ret (some a) := by
  rw [goOn]
  cases ht : throwInto stream e (responses, c.2) with
  | mk o r =>
      cases o with
      | ret u => rw [rethrow_ret ht]; exact ended_ne_some _ _ a
      | raise e' => rw [rethrow_raise ht]; exact ended_ne_some _ _ a
      | stuck => rw [rethrow_stuck ht]; rintro ⟨⟩

/-- A stream that does not begin is done. -/
theorem begin_done (w : ω)
    (h : ∀ a, (begin (τ := τ) b i stream (.done, w)).1 ≠ .ret (some a)) :
    (begin (τ := τ) b i stream (.done, w)).2.1 = .done := by
  cases henter : b.enter i w with
  | mk o w₁ =>
      cases o with
      | raise e =>
          have hx : begin b i stream (.done, w) = (.raise e, (.done, w₁)) :=
            Prog.bind_raise (onWorld_raise henter)
          rw [hx]
      | stuck =>
          have hx : begin b i stream (.done, w) = (.stuck, (.done, w₁)) :=
            Prog.bind_stuck (onWorld_stuck henter)
          rw [hx]
      | ret token =>
          cases hcreate : stream.create w₁ with
          | mk o w₂ =>
              cases o with
              | ret responses =>
                  have hx : begin b i stream (.done, w)
                      = goOn b i stream token stream.anext responses (.done, w₂) :=
                    (Prog.bind_ret (onWorld_ret henter)).trans
                      (Prog.bind_ret (Prog.attempt_ret (onWorld_ret hcreate)))
                  rw [hx] at h ⊢
                  exact goOn_done _ _ _ h
              | raise e =>
                  have hx : begin b i stream (.done, w)
                      = ended (leaving b i token (.error e)) (.done, w₂) :=
                    (Prog.bind_ret (onWorld_ret henter)).trans
                      (Prog.bind_ret (Prog.attempt_raise (onWorld_raise hcreate)))
                  rw [hx]
                  exact ended_state _ _
              | stuck =>
                  have hx : begin b i stream (.done, w) = (.stuck, (.done, w₂)) :=
                    (Prog.bind_ret (onWorld_ret henter)).trans
                      (Prog.bind_stuck (Prog.attempt_stuck (onWorld_stuck hcreate)))
                  rw [hx]

/-- A stream without a next message is done. -/
theorem anext_done (c : Control τ stream.State × ω)
    (h : ∀ a, ((interceptStream b i stream).anext c).1 ≠ .ret (some a)) :
    ((interceptStream b i stream).anext c).2.1 = .done := by
  obtain ⟨_ | ⟨token, responses⟩ | _, w⟩ := c
  · exact begin_done w h
  · exact goOn_done _ _ _ h
  · rfl

/-- A stream that was closed is done. -/
theorem aclose_done (c : Control τ stream.State × ω) :
    (aclose (interceptStream b i stream) c).2.1 = .done := by
  obtain ⟨_ | ⟨token, responses⟩ | _, w⟩ := c
  · rfl
  · refine Prog.attempt_bind_keeps (P := fun c : Control τ stream.State × ω => c.1 = .done)
      (fun o c hc => ?_) (goOn_done (b := b) _ _ _ (goOn_rethrow .generatorExit responses _))
    rcases o with e | _ | a
    · dsimp only
      split
      · exact hc
      · exact hc
    · exact hc
    · exact hc
  · rfl

/-- And so is one that an exception was thrown into. -/
theorem throwInto_done (e : Raised) (c : Control τ stream.State × ω) :
    (throwInto (interceptStream b i stream) e c).2.1 = .done := by
  cases he : e.isExit with
  | true =>
      rw [throwInto_exit he]
      exact aclose_done c
  | false =>
      rw [throwInto_athrow rfl he]
      refine Prog.attempt_bind_keeps (P := fun c : Control τ stream.State × ω => c.1 = .done)
        (fun o c hc => ?_) ?_
      · rcases o with e' | _ | a
        · dsimp only
          split
          · exact hc
          · exact hc
        · exact hc
        · exact aclose_done c
      · obtain ⟨_ | ⟨token, responses⟩ | _, w⟩ := c
        · rfl
        · exact goOn_done _ _ _ (goOn_rethrow e responses _)
        · rfl

/-- **Every interceptor is a generator**, whatever it is around. -/
theorem interceptStream_generator (b : Brackets ω Raised ι τ) (i : ι) (stream : Stream ω α) :
    Generator (interceptStream b i stream) (fun c => c = .done) where
  ended := by
    intro c c' h
    have hdone : ((interceptStream b i stream).anext c).2.1 = .done :=
      anext_done c (by rw [h]; rintro a ⟨⟩)
    rw [h] at hdone
    exact hdone
  raised := by
    intro c c' e h
    have hdone : ((interceptStream b i stream).anext c).2.1 = .done :=
      anext_done c (by rw [h]; rintro a ⟨⟩)
    rw [h] at hdone
    exact hdone
  thrown := by
    intro c c' o e h _
    have hdone : (throwInto (interceptStream b i stream) e c).2.1 = .done := throwInto_done e c
    rw [h] at hdone
    exact hdone
  close := by
    rintro ⟨c, w⟩ rfl
    rfl
  throw := by
    rintro ⟨c, w⟩ e rfl
    cases he : e.isExit with
    | true =>
        rw [throwInto_exit he]
        rfl
    | false =>
        rw [throwInto_athrow rfl he]
        rfl

end Control

/-! ## Hoisting -/

/-- What the interceptors do.  A message interceptor makes another stream of the one it
    gets. -/
structure Hooks (ω ι μ τ α : Type) where
  onStart   : ι → Prog ω Raised τ
  onEnd     : ι → τ → Option Raised → Prog ω Raised Unit
  intercept : μ → Stream ω α → Stream ω α

/-- The invokers as brackets. -/
def Hooks.brackets (hooks : Hooks ω ι μ τ α) (loop : Loop) : Brackets ω Raised ι τ where
  enter := hooks.onStart
  leave := hooks.onEnd
  seen := loop.seen

/-- `_apply_interceptors`, on the stream of an endpoint; those that are for methods of its
    kind are the `unary` ones. -/
def applyInterceptors (hooks : Hooks ω ι μ τ α) (loop : Loop)
    (interceptors : List (Interceptor ι μ)) (stream : Stream ω α) : Stream ω α :=
  interceptors.foldr (fun interceptor func =>
    match interceptor with
    | .metadata i => interceptStream (hooks.brackets loop) i func
    | .unary m => hooks.intercept m func
    | .other => func) stream

/-- The leading ones are a nest around the others. -/
theorem applyInterceptors_eq (hooks : Hooks ω ι μ τ α) (loop : Loop)
    (interceptors : List (Interceptor ι μ)) (stream : Stream ω α) :
    applyInterceptors hooks loop interceptors stream
      = nestStream (hooks.brackets loop) (splitLeading interceptors).1
        (applyInterceptors hooks loop (splitLeading interceptors).2 stream) := by
  induction interceptors with
  | nil => rfl
  | cons interceptor rest ih =>
      cases interceptor with
      | metadata i => exact congrArg (interceptStream (hooks.brackets loop) i) ih
      | unary m => rfl
      | other => rfl

/-- The server's loop does to the nest what it does to the stream within. -/
theorem streamResponses_nest {stream : Stream ω α} {Over : stream.State → Prop}
    (h : Generator stream Over) {A : Raised → Prop} (horderly : Orderly A stream)
    {b : Brackets ω Raised ι τ} (hb : Tactful A b) {loop : Loop}
    (hA : ∀ e, A e → loop.isCancellation e = false) (is : List ι) (n : Nat)
    {send : α → Prog ω Raised Unit} (hsend : ∀ a, Raises A (send a)) :
    streamResponses loop n send (nestStream b is stream)
      = b.nest is (streamResponses loop n send stream) := by
  rw [h.streamResponses_eq hA hsend, ← consume_nest horderly hb is n hsend]
  cases is with
  | nil => exact h.streamResponses_eq hA hsend n
  | cons i is => exact (interceptStream_generator b i _).streamResponses_eq hA hsend n

/-- Interceptors of which none raises what was thrown in are tactful as brackets. -/
theorem tactful_brackets {hooks : Hooks ω ι μ τ α} {A : Raised → Prop}
    (honEnd : ∀ i token error, Raises (Raised.Apart A) (hooks.onEnd i token error)) (loop : Loop) :
    Tactful A (hooks.brackets loop) :=
  ⟨honEnd, fun _ => loop.seen_exit⟩

/-! ## The loops of the server -/

section Run

variable (hooks : Hooks ω ι μ τ α)

/-- `MetadataInterceptorsRun.start`, on what was started so far, the last first. -/
def startRun : List ι → Prog (List (ι × τ) × ω) Raised Unit
  | [] => pure ()
  | i :: is => do
      let token ← onWorld (hooks.onStart i)
      Prog.modify fun s => ((i, token) :: s.1, s.2)
      startRun is

/-- `MetadataInterceptorsRun.end`. -/
def endRun (loop : Loop) : List (ι × τ) → Option Raised → Option Raised →
    Prog ω Raised (Option Raised)
  | [], error, none => pure error
  | [], _, some cancellation => Prog.raise cancellation
  | (i, token) :: started, error, cancellation => do
      let ended ← Prog.attempt (hooks.onEnd i token error)
      match ended with
      | .ok () => endRun loop started error cancellation
      | .error e =>
          if e.isException then endRun loop started (some e) cancellation
          else if loop.isCancellation e then
            endRun loop started (some (.object 1 ConnectAsgi.requestCancelled)) (some e)
          else Prog.raise e

/-- What is reported: the error that is left after `end`, if any. -/
def finishRun (loop : Loop) (started : List (ι × τ)) (error : Option Raised) :
    Prog ω Raised Unit := do
  let error ← endRun hooks loop started error none
  match error with
  | none => pure ()
  | some e => Prog.raise e

/-- A request with these interceptors started before and ended after. -/
def hoisted (loop : Loop) (is : List ι) (x : Prog ω Raised Unit) :
    Prog (List (ι × τ) × ω) Raised Unit := do
  let outcome ← Prog.attempt (do
    startRun hooks is
    onWorld x)
  let s ← Prog.get
  match outcome with
  | .ok () => onWorld (finishRun hooks loop s.1 none)
  | .error e =>
      if e.isException then onWorld (finishRun hooks loop s.1 (some e)) else Prog.raise e

variable {hooks}

/-- Whatever is raised is an `Exception`. -/
def Exceptional {β : Type} (x : Prog ω Raised β) : Prop := Raises (fun e => e.isException = true) x

/-- The error of an outcome. -/
def kept : Except Raised Unit → Option Raised
  | .ok () => none
  | .error e => some e

/-- Ending the run is unwinding.  By induction on what was started. -/
theorem finishRun_eq (honEnd : ∀ i token error, Exceptional (hooks.onEnd i token error))
    (loop : Loop) (started : List (ι × τ)) (o : Except Raised Unit)
    (ho : ∀ e, o = .error e → e.isException = true) (w : ω) :
    finishRun hooks loop started (kept o) w = (hooks.brackets loop).unwind started o w := by
  induction started generalizing o w with
  | nil => cases o <;> rfl
  | cons hook started ih =>
      obtain ⟨i, token⟩ := hook
      have htold : (hooks.brackets loop).told o = kept o := by
        cases o with
        | ok u => rfl
        | error e => exact if_pos (ho e rfl)
      cases hend : hooks.onEnd i token (kept o) w with
      | mk out w' =>
          have hleave : (hooks.brackets loop).leave i token ((hooks.brackets loop).told o) w
              = (out, w') := by
            rw [htold]
            exact hend
          cases out with
          | ret u =>
              rw [Brackets.unwind_ret hleave, ← ih o ho]
              exact Prog.bind_congr (Prog.bind_ret (Prog.attempt_ret hend))
          | raise e =>
              have he : e.isException = true := honEnd i token (kept o) w e (by rw [hend])
              rw [Brackets.unwind_raise hleave, ← ih (.error e) (by rintro e' ⟨⟩; exact he)]
              refine Prog.bind_congr ((Prog.bind_ret (Prog.attempt_raise hend)).trans ?_)
              dsimp only
              rw [if_pos he]
              rfl
          | stuck =>
              rw [Brackets.unwind_stuck hleave]
              exact Prog.bind_stuck (Prog.bind_stuck (Prog.attempt_stuck hend))

section Hoisted

variable {loop : Loop} {is : List ι} {x : Prog ω Raised Unit} {started started' : List (ι × τ)}
  {w w' : ω}

/-- The hoisted run ends its interceptors after a return. -/
theorem hoisted_ret (h : (startRun hooks is >>= fun _ => onWorld x) (started, w)
      = (.ret (), (started', w'))) :
    runFrom started (hoisted hooks loop is x) w = finishRun hooks loop started' none w' := by
  have hall : hoisted hooks loop is x (started, w)
      = onWorld (finishRun hooks loop started' none) (started', w') :=
    (Prog.bind_ret (Prog.attempt_ret h)).trans (Prog.bind_ret rfl)
  rw [runFrom, hall]
  rfl

/-- And after an exception. -/
theorem hoisted_raise {e : Raised} (h : (startRun hooks is >>= fun _ => onWorld x) (started, w)
      = (.raise e, (started', w'))) (he : e.isException = true) :
    runFrom started (hoisted hooks loop is x) w = finishRun hooks loop started' (some e) w' := by
  have hall : hoisted hooks loop is x (started, w)
      = onWorld (finishRun hooks loop started' (some e)) (started', w') := by
    refine (Prog.bind_ret (Prog.attempt_raise h)).trans ((Prog.bind_ret rfl).trans ?_)
    dsimp only
    rw [if_pos he]
  rw [runFrom, hall]
  rfl

theorem hoisted_stuck (h : (startRun hooks is >>= fun _ => onWorld x) (started, w)
      = (.stuck, (started', w'))) :
    runFrom started (hoisted hooks loop is x) w = (.stuck, w') := by
  have hall : hoisted hooks loop is x (started, w) = (.stuck, (started', w')) :=
    Prog.bind_stuck (Prog.attempt_stuck h)
  rw [runFrom, hall]

end Hoisted

/-- **The loops are the run** of the interceptors on a stack.  By induction on those
    still to be started. -/
theorem hoisted_eq (honStart : ∀ i, Exceptional (hooks.onStart i))
    (honEnd : ∀ i token error, Exceptional (hooks.onEnd i token error)) {x : Prog ω Raised Unit}
    (hx : Exceptional x) (loop : Loop) (is : List ι) (started : List (ι × τ)) :
    runFrom started (hoisted hooks loop is x) = (hooks.brackets loop).run is started x := by
  funext w
  have hunwind : ∀ (started : List (ι × τ)) {e : Raised} (w : ω), e.isException = true →
      finishRun hooks loop started (some e) w
        = (hooks.brackets loop).unwind started (.error e) w := by
    intro started e w he
    refine finishRun_eq honEnd loop started (.error e) ?_ w
    rintro e' ⟨⟩
    exact he
  induction is generalizing started w with
  | nil =>
      have hstart : (startRun hooks [] >>= fun _ => onWorld x) (started, w)
          = onWorld x (started, w) := rfl
      rw [Brackets.run]
      cases h : x w with
      | mk o w' =>
          cases o with
          | ret u =>
              rw [hoisted_ret (hstart.trans (onWorld_ret h)), Prog.bind_ret (Prog.attempt_ret h)]
              exact finishRun_eq honEnd loop started (.ok ()) (by rintro e ⟨⟩) w'
          | raise e =>
              have he : e.isException = true := hx w e (by rw [h])
              rw [hoisted_raise (hstart.trans (onWorld_raise h)) he,
                Prog.bind_ret (Prog.attempt_raise h)]
              exact hunwind started w' he
          | stuck =>
              rw [hoisted_stuck (hstart.trans (onWorld_stuck h)),
                Prog.bind_stuck (Prog.attempt_stuck h)]
  | cons i is ih =>
      rw [Brackets.run]
      cases h : hooks.onStart i w with
      | mk o w' =>
          have henter : (hooks.brackets loop).enter i w = (o, w') := h
          cases o with
          | ret token =>
              -- What was started is on the stack, and the loop goes on.
              have hstart : startRun hooks (i :: is) (started, w)
                  = startRun hooks is ((i, token) :: started, w') :=
                (Prog.bind_ret (onWorld_ret h)).trans (Prog.bind_ret rfl)
              have hloop : hoisted hooks loop (i :: is) x (started, w)
                  = hoisted hooks loop is x ((i, token) :: started, w') :=
                Prog.attempt_bind_congr (Prog.bind_congr hstart)
              rw [runFrom, hloop, Prog.bind_ret (Prog.attempt_ret henter)]
              exact ih ((i, token) :: started) w'
          | raise e =>
              have he : e.isException = true := honStart i w e (by rw [h])
              rw [hoisted_raise (Prog.bind_raise (Prog.bind_raise (onWorld_raise h))) he,
                Prog.bind_ret (Prog.attempt_raise henter)]
              exact hunwind started w' he
          | stuck =>
              rw [hoisted_stuck (Prog.bind_stuck (Prog.bind_stuck (onWorld_stuck h))),
                Prog.bind_stuck (Prog.attempt_stuck henter)]

end Run

/-- **HOISTING IS INVISIBLE** for methods with a response stream: the server sends what a
    nest of all interceptors yields exactly as if it started the leading ones before and
    ended them after, in loops of their own, whichever of them raises where. -/
theorem stream_hoisting_invisible (hooks : Hooks ω ι μ τ α) (loop : Loop)
    (interceptors : List (Interceptor ι μ)) (stream : Stream ω α) {rest : Stream ω α}
    (hrest : rest = applyInterceptors hooks loop (splitLeading interceptors).2 stream)
    {Over : rest.State → Prop} (hgenerator : Generator rest Over) {A : Raised → Prop}
    (horderly : Orderly A rest)
    (honStart : ∀ i, Exceptional (hooks.onStart i))
    (honEnd : ∀ i token error,
      Raises (fun e => e.isException = true ∧ e.Apart A) (hooks.onEnd i token error))
    (hA : ∀ e, A e → e.isException = true) {send : α → Prog ω Raised Unit}
    (hsend : ∀ a, Raises A (send a)) (n : Nat)
    (hresponses : Exceptional (streamResponses loop n send rest)) :
    streamResponses loop n send (applyInterceptors hooks loop interceptors stream)
      = runFrom [] (hoisted hooks loop (splitLeading interceptors).1
        (streamResponses loop n send rest)) := by
  have hend : ∀ i token error, Exceptional (hooks.onEnd i token error) :=
    fun i token error => (honEnd i token error).mono fun _ h => h.1
  have htactful : Tactful A (hooks.brackets loop) :=
    tactful_brackets (fun i token error => (honEnd i token error).mono fun _ h => h.2) loop
  rw [hoisted_eq honStart hend hresponses, Brackets.run_eq_nest, applyInterceptors_eq, ← hrest]
  exact streamResponses_nest hgenerator horderly htactful
    (fun e he => loop.isCancellation_of_isException (hA e he)) _ n hsend

/-- A generator that yields as many messages as its state says. -/
def countdown : Stream (List Nat) Nat where
  State := Nat
  create := Prog.pure 3
  anext := fun c =>
    match c.1 with
    | 0 => (.ret none, c)
    | k + 1 => (.ret (some k), (k, c.2))
  athrow := some fun e c => (.raise e, (0, c.2))
  aclose := some fun c => (.ret (), (0, c.2))

/-- The second interceptor raises in its `on_end`; the third is behind one of messages. -/
def raising : Hooks (List Nat) Nat Unit Unit Nat where
  onStart := fun i => Prog.modify (· ++ [i])
  onEnd := fun i _ error w =>
    (if i = 1 then .raise (.object 7 (.exception .typeError "on_end")) else .ret (),
      w ++ [10 + i, if error.isSome then 1 else 0])
  intercept := fun _ stream => stream

/-- The connection is lost at the second message. -/
def lost : Raised := .object 5 (.exception (.other "OSError") "send")

def sendUntil (k : Nat) : Prog (List Nat) Raised Unit := fun w =>
  if k = 1 then (.raise lost, w) else (.ret (), w ++ [100 + k])

/-- The interceptor of the example raises an exception of its own. -/
theorem raising_apart (i : Nat) (token : Unit) (error : Option Raised) :
    Raises (fun e => e.isException = true ∧ e.Apart fun e => e = lost)
      (raising.onEnd i token error) := by
  intro w e he
  have hraise : (if i = 1 then (Outcome.raise (.object 7 (.exception .typeError "on_end")) :
      Outcome Raised Unit) else .ret ()) = .raise e := he
  split at hraise
  · cases hraise
    refine ⟨rfl, rfl, ?_⟩
    rintro cause rfl hc
    cases hc
  · cases hraise

/-- Its consumer raises the loss of the connection only. -/
theorem sendUntil_raises (k : Nat) : Raises (fun e => e = lost) (sendUntil k) := by
  intro w e he
  have hraise : (sendUntil k w).1 = .raise e := he
  rw [sendUntil] at hraise
  split at hraise
  · cases hraise
    rfl
  · cases hraise

/-- An interceptor that raises at the end of a stream that was left early. -/
theorem stream_hoisting_invisible_raising :
    streamResponses .asyncio 5 sendUntil (applyInterceptors raising .asyncio
        [.metadata 0, .metadata 1, .unary (), .metadata 2] countdown) []
      = (.raise (.object 7 (.exception .typeError "on_end")),
          [0, 1, 2, 102, 12, 1, 11, 1, 10, 1]) := by
  have htactful : Tactful (fun e => e = lost) (raising.brackets .asyncio) :=
    tactful_brackets (fun i token error => (raising_apart i token error).mono fun _ h => h.2)
      .asyncio
  have hclose : Orderly (fun e => e = lost) countdown := by
    rintro c e ⟨⟩
  have hresponses : Exceptional (streamResponses .asyncio 5 sendUntil
      (interceptStream (raising.brackets .asyncio) 2 countdown)) := by
    intro w e he
    have hraise : (Outcome.raise lost : Outcome Raised Unit) = .raise e := he
    cases hraise
    rfl
  have hrun := stream_hoisting_invisible raising .asyncio
    [.metadata 0, .metadata 1, .unary (), .metadata 2] countdown rfl
    (interceptStream_generator _ 2 countdown) (interceptStream_orderly hclose htactful 2)
    (fun i => by rintro w e ⟨⟩) raising_apart (by rintro e rfl; rfl) sendUntil_raises 5 hresponses
  exact (congrFun hrun []).trans rfl

end ConnectInterceptorStream
