import ConnectPy.BracketProofs
import ConnectPy.WsgiWorldProofs

/-! # The interceptor run of a WSGI request

    `MetadataInterceptorsRunSync.end` calls each started interceptor once and in
    reverse order, and only its first call does; so what matters is that it is called
    at all, and with the handler's stream closed.

    What the stream and the app server have to do for that is `Obliging`, a condition
    on the state in which the handler has returned its stream and on those before each
    step that can go wrong.  The proof carries it along as a proposition `G`: `Due G`
    before `end` is called, `Done G` after it, and `Settled G` at the end, whichever
    way the request got there (`interceptors_ended_iff`). -/

namespace ConnectWsgi

open Utf8 (Bytes)
open Effect
open ConnectErrors ConnectPlatform ConnectHeaders ConnectTrailersWire
open ConnectAsgi (Ctx Plan StreamResponse UnaryResponse)
open ConnectWsgiWorld (unaryTry unaryFinally unaryRespond streamTry streamExcept streamFinally
  streamEnd)

variable {p : Platform} {ω ι τ α β : Type}

/-! ## Ended once -/

/-- What was started. -/
def EndCall.hook (call : EndCall ι τ) : ι × τ := (call.interceptor, call.token)

/-- Every interceptor that was started was ended once, with its token, in reverse
    order, and after the handler's stream was closed. -/
structure EndedOnce (c : Core ι τ) : Prop where
  reverse : c.calls.map EndCall.hook = c.started.reverse
  shut    : ∀ call ∈ c.calls, call.streamOpen = false

/-- Every `on_end_sync` that raises raises an exception. -/
def EndsOk (app : App p ω ι τ α) : Prop :=
  ∀ i token error w e, (app.onEnd i token error w).1 = .raise e → e.isException = true

/-- With nothing called, only where nothing was started all is well. -/
theorem endedOnce_of_noCalls {c : Core ι τ} (h : c.calls = []) :
    EndedOnce c ↔ c.started = [] := by
  constructor
  · intro hc
    have hr := hc.reverse
    rw [h] at hr
    exact List.reverse_eq_nil_iff.mp hr.symm
  · intro hs
    refine ⟨by rw [h, hs]; rfl, ?_⟩
    intro call hcall
    rw [h] at hcall
    exact absurd hcall List.not_mem_nil

/-! ## What is asked of the stream and of the app server -/

/-- `_handle_stream`, up to the handler's stream. -/
def opening (app : App p ω ι τ α) (st : StreamResponse α) : Prog (Run ω ι τ α) Exc Unit := do
  startRun app
  Prog.ofExcept st.requestCompression
  openResponses app st

/-- Then the first message and the headers. -/
def beginning (app : App p ω ι τ α) (st : StreamResponse α) :
    Prog (Run ω ι τ α) Exc (Option α) := do
  let first ← firstResponse app st
  sendHeaders app st
  pure first

/-- `_response_stream`, up to its `finally` block. -/
def streaming (app : App p ω ι τ α) (st : StreamResponse α) (first : α) (k : Nat) :
    Prog (Run ω ι τ α) Exc Unit :=
  Prog.rescue (streamTry app st first k) (streamExcept app)

/-- A generator that is closed ends, and raises nothing else. -/
def Closes (responses : Responses ω α) (w : ω) : Prop :=
  match (responses.resume (some generatorExit) w).1 with
  | .yielded _ => False
  | .raised e same => (same || isGeneratorExit e) = true
  | .returned => True
  | .pending => True

/-- So it does where an error is thrown in first.  If it yields it is closed next. -/
def Ends (responses : Responses ω α) : Option Exc → ω → Prop
  | none, w => Closes responses w
  | some e, w =>
      match responses.resume (some e) w with
      | (.yielded _, w') => Closes responses w'
      | (.raised _ same, _) => same = true
      | (.returned, _) => True
      | (.pending, _) => True

/-- `_end_stream` gets through. -/
def Obeys (responses : Responses ω α) (error : Option Exc) (w : ω) : Prop :=
  match responses.kind with
  | .generator => Ends responses error w
  | .iterator true => ∀ e, (responses.close w).1 ≠ .raise e
  | .iterator false => True

/-- The stream, in the state in which the handler has returned it, and the app server
    begin a response that can be ended as it should be. -/
structure Begins (app : App p ω ι τ α) (st : StreamResponse α) (s : Run ω ι τ α) : Prop where
  /-- Without a message only a generator is closed. -/
  message : app.responses.kind = .iterator true →
    ∃ m, (app.responses.resume none s.world).1 = .yielded m
  isSome  : app.responses.kind.closes = true →
    ∀ m, (app.responses.resume none s.world).1 = .yielded m → app.isNone m = false
  headers : app.responses.kind.closes = true →
    ∀ m t, firstResponse app st s = (.ret (some m), t) → ∀ e, (sendHeaders app st t).1 ≠ .raise e

/-- So they do, and then let it be ended so, if the app server takes `k` chunks. -/
structure Obliging (app : App p ω ι τ α) (st : StreamResponse α) (k : Nat)
    (s : Run ω ι τ α) : Prop extends Begins app st s where
  taken : ∀ m t, beginning app st s = (.ret (some m), t) → 0 < k
  /-- A generator that is over is left alone. -/
  obeys : ∀ m t, beginning app st s = (.ret (some m), t) →
    ∀ o t', streaming app st m (k - 1) t = (o, t') →
    (app.responses.kind = .generator → t'.streamOpen = true) →
    Obeys app.responses t'.error t'.world

/-- A request whose interceptors are ended as they should be: it has no stream of
    responses, or none was started, or the stream and the app server are obliging. -/
def Obliged (app : App p ω ι τ α) (k : Nat) (w : ω) : Plan α → Prop
  | .refused _ _ _ _ => True
  | .unary _ => True
  | .stream st => st.endpoint.returnsOne = true ∨
      ∀ s, opening app st (Run.new w) = (.ret (), s) → s.started = [] ∨ Obliging app st k s

/-! ## Before and after -/

/-- The run is to be ended, and `G` is whether that will be as it should. -/
structure Due (G : Prop) (c : Core ι τ) : Prop where
  ended   : c.ended = false
  calls   : c.calls = []
  verdict : (c.started = [] ∨ c.streamOpen = false) ↔ G

/-- It was ended as it should be if and only if `G`. -/
def Settled (G : Prop) (c : Core ι τ) : Prop := EndedOnce c ↔ G

/-- Settled by a call of `end`. -/
structure Done (G : Prop) (c : Core ι τ) : Prop where
  settled : Settled G c
  ended   : c.ended = true

/-- Nothing was called, and the handler has not returned a stream. -/
structure Unopened (c : Core ι τ) : Prop where
  ended      : c.ended = false
  calls      : c.calls = []
  streamOpen : c.streamOpen = false

theorem Unopened.due {c : Core ι τ} (h : Unopened c) : Due True c :=
  ⟨h.ended, h.calls, iff_of_true (Or.inr h.streamOpen) trivial⟩

/-- A run that is left without its end. -/
theorem settled_of_noCalls {G : Prop} {c : Core ι τ} (h : c.calls = [])
    (hG : c.started = [] ↔ G) : Settled G c := (endedOnce_of_noCalls h).trans hG

/-! ## What leaves the run alone -/

/-- Returning in `R`, raising in `E`. -/
def post (R : β → Core ι τ → Prop) (E : Core ι τ → Prop) : Post (Run ω ι τ α) Exc β :=
  ⟨fun a s => R a s.toCore, fun _ s => E s.toCore, fun _ => True⟩

/-- `x` keeps the core in `P` however it ends. -/
def Keeps (P : Core ι τ → Prop) (x : Prog (Run ω ι τ α) Exc β) : Prop :=
  Invariant (fun s => P s.toCore) (fun _ => True) x

theorem spec_await_raise (P : Core ι τ → Prop) {A : Exc → Prop} {x : Prog ω Exc β}
    (hx : ∀ w e, (x w).1 = .raise e → A e) :
    Spec (fun s : Run ω ι τ α => P s.toCore) (await x)
      ⟨fun _ s => P s.toCore, fun e s => A e ∧ P s.toCore, fun s => P s.toCore⟩ :=
  Spec.zoom (fun _ _ h => h) hx

theorem keeps_await (P : Core ι τ → Prop) (x : Prog ω Exc β) :
    Keeps P (await x : Prog (Run ω ι τ α) Exc β) :=
  Invariant.zoom x (fun _ _ h => h) fun _ _ => trivial

theorem keeps_maybeLogException (P : Core ι τ → Prop) (app : App p ω ι τ α) (e : Exc) :
    Keeps P (maybeLogException app e) :=
  Invariant.ite (Invariant.pure ()) (keeps_await P (app.writeError e))

theorem keeps_endResponse (P : Core ι τ → Prop) (app : App p ω ι τ α) (st : StreamResponse α)
    (error : Option Exc) : Keeps P (endResponse app st error) := by
  refine Invariant.get fun s => Invariant.bind (Invariant.ofExcept _) fun message => ?_
  cases message with
  | inl data => exact Invariant.pure data
  | inr trailers =>
      exact Invariant.bind (keeps_await P (app.sendTrailers trailers.allitems))
        fun _ => Invariant.pure []

theorem keeps_deliver (P : Core ι τ → Prop) (chunk : Bytes) :
    Keeps P (deliver chunk : Prog (Run ω ι τ α) Exc Unit) := Invariant.modify fun _ h => h

theorem keeps_startResponse (P : Core ι τ → Prop) (app : App p ω ι τ α) (status : Nat)
    (headers : List (String × String)) : Keeps P (startResponse app status headers) :=
  keeps_await P (app.startResponse status headers)

theorem keeps_sendHeaders (P : Core ι τ → Prop) (app : App p ω ι τ α) (st : StreamResponse α) :
    Keeps P (sendHeaders app st) :=
  Invariant.get fun _ => keeps_startResponse P app 200 _

theorem keeps_handleError (P : Core ι τ → Prop) (app : App p ω ι τ α) (exc : Exc)
    (hasCtx : Bool) (protocol : Option ServerProtocol) :
    Keeps P (handleError app exc hasCtx protocol) := by
  have hreply : ∀ (status : Nat) (headers : List (String × String)) (body : List Bytes),
      Keeps P (startResponse app status headers >>= fun _ => pure body) :=
    fun status headers body => Invariant.bind (keeps_startResponse P app status headers)
      fun _ => Invariant.pure body
  refine Invariant.get fun s => ?_
  dsimp only
  split
  · exact hreply _ _ _
  · exact hreply _ _ _
  · exact hreply _ _ _

/-! ## The run -/

theorem keeps_startRun (app : App p ω ι τ α) : Keeps Unopened (startRun app) := by
  rw [startRun]
  induction app.interceptors with
  | nil => exact Invariant.pure ()
  | cons i rest ih =>
      refine Invariant.bind (keeps_await Unopened (app.onStart i)) fun token => ?_
      exact Invariant.bind (Invariant.modify fun _ h => ⟨h.ended, h.calls, h.streamOpen⟩)
        fun _ => ih

/-- What the first call of `end` does. -/
structure Called (c c' : Core ι τ) (stack : List (ι × τ)) : Prop where
  started    : c'.started = c.started
  ended      : c'.ended = c.ended
  streamOpen : c'.streamOpen = c.streamOpen
  calls      : ∃ calls : List (EndCall ι τ), c'.calls = c.calls ++ calls
    ∧ calls.map EndCall.hook = stack ∧ ∀ call ∈ calls, call.streamOpen = c.streamOpen

/-- One call more, and then those of the rest. -/
theorem Called.cons {c c' : Core ι τ} {i : ι} {token : τ} {error : Option Exc}
    {rest : List (ι × τ)}
    (h : Called { c with calls := c.calls ++ [⟨i, token, error, c.streamOpen⟩] } c' rest) :
    Called c c' ((i, token) :: rest) := by
  obtain ⟨h1, h2, h3, calls, h4, h5, h6⟩ := h
  refine ⟨h1, h2, h3, ⟨i, token, error, c.streamOpen⟩ :: calls, ?_, ?_, ?_⟩
  · rw [h4, List.append_assoc]
    rfl
  · rw [List.map_cons, h5]
    rfl
  · intro call hcall
    rcases List.mem_cons.mp hcall with rfl | hcall
    · rfl
    · exact h6 call hcall

/-- The first call of `end` finds the stream closed, or nothing to end. -/
theorem Called.endedOnce_iff {c c' : Core ι τ} (h : Called c c' c.started.reverse)
    (hcalls : c.calls = []) : EndedOnce c' ↔ c.started = [] ∨ c.streamOpen = false := by
  obtain ⟨h1, -, -, calls, h4, h5, h6⟩ := h
  have hall : c'.calls = calls := by
    rw [h4, hcalls]
    rfl
  constructor
  · intro honce
    cases hc : calls with
    | nil =>
        rw [hc] at h5
        exact Or.inl (List.reverse_eq_nil_iff.mp h5.symm)
    | cons call rest =>
        have hmem : call ∈ calls := hc ▸ List.mem_cons_self
        exact Or.inr ((h6 call hmem).symm.trans (honce.shut call (hall ▸ hmem)))
  · intro hshut
    refine ⟨?_, ?_⟩
    · rw [hall, h5, h1]
    · intro call hcall
      rw [hall] at hcall
      rcases hshut with hnone | hshut
      · rw [hnone] at h5
        rw [List.map_eq_nil_iff.mp h5] at hcall
        exact absurd hcall List.not_mem_nil
      · exact (h6 call hcall).trans hshut

/-- The loop calls all of its interceptors, whatever they raise. -/
theorem spec_endLoop (app : App p ω ι τ α) (hends : EndsOk app) :
    ∀ (stack : List (ι × τ)) (error : Option Exc) (c : Core ι τ),
      Spec (fun s : Run ω ι τ α => s.toCore = c) (endLoop app stack error)
        (post (fun _ c' => Called c c' stack) fun _ => False) := by
  intro stack
  induction stack with
  | nil =>
      intro error c
      refine Spec.pure ?_
      rintro s rfl
      exact ⟨rfl, rfl, rfl, [], (List.append_nil _).symm, rfl,
        fun _ h => absurd h List.not_mem_nil⟩
  | cons hook rest ih =>
      obtain ⟨i, token⟩ := hook
      intro error c
      have hih : ∀ error', Spec (fun s : Run ω ι τ α =>
            s.toCore = { c with calls := c.calls ++ [⟨i, token, error, c.streamOpen⟩] })
          (endLoop app rest error')
          (post (fun _ c' => Called c c' ((i, token) :: rest)) fun _ => False) :=
        fun error' => (ih error' _).weaken (fun _ h => h) (fun _ _ h => h.cons)
          (fun _ _ h => h) fun _ h => h
      refine Spec.bind (fun _ s => s.toCore
        = { c with calls := c.calls ++ [⟨i, token, error, c.streamOpen⟩] }) ?_ fun _ => ?_
      · refine Spec.modify ?_
        rintro s rfl
        rfl
      refine Spec.bind (fun outcome s => (∀ e, outcome = .error e → e.isException = true)
        ∧ s.toCore = { c with calls := c.calls ++ [⟨i, token, error, c.streamOpen⟩] }) ?_
        fun outcome => Spec.assume fun hok => ?_
      · refine Spec.attempt ?_
        have hawait := spec_await_raise (α := α)
          (fun c' => c' = { c with calls := c.calls ++ [⟨i, token, error, c.streamOpen⟩] })
          (hends i token error)
        refine hawait.weaken (fun _ h => h) (fun _ _ h => ⟨nofun, h⟩) ?_ fun _ _ => trivial
        rintro e s ⟨he, hs⟩
        refine ⟨?_, hs⟩
        intro e' heq
        obtain rfl := Except.error.inj heq
        exact he
      cases outcome with
      | ok u => exact hih error
      -- The exception replaces the error that the rest is given.
      | error e =>
          dsimp only
          rw [if_pos (hok e rfl)]
          exact hih (some e)

/-- `end` does nothing a second time. -/
theorem spec_endRun_again {P : Core ι τ → Prop} (hP : ∀ c, P c → c.ended = true)
    (app : App p ω ι τ α) (error : Option Exc) :
    Spec (fun s => P s.toCore) (endRun app error) (post (fun _ => P) fun _ => False) := by
  refine Spec.get fun s => ?_
  by_cases hs : s.ended = true
  · rw [if_pos hs]
    exact Spec.pure fun _ h => h.2
  · rw [if_neg hs]
    rintro t ⟨rfl, hp⟩
    exact absurd (hP _ hp) hs

/-- The first time it calls what was started. -/
theorem spec_endRun_first (app : App p ω ι τ α) (hends : EndsOk app) (error : Option Exc)
    (c : Core ι τ) (hc : c.ended = false) :
    Spec (fun s : Run ω ι τ α => s.toCore = c) (endRun app error)
      (post (fun _ c' => Called { c with ended := true } c' c.started.reverse)
        fun _ => False) := by
  refine Spec.get fun s => ?_
  by_cases hs : s.ended = true
  · rintro t ⟨rfl, rfl⟩
    cases hc.symm.trans hs
  · rw [if_neg hs]
    rintro t ⟨rfl, rfl⟩
    refine Spec.bind (fun _ s => s.toCore = { t.toCore with ended := true }) ?_
      (fun _ => spec_endLoop app hends t.started.reverse error _) t rfl
    refine Spec.modify ?_
    rintro s rfl
    rfl

/-- **Ending the run**, for the first time or again. -/
theorem spec_endRun (app : App p ω ι τ α) (hends : EndsOk app) (G : Prop) (error : Option Exc) :
    Spec (fun s => Due G s.toCore ∨ Done G s.toCore) (endRun app error)
      (post (fun _ => Done G) fun _ => False) := by
  refine Spec.or ?_ (spec_endRun_again (fun _ h => h.ended) app error)
  intro s hs
  have hfirst : Spec (fun t : Run ω ι τ α => t.toCore = s.toCore) (endRun app error)
      (post (fun _ => Done G) fun _ => False) := by
    refine (spec_endRun_first app hends error s.toCore hs.ended).weaken
      (fun _ h => h) ?_ (fun _ _ h => h) fun _ h => h
    intro a t h
    exact ⟨(h.endedOnce_iff hs.calls).trans hs.verdict, h.ended⟩
  exact hfirst s rfl

/-! ## The handler's stream -/

/-- A statement that still holds when the handler's stream is closed. -/
def Steady (P : Core ι τ → Prop) : Prop := ∀ c, P c → P { c with streamOpen := false }

theorem Steady.leave {P : Core ι τ → Prop} (hP : Steady P) (kind : Kind) {s : Run ω ι τ α}
    (h : P s.toCore) : P (leave kind s).toCore := by
  cases kind with
  | generator => exact hP _ h
  | iterator closes => exact h

theorem steady_done (G : Prop) : Steady (Done G : Core ι τ → Prop) := by
  intro c h
  refine ⟨?_, h.ended⟩
  constructor
  · intro he
    exact h.settled.mp ⟨he.reverse, he.shut⟩
  · intro hG
    have he := h.settled.mpr hG
    exact ⟨he.reverse, he.shut⟩

/-- The run is open, and so is the handler's stream, if there is anything to close. -/
structure Serving (kind : Kind) (started : List (ι × τ)) (c : Core ι τ) : Prop where
  started : c.started = started
  ended   : c.ended = false
  calls   : c.calls = []
  closes  : c.streamOpen = true → kind.closes = true

theorem steady_serving (kind : Kind) (started : List (ι × τ)) : Steady (Serving kind started) :=
  fun _ h => ⟨h.started, h.ended, h.calls, nofun⟩

section Steady

variable {P : Core ι τ → Prop} (hP : Steady P) (app : App p ω ι τ α) (st : StreamResponse α)

include hP

theorem keeps_nextMessage : Keeps P (nextMessage app st) := by
  refine Invariant.get fun s => Invariant.ite ?_ (Invariant.ite ?_ (Invariant.pure none))
  · exact Invariant.bind (Invariant.modify fun _ h => h) fun _ => Invariant.pure s.response
  · refine Invariant.bind (keeps_await P _) fun resumed => ?_
    cases resumed with
    | yielded message => exact Invariant.pure (some message)
    | returned =>
        exact Invariant.bind (Invariant.modify fun _ h => hP.leave _ h) fun _ =>
          Invariant.pure none
    | raised e same =>
        exact Invariant.bind (Invariant.modify fun _ h => hP.leave _ h) fun _ =>
          Invariant.raise e
    | pending => exact Spec.stuck fun _ _ => trivial

theorem keeps_streamLoop (k : Nat) : Keeps P (streamLoop app st k) := by
  induction k with
  | zero => exact Invariant.raise generatorExit
  | succ k ih =>
      refine Invariant.bind (keeps_nextMessage hP app st) fun message => ?_
      cases message with
      | none => exact Invariant.pure ()
      | some message =>
          exact Invariant.bind (Invariant.ofExcept _) fun body =>
            Invariant.bind (keeps_deliver P body) fun _ => ih

theorem keeps_streaming (first : α) (k : Nat) : Keeps P (streaming app st first k) := by
  refine Invariant.rescue ?_ fun e => Invariant.ite ?_ ?_
  · exact Invariant.bind (Invariant.ofExcept _) fun body =>
      Invariant.bind (keeps_deliver P body) fun _ => keeps_streamLoop hP app st k
  · exact Invariant.bind (Invariant.modify fun _ h => h) fun _ =>
      keeps_await P app.drainRequestBody
  · exact Invariant.bind (Invariant.modify fun _ h => h) fun _ => Invariant.raise e

end Steady

/-- What the stream answers, from one state. -/
theorem spec_resume (app : App p ω ι τ α) (thrown : Option Exc) (s : Run ω ι τ α) :
    Spec (fun t => t = s) (resume app thrown) (.returns fun resumed t =>
      app.responses.resume thrown s.world = (resumed, t.world) ∧ t.toCore = s.toCore) := by
  rintro t rfl
  exact ⟨rfl, rfl⟩

/-- Ending the stream gets through if and only if `good`. -/
def ends (good : Prop) (c : Core ι τ) : Post (Run ω ι τ α) Exc Unit where
  ret := fun _ t => good ∧ t.toCore = { c with streamOpen := false }
  raise := fun _ t => ¬ good ∧ t.started = c.started ∧ t.calls = c.calls
  stuck := fun _ => True

theorem spec_closeGenerator (app : App p ω ι τ α) {s : Run ω ι τ α} (ho : s.streamOpen = true) :
    Spec (fun t => t = s) (closeGenerator app) (ends (Closes app.responses s.world) s.toCore) := by
  refine Spec.get_of (fun _ h => h) fun t ht => ?_
  rw [ht, if_pos ho]
  refine Spec.bind _ (Spec.returns_raise (spec_resume app (some generatorExit) s) _ _)
    fun resumed => ?_
  cases resumed with
  | yielded message =>
      refine Spec.raise fun t ht => ⟨?_, congrArg Core.started ht.2, congrArg Core.calls ht.2⟩
      rw [Closes, ht.1]
      exact id
  | returned =>
      refine Spec.modify fun t ht => ⟨?_, congrArg (fun c => { c with streamOpen := false }) ht.2⟩
      rw [Closes, ht.1]
      exact trivial
  | raised e same =>
      refine Spec.bind (fun _ t => (Closes app.responses s.world ↔
          (same || isGeneratorExit e) = true)
        ∧ t.toCore = { s.toCore with streamOpen := false })
        (Spec.modify fun t ht => ⟨?_, congrArg (fun c => { c with streamOpen := false }) ht.2⟩)
        fun _ => ?_
      · rw [Closes, ht.1]
      · by_cases he : (same || isGeneratorExit e) = true
        · rw [if_pos he]
          exact Spec.pure fun t ht => ⟨ht.1.mpr he, ht.2⟩
        · rw [if_neg he]
          exact Spec.raise fun t ht => ⟨fun hc => he (ht.1.mp hc),
            (congrArg Core.started ht.2).trans rfl, (congrArg Core.calls ht.2).trans rfl⟩
  | pending => exact Spec.stuck fun _ _ => trivial

/-- Throwing in the error, and whether the stream has then to be closed. -/
theorem spec_throwInto (app : App p ω ι τ α) {s : Run ω ι τ α} (ho : s.streamOpen = true)
    (e : Exc) :
    Spec (fun t => t = s) (throwInto app e)
      ⟨fun ended t => if ended then Ends app.responses (some e) s.world
          ∧ t.toCore = { s.toCore with streamOpen := false }
        else (Ends app.responses (some e) s.world ↔ Closes app.responses t.world)
          ∧ t.toCore = s.toCore,
        fun _ t => ¬ Ends app.responses (some e) s.world ∧ t.started = s.started
          ∧ t.calls = s.calls, fun _ => True⟩ := by
  refine Spec.get_of (fun _ h => h) fun t ht => ?_
  rw [ht, if_pos ho]
  refine Spec.bind _ (Spec.returns_raise (spec_resume app (some e) s) _ _) fun resumed => ?_
  cases resumed with
  | yielded message =>
      refine Spec.pure fun t ht => ⟨?_, ht.2⟩
      rw [Ends, ht.1]
  | returned =>
      refine Spec.bind (fun _ t => Ends app.responses (some e) s.world
        ∧ t.toCore = { s.toCore with streamOpen := false })
        (Spec.modify fun t ht => ⟨?_, congrArg (fun c => { c with streamOpen := false }) ht.2⟩)
        fun _ => Spec.pure fun _ h => h
      rw [Ends, ht.1]
      exact trivial
  | raised e' same =>
      refine Spec.bind (fun _ t => (Ends app.responses (some e) s.world ↔ same = true)
        ∧ t.toCore = { s.toCore with streamOpen := false })
        (Spec.modify fun t ht => ⟨?_, congrArg (fun c => { c with streamOpen := false }) ht.2⟩)
        fun _ => ?_
      · rw [Ends, ht.1]
      · by_cases he : same = true
        · rw [if_pos he]
          exact Spec.pure fun t ht => ⟨ht.1.mpr he, ht.2⟩
        · rw [if_neg he]
          exact Spec.raise fun t ht => ⟨fun hc => he (ht.1.mp hc),
            (congrArg Core.started ht.2).trans rfl, (congrArg Core.calls ht.2).trans rfl⟩
  | pending => exact Spec.stuck fun _ _ => trivial

theorem ends_iff {P : Run ω ι τ α → Prop} {x : Prog (Run ω ι τ α) Exc Unit} {G G' : Prop}
    {c : Core ι τ} (h : G ↔ G') (hx : Spec P x (ends G c)) : Spec P x (ends G' c) :=
  hx.weaken (fun _ h => h) (fun _ _ ht => ⟨h.mp ht.1, ht.2⟩)
    (fun _ _ ht => ⟨fun hg => ht.1 (h.mpr hg), ht.2⟩) fun _ h => h

/-- Nothing is done about a stream that is not open. -/
theorem spec_ends_shut {G : Prop} {s : Run ω ι τ α} (hG : G) (hshut : s.streamOpen = false) :
    Spec (fun t => t = s) (pure () : Prog (Run ω ι τ α) Exc Unit) (ends G s.toCore) := by
  refine Spec.pure ?_
  rintro t rfl
  refine ⟨hG, ?_⟩
  rw [← hshut]

/-- A generator that is open is ended as it obeys, and one that is over is left alone. -/
theorem spec_endGenerator (app : App p ω ι τ α) (error : Option Exc) (s : Run ω ι τ α)
    (hkind : app.responses.kind = .generator) :
    Spec (fun t => t = s)
      (match error with
        | some e => do
            let ended ← throwInto app e
            if ended then pure () else closeStream app
        | none => closeStream app)
      (ends (s.streamOpen = true → Ends app.responses error s.world) s.toCore) := by
  have hclose : closeStream app = closeGenerator app := by
    rw [closeStream, hkind]
  rw [hclose]
  by_cases ho : s.streamOpen = true
  · refine ends_iff (G := Ends app.responses error s.world)
      ⟨fun h _ => h, fun h => h ho⟩ ?_
    cases error with
    | none => exact spec_closeGenerator app ho
    | some e =>
        -- Thrown into, and closed if it yields at that.
        refine Spec.bind _ (spec_throwInto app ho e) fun ended => ?_
        cases ended with
        | true => exact Spec.pure fun t ht => ht
        | false =>
            rintro t ⟨hends, hcore⟩
            have hopen : t.streamOpen = true := (congrArg Core.streamOpen hcore).trans ho
            have hspec := ends_iff hends.symm (spec_closeGenerator app hopen) t rfl
            rw [hcore] at hspec
            exact hspec
  -- One that has ended is neither resumed nor closed.
  · have hshut := Bool.eq_false_iff.mpr ho
    cases error with
    | none =>
        refine Spec.get_of (fun _ h => h) fun t ht => ?_
        rw [ht, if_neg ho]
        exact spec_ends_shut (fun h => absurd h ho) hshut
    | some e =>
        refine Spec.bind (fun ended t => ended = true ∧ t = s) ?_ fun ended => Spec.assume ?_
        · refine Spec.get_of (fun _ h => h) fun t ht => ?_
          rw [ht, if_neg ho]
          exact Spec.pure fun t ht => ⟨rfl, ht⟩
        · rintro rfl
          exact spec_ends_shut (fun h => absurd h ho) hshut

/-- Another iterator is closed, if it can be. -/
theorem spec_closeIterator (app : App p ω ι τ α) (error : Option Exc) {s : Run ω ι τ α}
    {closes : Bool} (hs : s.streamOpen = true → app.responses.kind.closes = true)
    (hkind : app.responses.kind = .iterator closes) :
    Spec (fun t => t = s) (closeStream app) (ends (Obeys app.responses error s.world) s.toCore) := by
  unfold closeStream Obeys
  rw [hkind] at hs ⊢
  cases closes with
  | false =>
      refine spec_ends_shut trivial (Bool.eq_false_iff.mpr fun ho => ?_)
      cases hs ho
  | true =>
      refine Spec.bind (fun _ t => (∀ e, (app.responses.close s.world).1 ≠ .raise e)
        ∧ t.toCore = s.toCore) ?_ fun _ => Spec.modify fun t ht =>
          ⟨ht.1, congrArg (fun c => { c with streamOpen := false }) ht.2⟩
      rintro t rfl
      have hresult : await app.responses.close t = ((app.responses.close t.world).1,
        { t with world := (app.responses.close t.world).2 }) := rfl
      rw [hresult]
      cases ho : (app.responses.close t.world).1 with
      | ret u => exact ⟨fun e => nofun, rfl⟩
      | raise e => exact ⟨fun h => h e rfl, rfl, rfl⟩
      | stuck => exact trivial

/-- **Ending the handler's stream.** -/
theorem spec_endStream (app : App p ω ι τ α) (st : StreamResponse α)
    (hone : st.endpoint.returnsOne = false) (error : Option Exc) {s : Run ω ι τ α}
    (hs : s.streamOpen = true → app.responses.kind.closes = true) :
    Spec (fun t => t = s) (endStream app st error)
      (ends ((app.responses.kind = .generator → s.streamOpen = true) →
        Obeys app.responses error s.world) s.toCore) := by
  unfold endStream
  rw [hone, if_neg Bool.false_ne_true]
  cases hkind : app.responses.kind with
  | generator =>
      have hobeys : (s.streamOpen = true → Ends app.responses error s.world) ↔
          ((Kind.generator = Kind.generator → s.streamOpen = true) →
            Obeys app.responses error s.world) := by
        rw [Obeys, hkind]
        exact ⟨fun h hopen => h (hopen rfl), fun h hopen => h fun _ => hopen⟩
      refine ends_iff hobeys ?_
      have hspec := spec_endGenerator app error s hkind
      cases error with
      | none => exact hspec
      | some e => exact hspec
  | iterator closes =>
      have hobeys : Obeys app.responses error s.world ↔
          ((Kind.iterator closes = Kind.generator → s.streamOpen = true) →
            Obeys app.responses error s.world) :=
        ⟨fun h _ => h, fun h => h nofun⟩
      have hclose := ends_iff hobeys (spec_closeIterator app error hs hkind)
      cases error with
      | none => exact hclose
      | some e => exact hclose

/-! ## The beginning of a response stream -/

/-- The handler has returned its stream. -/
structure Opened (kind : Kind) (c : Core ι τ) : Prop where
  ended      : c.ended = false
  calls      : c.calls = []
  streamOpen : c.streamOpen = kind.closes

theorem Opened.serving {kind : Kind} {c : Core ι τ} (h : Opened kind c) :
    Serving kind c.started c :=
  ⟨rfl, h.ended, h.calls, fun ho => h.streamOpen.symm.trans ho⟩

/-- What is left of the run when the stream is left decides. -/
theorem Serving.due {kind : Kind} {started : List (ι × τ)} {c : Core ι τ} {G : Prop}
    (h : Serving kind started c) (hG : c.streamOpen = false ↔ G) :
    Due (started = [] ∨ G) c := by
  refine ⟨h.ended, h.calls, ?_⟩
  rw [h.started, hG]

/-- A run that is left without its end, by a stream that is not obliging. -/
theorem Serving.settled {started : List (ι × τ)} {c : Core ι τ} {G : Prop}
    (hstarted : c.started = started) (hcalls : c.calls = []) (hG : ¬ G) :
    Settled (started = [] ∨ G) c := by
  refine settled_of_noCalls hcalls ?_
  rw [hstarted, or_iff_left hG]

/-- What is still open after the stream was left. -/
theorem leave_streamOpen {kind : Kind} {s : Run ω ι τ α} (h : s.streamOpen = kind.closes) :
    (leave kind s).streamOpen = false ↔ kind ≠ .iterator true := by
  cases kind with
  | generator => exact iff_of_true rfl nofun
  | iterator closes =>
      show s.streamOpen = false ↔ _
      rw [h, Kind.closes]
      cases closes <;> simp

/-- What the first answer of the stream comes to. -/
def answered (app : App p ω ι τ α) :
    Resumed α → Run ω ι τ α → Outcome Exc (Option α) × Run ω ι τ α
  | .yielded m, s => (.ret (if app.isNone m then none else some m), s)
  | .returned, s => (.ret none, leave app.responses.kind s)
  | .raised e _, s => (.raise e, leave app.responses.kind s)
  | .pending, s => (.stuck, s)

section Beginning

variable {app : App p ω ι τ α} {st : StreamResponse α} {k : Nat} {s : Run ω ι τ α}

theorem firstResponse_eq (hone : st.endpoint.returnsOne = false)
    (hs : Opened app.responses.kind s.toCore) {resumed : Resumed α} {w : ω}
    (h : app.responses.resume none s.world = (resumed, w)) :
    firstResponse app st s = answered app resumed { s with world := w } := by
  have hget : (Prog.get : Prog (Run ω ι τ α) Exc _) s = (.ret s, s) := rfl
  have hresume : resume app none s = (.ret resumed, { s with world := w }) := by
    show (Outcome.ret (app.responses.resume none s.world).1,
      { s with world := (app.responses.resume none s.world).2 }) = _
    rw [h]
  have hentered : (s.streamOpen || !app.responses.kind.isGenerator) = true := by
    rw [hs.streamOpen]
    cases app.responses.kind <;> simp [Kind.closes, Kind.isGenerator]
  rw [firstResponse, nextMessage, bind_assoc, Prog.bind_ret hget, hone,
    if_neg Bool.false_ne_true, if_pos hentered, bind_assoc, Prog.bind_ret hresume]
  cases resumed with
  | yielded m => rfl
  | returned => rfl
  | raised e same => rfl
  | pending => rfl

/-- A first message, and headers that are sent. -/
theorem beginning_some {m : α} {t' : Run ω ι τ α} (h : beginning app st s = (.ret (some m), t')) :
    ∃ t, firstResponse app st s = (.ret (some m), t) ∧ sendHeaders app st t = (.ret (), t') := by
  rw [beginning, Prog.bind_apply] at h
  cases hfirst : firstResponse app st s with
  | mk o t =>
    rw [hfirst] at h
    cases o with
    | raise e => cases h
    | stuck => cases h
    | ret first =>
        dsimp only at h
        rw [Prog.bind_apply] at h
        cases hsent : sendHeaders app st t with
        | mk o t'' =>
          rw [hsent] at h
          cases o with
          | raise e => cases h
          | stuck => cases h
          | ret u =>
              cases h
              exact ⟨t, rfl, hsent⟩

/-- A stream that does not begin a response has to obey no more. -/
theorem obliging_iff_begins (h : ∀ m t, beginning app st s ≠ (.ret (some m), t)) :
    Obliging app st k s ↔ Begins app st s :=
  ⟨fun ho => ho.toBegins, fun hb => ⟨hb, fun m t ht => absurd ht (h m t),
    fun m t ht => absurd ht (h m t)⟩⟩

/-- Without a message it is closed if it is a generator, and need not be if it cannot. -/
theorem obliging_iff_of_noMessage (hnone : ∀ m, (app.responses.resume none s.world).1 ≠ .yielded m)
    (hfirst : ∀ m t, firstResponse app st s ≠ (.ret (some m), t)) :
    app.responses.kind ≠ .iterator true ↔ Obliging app st k s := by
  rw [obliging_iff_begins]
  · constructor
    · intro hkind
      exact ⟨fun h => absurd h hkind, fun _ m hm => absurd hm (hnone m),
        fun _ m t ht => absurd ht (hfirst m t)⟩
    · intro hbegins hkind
      obtain ⟨m, hm⟩ := hbegins.message hkind
      exact hnone m hm
  · intro m t h
    obtain ⟨t, hfirst', -⟩ := beginning_some h
    exact hfirst m t hfirst'

/-- Without a first message the headers are sent, and nothing else happens. -/
theorem spec_beginning_none {t : Run ω ι τ α} (h : firstResponse app st s = (.ret none, t)) :
    Spec (fun t' => t' = s) (beginning app st)
      (post (fun first c => first = none ∧ c = t.toCore) fun c => c = t.toCore) := by
  refine Spec.bind (fun first t' => first = none ∧ t' = t) ?_ fun first => Spec.assume ?_
  · rintro t' rfl
    rw [h]
    exact ⟨rfl, rfl⟩
  · rintro rfl
    refine Spec.bind _ ((keeps_sendHeaders (fun c => c = t.toCore) app st).weaken
      (fun t' ht' => congrArg Run.toCore ht') (fun _ _ ht' => ht') (fun _ _ ht' => ht')
      fun _ ht' => ht') fun _ => ?_
    exact Spec.pure fun t' ht' => ⟨rfl, ht'⟩

/-- A stream without a message is left, and what is left open decides. -/
theorem due_of_noMessage (hs : Opened app.responses.kind s.toCore) {w : ω}
    (hnone : ∀ m, (app.responses.resume none s.world).1 ≠ .yielded m)
    (hfirst : ∀ m t, firstResponse app st s ≠ (.ret (some m), t)) :
    Due (s.started = [] ∨ Obliging app st k s)
      (leave app.responses.kind { s with world := w }).toCore := by
  have hserving := (steady_serving _ _).leave app.responses.kind (s := { s with world := w })
    hs.serving
  have hopen : (leave app.responses.kind { s with world := w }).streamOpen = false ↔
      app.responses.kind ≠ .iterator true := leave_streamOpen hs.streamOpen
  exact hserving.due (hopen.trans (obliging_iff_of_noMessage hnone hfirst))

/-- So it does where the run is ended although there was a message. -/
theorem due_of_begins (hs : Opened app.responses.kind s.toCore) {t : Run ω ι τ α}
    (hcore : t.toCore = s.toCore)
    (hfirst : ∀ m t, beginning app st s ≠ (.ret (some m), t))
    (hbegins : Begins app st s ↔ app.responses.kind.closes = false) :
    Due (s.started = [] ∨ Obliging app st k s) t.toCore := by
  rw [hcore]
  refine hs.serving.due ?_
  rw [hs.streamOpen, obliging_iff_begins hfirst, hbegins]

/-- With nothing to close nothing is asked of the stream. -/
theorem begins_of_not_closes (h : app.responses.kind.closes = false) : Begins app st s := by
  refine ⟨fun hkind => ?_, fun hc => ?_, fun hc => ?_⟩
  · rw [hkind] at h
    cases h
  · rw [h] at hc
    cases hc
  · rw [h] at hc
    cases hc

/-- Where the beginning of a response stream leaves the run. -/
def begun (app : App p ω ι τ α) (st : StreamResponse α) (k : Nat) (s : Run ω ι τ α) :
    Post (Run ω ι τ α) Exc (Option α) where
  ret := fun first t =>
    match first with
    | none => Due (s.started = [] ∨ Obliging app st k s) t.toCore
    | some m => beginning app st s = (.ret (some m), t) ∧ Begins app st s
        ∧ Serving app.responses.kind s.started t.toCore
  raise := fun _ t => Due (s.started = [] ∨ Obliging app st k s) t.toCore
  stuck := fun _ => True

theorem spec_begun_none {t : Run ω ι τ α} (h : firstResponse app st s = (.ret none, t))
    (hdue : Due (s.started = [] ∨ Obliging app st k s) t.toCore) :
    Spec (fun t => t = s) (beginning app st) (begun app st k s) := by
  refine (spec_beginning_none h).weaken (fun _ h => h) ?_ ?_ fun _ h => h
  · rintro first t' ⟨rfl, hcore⟩
    show Due _ t'.toCore
    rw [hcore]
    exact hdue
  · intro e t' hcore
    show Due _ t'.toCore
    rw [show t'.toCore = t.toCore from hcore]
    exact hdue

/-- After a first message it depends on the headers. -/
theorem spec_begun_some (hs : Opened app.responses.kind s.toCore) {m : α} {t : Run ω ι τ α}
    (hfirst : firstResponse app st s = (.ret (some m), t)) (hcore : t.toCore = s.toCore)
    (hm : (app.responses.resume none s.world).1 = .yielded m) (hn : app.isNone m = false) :
    Spec (fun t => t = s) (beginning app st) (begun app st k s) := by
  have hsome : ∀ m', (app.responses.resume none s.world).1 = .yielded m' →
      app.isNone m' = false := by
    intro m' hm'
    cases hm.symm.trans hm'
    exact hn
  intro s' hs'
  rw [hs']
  cases hsent : sendHeaders app st t with
  | mk o t' =>
    -- Neither sending the headers nor failing to touches the interceptors.
    have hcore' : (post (fun _ c => c = s.toCore) fun c => c = s.toCore).at o t' := by
      have hkeeps := keeps_sendHeaders (fun c => c = s.toCore) app st t hcore
      rw [hsent] at hkeeps
      exact hkeeps
    cases o with
    | stuck =>
        rw [beginning, Prog.bind_ret hfirst, Prog.bind_stuck hsent]
        exact trivial
    | raise e =>
        rw [beginning, Prog.bind_ret hfirst, Prog.bind_raise hsent]
        -- The headers were not taken: the response never began.
        refine due_of_begins hs hcore' ?_ ⟨fun hb => ?_, begins_of_not_closes⟩
        · intro m' u h
          obtain ⟨v, hm', hsent'⟩ := beginning_some h
          rw [hfirst] at hm'
          cases hm'
          rw [hsent] at hsent'
          cases hsent'
        · exact Bool.eq_false_iff.mpr fun hc =>
            hb.headers hc m t hfirst e (congrArg Prod.fst hsent)
    | ret u =>
        have hbegun : beginning app st s = (.ret (some m), t') := by
          rw [beginning, Prog.bind_ret hfirst, Prog.bind_ret hsent]
          rfl
        rw [hbegun]
        refine ⟨hbegun, ⟨fun _ => ⟨m, hm⟩, fun _ => hsome, ?_⟩, ?_⟩
        · intro _ m' v h e he
          rw [hfirst] at h
          cases h
          rw [hsent] at he
          cases he
        · rw [show t'.toCore = s.toCore from hcore']
          exact hs.serving

/-- **The beginning of a response stream** that comes to nothing is the end of the run;
    else the stream is served. -/
theorem spec_beginning (hone : st.endpoint.returnsOne = false)
    (hs : Opened app.responses.kind s.toCore) :
    Spec (fun t => t = s) (beginning app st) (begun app st k s) := by
  cases h : app.responses.resume none s.world with
  | mk resumed w =>
    have hfirst : firstResponse app st s = answered app resumed { s with world := w } :=
      firstResponse_eq hone hs h
    cases resumed with
    | pending =>
        -- The iterator never answers, and the run comes to no end.
        rintro t rfl
        rw [beginning, Prog.bind_stuck hfirst]
        exact trivial
    | returned =>
        refine spec_begun_none hfirst (due_of_noMessage hs ?_ ?_)
        · rw [h]
          nofun
        · rw [hfirst]
          nofun
    | raised e same =>
        have hdue := due_of_noMessage (k := k) (w := w) hs (by rw [h]; nofun)
          (by rw [hfirst]; nofun)
        rintro t rfl
        rw [beginning, Prog.bind_raise hfirst]
        exact hdue
    | yielded m =>
        by_cases hn : app.isNone m = true
        · rw [answered, if_pos hn] at hfirst
          -- A first message that is None is taken for the end of the stream.
          refine spec_begun_none hfirst (due_of_begins hs rfl ?_ ?_)
          · intro m' t hm
            obtain ⟨t', hm', -⟩ := beginning_some hm
            rw [hfirst] at hm'
            cases hm'
          · constructor
            · intro hb
              refine Bool.eq_false_iff.mpr fun hc => ?_
              have hsome := hb.isSome hc m (congrArg Prod.fst h)
              rw [hn] at hsome
              cases hsome
            · exact begins_of_not_closes
        · rw [answered, if_neg hn] at hfirst
          exact spec_begun_some hs hfirst rfl (congrArg Prod.fst h) (Bool.eq_false_iff.mpr hn)

end Beginning

/-! ## The response -/

/-- What is left of the request settles it. -/
def Ready (app : App p ω ι τ α) (G : Prop) (k : Nat) (response : Response α)
    (s : Run ω ι τ α) : Prop :=
  (post (fun _ => Settled G) (Settled G)).at (consume app k response s).1
    (consume app k response s).2

/-- A list is the end of it. -/
theorem ready_list (app : App p ω ι τ α) {G : Prop} (k : Nat) (body : List Bytes)
    {s : Run ω ι τ α} (h : Settled G s.toCore) : Ready app G k (.list body) s := by
  cases k with
  | zero => exact h
  | succ k => exact h

section Response

variable {app : App p ω ι τ α} (hends : EndsOk app) {st : StreamResponse α} {G : Prop}

include hends

/-- **The stream**: its end closes the handler's stream and then ends the run, unless
    closing raises. -/
theorem spec_responseStream {P Q : Run ω ι τ α → Prop} {first : α} {k : Nat}
    (hloop : Spec P (streaming app st first k) ⟨fun _ => Q, fun _ => Q, fun _ => True⟩)
    (hend : ∀ s, Q s → Spec (fun t => t = s) (endStream app st s.error)
      ⟨fun _ t => Due G t.toCore ∨ Done G t.toCore, fun _ t => Settled G t.toCore,
        fun _ => True⟩) :
    Spec P (responseStream app st first k) (post (fun _ => Settled G) (Settled G)) := by
  have hfinally : Spec Q (streamFinally app st) (post (fun _ => Settled G) (Settled G)) := by
    intro s hs
    have hspec : Spec (fun t => t = s) (streamFinally app st)
        (post (fun _ => Settled G) (Settled G)) := by
      refine Spec.get_of (fun _ h => h) fun t ht => ?_
      rw [ht]
      refine Spec.bind _ (hend s hs) fun _ => ?_
      exact Spec.bind (fun _ s => Settled G s.toCore) ((spec_endRun app hends G s.error).weaken
        (fun _ h => h) (fun _ _ h => h.settled) (fun _ _ h => h.elim) fun _ h => h) fun _ =>
          Spec.modify fun _ h => h
    exact hspec s rfl
  rw [ConnectWsgiWorld.responseStream_eq]
  refine Spec.bind (fun _ s => Settled G s.toCore) (Spec.always (fun _ => Q) (fun _ => Q) hloop
    (fun _ => hfinally) fun _ => hfinally) fun _ => ?_
  exact Invariant.get fun s => Invariant.bind (keeps_endResponse (Settled G) app st s.error)
    fun chunk => keeps_deliver (Settled G) chunk

/-- A method with one response has ended its run before. -/
theorem ready_single (hone : st.endpoint.returnsOne = true) (first : α) (k : Nat)
    {s : Run ω ι τ α} (h : Done G s.toCore) : Ready app G k (.generator st first) s := by
  cases k with
  | zero => exact h.settled
  | succ k =>
      refine spec_responseStream hends (P := fun s => Done G s.toCore)
        (keeps_streaming (steady_done G) app st first k) (fun s hs => ?_) s h
      unfold endStream
      rw [if_pos hone]
      refine Spec.pure ?_
      rintro t rfl
      exact Or.inr hs

/-- **A stream that has begun** is ended as it should be if it is obliging. -/
theorem ready_stream (hone : st.endpoint.returnsOne = false) {k : Nat} {s t : Run ω ι τ α}
    {m : α} (hbegun : beginning app st s = (.ret (some m), t)) (hbegins : Begins app st s)
    (hserving : Serving app.responses.kind s.started t.toCore) :
    Ready app (s.started = [] ∨ Obliging app st k s) k (.generator st m) t := by
  cases k with
  | zero =>
      -- No chunk is taken, so the response stream never gets to run.
      refine Serving.settled hserving.started hserving.calls fun ho => ?_
      exact absurd (ho.taken m t hbegun) (lt_irrefl 0)
  | succ k =>
      -- It runs up to some state, in which it is left.
      refine spec_responseStream hends (P := fun t' => t' = t) (Q := fun t' =>
        Serving app.responses.kind s.started t'.toCore ∧ ∃ o, streaming app st m k t = (o, t'))
        ?_ ?_ t rfl
      · rintro _ rfl
        have hkeeps := keeps_streaming (steady_serving app.responses.kind s.started) app st m k _
          hserving
        cases ho : streaming app st m k _ with
        | mk o t' =>
          rw [ho] at hkeeps
          cases o with
          | ret u => exact ⟨hkeeps, _, rfl⟩
          | raise e => exact ⟨hkeeps, _, rfl⟩
          | stuck => exact trivial
      · rintro t' ⟨hserving', o, ho⟩
        refine (spec_endStream app st hone t'.error hserving'.closes).weaken (fun _ h => h) ?_ ?_
          fun _ h => h
        · -- The stream has obeyed, and it is closed.
          rintro - u ⟨hobeys, hcore⟩
          have hserving'' : Serving app.responses.kind s.started u.toCore := by
            rw [hcore]
            exact steady_serving _ _ _ hserving'
          refine Or.inl (hserving''.due (iff_of_true (congrArg Core.streamOpen hcore) ?_))
          refine ⟨hbegins, fun _ _ _ => Nat.succ_pos k, ?_⟩
          intro m' v hv o' v' hrun hopen
          rw [hbegun] at hv
          cases hv
          rw [Nat.add_sub_cancel, ho] at hrun
          cases hrun
          exact hobeys hopen
        · rintro e u ⟨hnot, hstarted, hcalls⟩
          -- The stream does not obey, and the interceptors are not ended.
          refine Serving.settled (hstarted.trans hserving'.started)
            (hcalls.trans hserving'.calls) fun hobliging => ?_
          exact hnot (hobliging.obeys m t hbegun o t' ho)

end Response

/-! ## The request -/

/-- The rest of the `try` of `_handle_stream`. -/
def respond (app : App p ω ι τ α) (st : StreamResponse α) :
    Option α → Prog (Run ω ι τ α) Exc (Response α)
  | none => do
      let error ← endRun app none
      let chunk ← endResponse app st error
      pure (.list [chunk])
  | some first => pure (.generator st first)

/-- Its `except` clauses. -/
def recover (app : App p ω ι τ α) (st : StreamResponse α) (e : Exc) :
    Prog (Run ω ι τ α) Exc (Response α) :=
  if e.isException then do
    let error ← endRun app (some e)
    match error with
    | none => Prog.raise assertionError
    | some error => do
        await app.drainRequestBody
        maybeLogException app error
        sendHeaders app st
        let chunk ← endResponse app st (some error)
        pure (.list [chunk])
  else do
    let _ ← endRun app (some interrupted)
    Prog.raise e

/-- **A stream** is opened, begun and then responded with. -/
theorem handleStream_eq (app : App p ω ι τ α) (st : StreamResponse α) :
    handleStream app st = Prog.rescue
      (opening app st >>= fun _ => beginning app st >>= respond app st) (recover app st) := by
  rw [handleStream, streamBody]
  congr 1
  simp only [opening, beginning, bind_assoc, pure_bind]
  rfl

/-- After `__call__`: what is left settles the request, or it is settled. -/
def answers (app : App p ω ι τ α) (G : Prop) (k : Nat) : Post (Run ω ι τ α) Exc (Response α) where
  ret := Ready app G k
  raise := fun _ s => Settled G s.toCore
  stuck := fun _ => True

/-- Inside of the `try`, where the run may still have to be ended. -/
def tries (app : App p ω ι τ α) (G : Prop) (k : Nat) : Post (Run ω ι τ α) Exc (Response α) where
  ret := Ready app G k
  raise := fun _ s => Due G s.toCore ∨ Done G s.toCore
  stuck := fun _ => True

/-- The handler returns its stream with the run open. -/
theorem spec_opening (app : App p ω ι τ α) {st : StreamResponse α}
    (hone : st.endpoint.returnsOne = false) :
    Spec (fun s => Unopened s.toCore) (opening app st)
      (post (fun _ => Opened app.responses.kind) Unopened) := by
  refine Spec.bind _ (keeps_startRun app) fun _ => ?_
  refine Spec.bind (fun _ s => Unopened s.toCore) (Spec.ofExcept (fun _ _ _ h => h)
    fun _ _ _ h => h) fun _ => ?_
  rw [openResponses, hone, if_neg Bool.false_ne_true]
  refine Spec.bind _ (keeps_await Unopened app.openStream) fun _ => ?_
  exact Spec.modify fun _ h => ⟨h.ended, h.calls, rfl⟩

section Request

variable {app : App p ω ι τ α} (hends : EndsOk app) {G : Prop} {k : Nat}

include hends

/-- A stream without a message. -/
theorem spec_respond_none (st : StreamResponse α) :
    Spec (fun s => Due G s.toCore ∨ Done G s.toCore) (respond app st none) (tries app G k) := by
  refine Spec.bind (fun _ s => Done G s.toCore) ((spec_endRun app hends G none).weaken
    (fun _ h => h) (fun _ _ h => h) (fun _ _ h => h.elim) fun _ h => h) fun error => ?_
  refine Spec.bind (fun _ s => Done G s.toCore) ((keeps_endResponse (Done G) app st error).weaken
    (fun _ h => h) (fun _ _ h => h) (fun _ _ h => Or.inr h) fun _ h => h) fun chunk => ?_
  exact Spec.pure fun s h => ready_list app k [chunk] h.settled

/-- The `except` clauses end the run, if it has not been. -/
theorem spec_recover (st : StreamResponse α) (e : Exc) :
    Spec (fun s => Due G s.toCore ∨ Done G s.toCore) (recover app st e) (answers app G k) := by
  have hend : ∀ error, Spec (fun s => Due G s.toCore ∨ Done G s.toCore) (endRun app error)
      (post (fun _ => Settled G) (Settled G)) :=
    fun error => (spec_endRun app hends G error).weaken (fun _ h => h) (fun _ _ h => h.settled)
      (fun _ _ h => h.elim) fun _ h => h
  rw [recover]
  by_cases he : e.isException = true
  · rw [if_pos he]
    refine Spec.bind (fun _ s => Settled G s.toCore) (hend (some e)) fun error => ?_
    cases error with
    | none => exact Spec.raise fun _ h => h
    | some error =>
        refine Spec.bind _ (keeps_await (Settled G) app.drainRequestBody) fun _ => ?_
        refine Spec.bind _ (keeps_maybeLogException (Settled G) app error) fun _ => ?_
        refine Spec.bind _ (keeps_sendHeaders (Settled G) app st) fun _ => ?_
        exact Spec.bind _ (keeps_endResponse (Settled G) app st (some error)) fun chunk =>
          Spec.pure fun s h => ready_list app k [chunk] h
  · rw [if_neg he]
    exact Spec.bind (fun _ s => Settled G s.toCore) (hend (some interrupted)) fun _ =>
      Spec.raise fun _ h => h

theorem spec_handleStream (st : StreamResponse α) {P : Run ω ι τ α → Prop}
    (hbody : Spec P (opening app st >>= fun _ => beginning app st >>= respond app st)
      (tries app G k)) : Spec P (handleStream app st) (answers app G k) := by
  rw [handleStream_eq]
  exact Spec.rescue (fun _ s => Due G s.toCore ∨ Done G s.toCore) hbody fun e =>
    spec_recover hends st e

/-- A method with one response ends its run before the response. -/
theorem spec_single {st : StreamResponse α} (hone : st.endpoint.returnsOne = true) :
    Spec (fun s => Unopened s.toCore) (handleStream app st) (answers app True k) := by
  refine spec_handleStream hends st ?_
  refine Spec.bind (fun _ s => Done True s.toCore) ?_ fun _ => ?_
  · refine Spec.bind _ ((keeps_startRun app).weaken (fun _ h => h) (fun _ _ h => h)
      (fun _ _ h => Or.inl h.due) fun _ h => h) fun _ => ?_
    refine Spec.bind (fun _ s => Unopened s.toCore) (Spec.ofExcept (fun _ _ _ h => h)
      fun _ _ _ h => Or.inl h.due) fun _ => ?_
    rw [openResponses, if_pos hone]
    refine Spec.bind _ ((keeps_await Unopened app.callSingle).weaken (fun _ h => h)
      (fun _ _ h => h) (fun _ _ h => Or.inl h.due) fun _ h => h) fun response => ?_
    refine Spec.bind (fun _ s => Done True s.toCore) ((spec_endRun app hends True none).weaken
      (fun _ h => Or.inl h.due) (fun _ _ h => h) (fun _ _ h => h.elim) fun _ h => h)
      fun endError => ?_
    cases endError with
    | none => exact Spec.modify fun _ h => h
    | some e => exact Spec.raise fun _ h => Or.inr h
  · have hbegin : Keeps (Done True) (beginning app st) := by
      refine Invariant.bind (Invariant.bind (keeps_nextMessage (steady_done True) app st)
        fun message => ?_) fun first => Invariant.bind (keeps_sendHeaders (Done True) app st)
          fun _ => Invariant.pure first
      cases message with
      | none => exact Invariant.pure none
      | some message => exact Invariant.pure _
    refine Spec.bind (fun _ s => Done True s.toCore) (hbegin.weaken (fun _ h => h)
      (fun _ _ h => h) (fun _ _ h => Or.inr h) fun _ h => h) fun first => ?_
    cases first with
    | none => exact (spec_respond_none hends st).pre fun _ h => Or.inr h
    | some first => exact Spec.pure fun s h => ready_single hends hone first k h

/-- **A method with a stream of responses**: its interceptors are ended as they should be
    if the stream is obliging, or nothing is. -/
theorem spec_stream {st : StreamResponse α} (hone : st.endpoint.returnsOne = false)
    {u : Run ω ι τ α} (hu : Unopened u.toCore) :
    Spec (fun t => t = u) (handleStream app st) (answers app (∀ s,
      opening app st u = (.ret (), s) → s.started = [] ∨ Obliging app st k s) k) := by
  refine spec_handleStream hends st ?_
  have hopening := spec_opening app hone u hu
  intro t ht
  rw [ht]
  cases ho : opening app st u with
  | mk o s =>
    rw [ho] at hopening
    cases o with
    | stuck =>
        rw [Prog.bind_stuck ho]
        exact trivial
    | raise e =>
        rw [Prog.bind_raise ho]
        have hG : (∀ s', ((.raise e, s) : Outcome Exc Unit × Run ω ι τ α) = (.ret (), s') →
            s'.started = [] ∨ Obliging app st k s') = True :=
          propext (iff_of_true (fun _ => nofun) trivial)
        rw [hG]
        exact Or.inl (Unopened.due hopening)
    | ret a =>
        rw [Prog.bind_ret ho]
        have hG : (∀ s', ((.ret a, s) : Outcome Exc Unit × Run ω ι τ α) = (.ret (), s') →
            s'.started = [] ∨ Obliging app st k s') = (s.started = [] ∨ Obliging app st k s) := by
          refine propext ⟨fun h => h s rfl, ?_⟩
          rintro h _ ⟨⟩
          exact h
        rw [hG]
        refine Spec.bind _ ((spec_beginning (k := k) hone hopening).weaken (fun _ h => h)
          (fun _ _ h => h) (fun _ _ h => Or.inl h) fun _ h => h) (fun first => ?_) s rfl
        cases first with
        | none => exact (spec_respond_none hends st).pre fun _ h => Or.inl h
        | some m =>
            exact Spec.pure fun t h => ready_stream hends hone h.1 h.2.1 h.2.2

/-- A unary method of the Connect protocol ends its run before the response too. -/
theorem spec_handleUnary (u : UnaryResponse α) :
    Spec (fun s => Unopened s.toCore) (handleUnary app u) (answers app True k) := by
  have htry : Keeps Unopened (unaryTry app) := by
    refine Invariant.rescue ?_ fun e => Invariant.ite ?_ ?_
    · refine Invariant.bind (keeps_startRun app) fun _ => ?_
      exact Invariant.bind (keeps_await Unopened app.callUnary) fun response =>
        Invariant.pure (some response)
    · exact Invariant.bind (Invariant.modify fun _ h => h) fun _ => Invariant.pure none
    · exact Invariant.bind (Invariant.modify fun _ h => h) fun _ => Invariant.raise e
  have hfinally : Spec (fun s => Unopened s.toCore) (unaryFinally app)
      (post (fun _ => Settled True) (Settled True)) := by
    refine Spec.get fun s => ?_
    exact Spec.bind (fun _ s => Settled True s.toCore)
      ((spec_endRun app hends True s.error).weaken (fun _ h => Or.inl h.2.due)
        (fun _ _ h => h.settled) (fun _ _ h => h.elim) fun _ h => h) fun _ =>
          Spec.modify fun _ h => h
  rw [ConnectWsgiWorld.handleUnary_eq]
  refine Spec.bind (fun _ s => Settled True s.toCore)
    (Spec.always (fun _ s => Unopened s.toCore) (fun _ s => Unopened s.toCore) htry
      (fun _ => hfinally) fun _ => hfinally) fun response => ?_
  -- The run is settled, so that nothing below can spoil it.
  refine Spec.get fun s => Spec.pre ?_ fun _ h => h.2
  cases s.error with
  | some e => exact Spec.raise fun _ h => h
  | none =>
      cases response with
      | none => exact Spec.raise fun _ h => h
      | some response =>
          dsimp only
          by_cases hn : app.isNone response = true
          · rw [if_pos hn]
            exact Spec.raise fun _ h => h
          · rw [if_neg hn]
            refine Spec.bind (fun _ s => Settled True s.toCore)
              (Spec.ofExcept (fun _ _ _ h => h) fun _ _ _ h => h) fun data => ?_
            refine Spec.bind (fun _ s => Settled True s.toCore)
              (Spec.ofExcept (fun _ _ _ h => h) fun _ _ _ h => h) fun resBytes => ?_
            refine Spec.get fun s => Spec.pre ?_ fun _ h => h.2
            exact Spec.bind _ (keeps_startResponse (Settled True) app 200 _) fun _ =>
              Spec.pure fun s h => ready_list app k [resBytes] h

theorem spec_call (plan : Plan α) (w : ω) :
    Spec (fun s => s = Run.new w) (call app plan) (answers app (Obliged app k w plan) k) := by
  have hnew : Unopened (Run.new w : Run ω ι τ α).toCore := ⟨rfl, rfl, rfl⟩
  refine Spec.rescue (fun _ s => Settled (Obliged app k w plan) s.toCore) ?_ fun e => ?_
  · cases plan with
    | refused protocol hasCtx e he =>
        refine Spec.raise ?_
        rintro s rfl
        exact settled_of_noCalls rfl (iff_of_true rfl trivial)
    | unary u =>
        exact (spec_handleUnary hends u).pre fun s hs => hs ▸ hnew
    | stream st =>
        by_cases hone : st.endpoint.returnsOne = true
        · have hG : Obliged app k w (.stream st) = True :=
            propext (iff_of_true (Or.inl hone) trivial)
          rw [hG]
          exact (spec_single hends hone).pre fun s hs => hs ▸ hnew
        · have hfalse := Bool.eq_false_iff.mpr hone
          have hG : Obliged app k w (.stream st) = ∀ s, opening app st (Run.new w) = (.ret (), s) →
              s.started = [] ∨ Obliging app st k s :=
            propext (or_iff_right hone)
          rw [hG]
          exact spec_stream hends hfalse hnew
  · by_cases he : e.isException = true
    · rw [if_pos he]
      refine Spec.bind _ (keeps_await _ app.drainRequestBody) fun _ => ?_
      refine Spec.bind _ (keeps_maybeLogException _ app e) fun _ => ?_
      exact Spec.bind _ (keeps_handleError _ app e _ _) fun body =>
        Spec.pure fun s h => ready_list app k body h
    · rw [if_neg he]
      exact Spec.raise fun _ h => h

end Request

/-- A method with a stream of responses. -/
def hatStream : Plan Bytes := .stream ⟨.connect, Codec.raw, .identity, .serverStream, .ok ()⟩

end ConnectWsgi
