import ConnectPy.AsgiSenderProofs

/-! # The run of the leading metadata interceptors

    `MetadataInterceptorsRun` starts the interceptors in order and ends those that
    started in reverse order, each with its token and with the error that the one
    before it left.  `end` may be called several times in a request; it goes on
    over exceptions and cancellations of `on_end`, so the first call ends all.

    `Open` is the state before, `Closed` the state after; both also say where the
    messages of the response may stand in the trace: none that has to come after
    `on_end` is sent before the run is closed (`spec_endRun`). -/

namespace ConnectAsgi

open Effect
open ConnectErrors ConnectPlatform

variable {p : Platform} {ω ι τ α β : Type}

/-! ## `start` and `end` -/

/-- `self._started.append((interceptor, token))`. -/
def push (i : ι) (token : τ) (s : Run ω ι τ α) : Run ω ι τ α :=
  { s with toCore := { s.toCore.log [.hookStarted i token] with hooks := (i, token) :: s.hooks } }

/-- The loop of `MetadataInterceptorsRun.start`. -/
def startLoop (env : Env p ω ι τ α) : List ι → Prog (Run ω ι τ α) Exc Unit
  | [] => pure ()
  | i :: rest => do
      let token ← await (env.onStart i)
      Prog.modify (push i token)
      startLoop env rest

/-- `MetadataInterceptorsRun.start`. -/
def startRun (env : Env p ω ι τ α) : Prog (Run ω ι τ α) Exc Unit :=
  startLoop env env.interceptors

/-- The error that a cancelled `on_end` leaves. -/
def requestCancelled : Exc := .connect .canceled "Request was cancelled"

/-- `self._started.pop()`, when these are left. -/
def pop (rest : List (ι × τ)) (s : Run ω ι τ α) : Run ω ι τ α :=
  { s with toCore := { s.toCore with hooks := rest } }

/-- Keep a call of `on_end` in the trace. -/
def logEnd (call : EndCall ι τ) (s : Run ω ι τ α) : Run ω ι τ α :=
  { s with toCore := s.toCore.log [.hookEnded call] }

/-- The loop of `MetadataInterceptorsRun.end`. -/
def endLoop (env : Env p ω ι τ α) (inScope : Bool) :
    List (ι × τ) → Option Exc → Option Exc → Prog (Run ω ι τ α) Exc (Option Exc)
  | [], error, none => pure error
  | [], _, some cancellation => Prog.raise cancellation
  | (i, token) :: rest, error, cancellation => do
      Prog.modify (pop rest)
      let outcome ← Prog.attempt (await (env.onEnd inScope i token error))
      Prog.modify (logEnd ⟨inScope, i, token, error, outcome⟩)
      match outcome with
      | .ok _ => endLoop env inScope rest error cancellation
      | .error e =>
          if e.isException then endLoop env inScope rest (some e) cancellation
          else if e.isCancellation then
            endLoop env inScope rest (some requestCancelled) (some e)
          else Prog.raise e

/-- `MetadataInterceptorsRun.end`. -/
def endRun (env : Env p ω ι τ α) (inScope : Bool) (error : Option Exc) :
    Prog (Run ω ι τ α) Exc (Option Exc) := do
  let s ← Prog.get
  endLoop env inScope s.hooks error none

/-! ## Before and after -/

/-- What was started. -/
def EndCall.hook (call : EndCall ι τ) : ι × τ := (call.interceptor, call.token)

/-- The error after a call of `on_end`: its exception, or a cancellation as such,
    or else the one it was given. -/
def EndCall.left (call : EndCall ι τ) : Option Exc :=
  match call.outcome with
  | .ok _ => call.error
  | .error e => if e.isException then some e else some requestCancelled

/-- While the run is being ended, and before. -/
structure Unwinding (env : Env p ω ι τ α) (streaming : Bool) (c : Core ι τ) : Prop where
  order : c.starts.map Prod.fst <+: env.interceptors
  stack : c.starts.reverse = c.ends.map EndCall.hook ++ c.hooks
  chain : c.ends.IsChain fun call next => next.error = call.left
  early : ∀ x ∈ c.trace, x.isLate streaming = false

/-- Before the run is ended. -/
structure Open (env : Env p ω ι τ α) (streaming : Bool) (c : Core ι τ) : Prop
    extends Unwinding env streaming c where
  noEnds : c.ends = []

/-- After the run was ended: every interceptor that was started was ended once, in
    reverse order, each with the error left by the one before, and nothing that
    has to come afterwards came earlier. -/
structure Closed (env : Env p ω ι τ α) (streaming : Bool) (c : Core ι τ) : Prop where
  order   : c.starts.map Prod.fst <+: env.interceptors
  reverse : c.ends.map EndCall.hook = c.starts.reverse
  chain   : c.ends.IsChain fun call next => next.error = call.left
  late    : c.trace.Pairwise fun x y => x.isLate streaming = true → y.isHook = false
  noHooks : c.hooks = []

/-- Every `on_end` that raises raises an exception or is cancelled. -/
def EndsOk (env : Env p ω ι τ α) : Prop :=
  ∀ inScope i token error w e, (env.onEnd inScope i token error w).1 = .raise e →
    e.isException = true ∨ e.isCancellation = true

/-- The run was ended, if its `on_end` allow it. -/
def Ended (env : Env p ω ι τ α) (streaming : Bool) (c : Core ι τ) : Prop :=
  EndsOk env → Closed env streaming c

/-- The run is before its end, or after it. -/
def Hooked (env : Env p ω ι τ α) (streaming : Bool) (c : Core ι τ) : Prop :=
  EndsOk env → Open env streaming c ∨ Closed env streaming c

/-- With all interceptors ended the promise is kept. -/
theorem Ended.hooked {env : Env p ω ι τ α} {streaming : Bool} {c : Core ι τ}
    (h : Ended env streaming c) : Hooked env streaming c := fun hok => Or.inr (h hok)

/-- With nothing left to end the run is closed. -/
theorem Unwinding.closed {env : Env p ω ι τ α} {streaming : Bool} {c : Core ι τ}
    (h : Unwinding env streaming c) (hc : c.hooks = []) : Closed env streaming c where
  order := h.order
  reverse := by rw [h.stack, hc, List.append_nil]
  chain := h.chain
  late := by
    refine List.pairwise_of_forall_mem_list ?_
    intro x hx y _ hlate
    rw [h.early x hx] at hlate
    exact nomatch hlate
  noHooks := hc

/-! ## What sends and hooks leave alone -/

/-- The events of a send. -/
theorem Sent.log {inScope : Bool} {m : Message} {c c' : Core ι τ} {o : Outcome Exc Unit}
    (h : Sent inScope m c o c') :
    ∃ events : List (Event ι τ), c'.trace = c.trace ++ events ∧ c'.hooks = c.hooks
      ∧ (∀ x ∈ events, x.isHook = false)
      ∧ ∀ streaming, (.sending m : Event ι τ).isLate streaming = false →
        ∀ x ∈ events, x.isLate streaming = false := by
  cases h with
  | sent => exact ⟨_, rfl, rfl, by simp [Event.isHook], by simp +contextual [Event.isLate]⟩
  | raised he taken =>
      refine ⟨_, rfl, rfl, ?_, ?_⟩ <;> cases taken <;>
        simp +contextual [takenEvents, Event.isHook, Event.isLate]
  | @cut origin taken h hscope =>
      refine ⟨_, rfl, rfl, ?_, ?_⟩ <;> cases taken <;>
        simp +contextual [takenEvents, Event.isHook, Event.isLate]
  | pending taken =>
      refine ⟨_, rfl, rfl, ?_, ?_⟩ <;> cases taken <;>
        simp +contextual [takenEvents, Event.isHook, Event.isLate]

/-- Events that are no hooks start and end nothing. -/
theorem filterMap_noHook {events : List (Event ι τ)} (h : ∀ x ∈ events, x.isHook = false) :
    events.filterMap Event.started? = [] ∧ events.filterMap Event.ended? = [] := by
  rw [List.filterMap_eq_nil_iff, List.filterMap_eq_nil_iff]
  constructor <;> intro x hx <;> have hn := h x hx <;> cases x <;> first | rfl | exact nomatch hn

/-- The run of the interceptors is the same in both states. -/
theorem starts_ends_of_noHook {c c' : Core ι τ} {events : List (Event ι τ)}
    (htrace : c'.trace = c.trace ++ events) (hhook : ∀ x ∈ events, x.isHook = false) :
    c'.starts = c.starts ∧ c'.ends = c.ends := by
  obtain ⟨h1, h2⟩ := filterMap_noHook hhook
  rw [Core.starts, Core.ends, htrace, List.filterMap_append, List.filterMap_append, h1, h2,
    List.append_nil, List.append_nil]
  exact ⟨rfl, rfl⟩

/-- What is no hook and may come early leaves the run before its end. -/
theorem Open.beside {env : Env p ω ι τ α} {streaming : Bool} {c c' : Core ι τ}
    {events : List (Event ι τ)} (h : Open env streaming c)
    (htrace : c'.trace = c.trace ++ events) (hhooks : c'.hooks = c.hooks)
    (hhook : ∀ x ∈ events, x.isHook = false)
    (hlate : ∀ x ∈ events, x.isLate streaming = false) : Open env streaming c' := by
  obtain ⟨hstarts, hends⟩ := starts_ends_of_noHook htrace hhook
  refine ⟨⟨?_, ?_, ?_, ?_⟩, by rw [hends, h.noEnds]⟩
  · rw [hstarts]
    exact h.order
  · rw [hstarts, hends, hhooks, h.stack]
  · rw [hends]
    exact h.chain
  · intro x hx
    rw [htrace, List.mem_append] at hx
    exact hx.elim (h.early x) (hlate x)

/-- After the run was ended anything but a hook may come. -/
theorem Closed.beside {env : Env p ω ι τ α} {streaming : Bool} {c c' : Core ι τ}
    {events : List (Event ι τ)} (h : Closed env streaming c)
    (htrace : c'.trace = c.trace ++ events) (hhooks : c'.hooks = c.hooks)
    (hhook : ∀ x ∈ events, x.isHook = false) : Closed env streaming c' := by
  obtain ⟨hstarts, hends⟩ := starts_ends_of_noHook htrace hhook
  refine ⟨?_, ?_, ?_, ?_, hhooks.trans h.noHooks⟩
  · rw [hstarts]
    exact h.order
  · rw [hstarts, hends, h.reverse]
  · rw [hends]
    exact h.chain
  · rw [htrace]
    refine List.pairwise_append.mpr ⟨h.late, List.pairwise_of_forall_mem_list ?_, ?_⟩
    · exact fun x _ y hy _ => hhook y hy
    · exact fun x _ y hy _ => hhook y hy

/-- A statement about the interceptor run that a message with more to come keeps,
    and so does what goes wrong between two messages. -/
structure AboutHooks (K : Core ι τ → Prop) : Prop where
  sent  : ∀ {inScope : Bool} {m : Message} {c c' : Core ι τ} {o : Outcome Exc Unit},
    m.isFinal = false → K c → Sent inScope m c o c' → K c'
  build : ∀ c, K c → K (c.log [.buildRaised])

/-- Sending does not start or end interceptors. -/
theorem Ended.sent {env : Env p ω ι τ α} {inScope streaming : Bool} {m : Message} {c c' : Core ι τ}
    {o : Outcome Exc Unit} (h : Ended env streaming c) (hs : Sent inScope m c o c') :
    Ended env streaming c' := by
  intro hok
  obtain ⟨events, htrace, hhooks, hhook, -⟩ := hs.log
  exact (h hok).beside htrace hhooks hhook

/-- A response that cannot be built is no event of an interceptor. -/
theorem noHook_buildRaised : ∀ x ∈ [(.buildRaised : Event ι τ)], x.isHook = false := by
  intro x hx
  obtain rfl := List.mem_singleton.mp hx
  rfl

/-- Whether they have ended is a matter of the interceptors only. -/
theorem aboutHooks_ended (env : Env p ω ι τ α) (streaming : Bool) :
    AboutHooks (Ended env streaming) where
  sent _ h hs := h.sent hs
  build _ h hok := (h hok).beside rfl rfl noHook_buildRaised

/-- While a response is streamed its run may still be open. -/
theorem aboutHooks_hooked (env : Env p ω ι τ α) : AboutHooks (Hooked env true) where
  sent := by
    intro inScope m c c' o hm h hs hok
    obtain ⟨events, htrace, hhooks, hhook, hlate⟩ := hs.log
    exact (h hok).imp (fun ho => ho.beside htrace hhooks hhook (hlate true hm))
      fun hc => hc.beside htrace hhooks hhook
  build := by
    intro c h hok
    refine (h hok).imp (fun ho => ho.beside rfl rfl noHook_buildRaised ?_)
      fun hc => hc.beside rfl rfl noHook_buildRaised
    intro x hx
    obtain rfl := List.mem_singleton.mp hx
    rfl

/-- Two states between which nothing was sent. -/
structure SameSends (c c' : Core ι τ) : Prop where
  messages : c'.messages = c.messages
  started  : c'.started = c.started
  failed   : c'.failed = c.failed
  quiet    : Quiet c → Quiet c'
  troubled : c.Troubled → c'.Troubled

/-- A statement about the response only. -/
def AboutSends (X : Core ι τ → Prop) : Prop := ∀ c c', SameSends c c' → X c → X c'

/-- Events that are not of sending change nothing that was sent. -/
theorem sameSends_log (c : Core ι τ) (events : List (Event ι τ))
    (h : ∀ x ∈ events, x.isOfSend = false) (hooks : List (ι × τ)) :
    SameSends c { c.log events with hooks := hooks } := by
  have hraised : ∀ x ∈ events, x.isRaised = false := by
    intro x hx
    have hh := h x hx
    cases x <;> first | rfl | exact nomatch hh
  have hsending : ∀ x ∈ events, x.isSending = false := by
    intro x hx
    have hh := h x hx
    cases x <;> first | rfl | exact nomatch hh
  have htaken : events.filterMap Event.taken? = [] := by
    rw [List.filterMap_eq_nil_iff]
    intro x hx
    have hh := h x hx
    cases x <;> first | rfl | exact nomatch hh
  refine ⟨?_, rfl, rfl, ?_, ?_⟩
  · show (c.log events).messages = c.messages
    rw [Core.messages_log, htaken, List.append_nil]
  · intro hq
    refine ⟨List.pairwise_append.mpr ⟨hq.order, List.pairwise_of_forall_mem_list ?_, ?_⟩, ?_⟩
    · exact fun x _ y hy _ => hsending y hy
    · exact fun x _ y hy _ => hsending y hy
    · intro hf x hx
      exact (List.mem_append.mp hx).elim (hq.calm hf x) (hraised x)
  · rintro ⟨x, hx, ht⟩
    exact ⟨x, List.mem_append_left _ hx, ht⟩

/-- Whether a response has started is a matter of what was sent. -/
theorem aboutSends_idle : AboutSends (Idle : Core ι τ → Prop) := fun _ _ h hc =>
  ⟨h.quiet hc.quiet, h.messages.trans hc.messages, h.started.trans hc.started,
    h.failed.trans hc.failed⟩

/-- Whether its body is being sent. -/
theorem aboutSends_streaming (trailers : Bool) :
    AboutSends (Streaming trailers : Core ι τ → Prop) := by
  intro c c' h hc
  obtain ⟨status, headers, bodies, hm⟩ := hc.messages
  exact ⟨h.quiet hc.quiet, ⟨status, headers, bodies, h.messages.trans hm⟩,
    h.started.trans hc.started, h.failed.trans hc.failed⟩

/-- Whether only the trailers are left. -/
theorem aboutSends_closing (trailers : Bool) :
    AboutSends (Closing trailers : Core ι τ → Prop) := by
  intro c c' h hc
  obtain ⟨status, headers, bodies, last, hm⟩ := hc.messages
  exact ⟨h.quiet hc.quiet, ⟨status, headers, bodies, last, h.messages.trans hm⟩,
    h.started.trans hc.started, h.failed.trans hc.failed⟩

/-- Whether no more than its beginning was taken. -/
theorem aboutSends_over : AboutSends (Over : Core ι τ → Prop) := fun _ _ h hc =>
  ⟨h.quiet hc.quiet, by rw [h.messages]; exact hc.fits⟩

/-- Whether it is complete. -/
theorem aboutSends_complete : AboutSends (Complete : Core ι τ → Prop) := fun _ _ h hc =>
  ⟨h.quiet hc.quiet, by rw [h.messages]; exact hc.response, h.started.trans hc.started⟩

/-- Whether sending it failed. -/
theorem aboutSends_failed : AboutSends (Failed : Core ι τ → Prop) := fun c c' h hc =>
  ⟨aboutSends_over c c' h hc.toOver, h.failed.trans hc.failed, h.troubled hc.troubled⟩

/-- Whether it is over by a failure. -/
theorem aboutSends_spent : AboutSends (Spent : Core ι τ → Prop) := by
  intro c c' h hc
  refine ⟨aboutSends_over c c' h hc.toOver, ?_, h.troubled hc.troubled⟩
  rw [h.started, h.failed]
  exact hc.blocked

/-- And what is either of two such matters. -/
theorem AboutSends.or {X Y : Core ι τ → Prop} (hX : AboutSends X) (hY : AboutSends Y) :
    AboutSends fun c => X c ∨ Y c :=
  fun c c' h hc => hc.imp (hX c c' h) (hY c c' h)

/-! ## Starting -/

/-- An interceptor that has started is to be ended first. -/
theorem Open.push {env : Env p ω ι τ α} {streaming : Bool} {c : Core ι τ} {i : ι}
    {rest : List ι} (h : Open env streaming c)
    (hrest : c.starts.map Prod.fst ++ i :: rest = env.interceptors) (token : τ) :
    Open env streaming { c.log [.hookStarted i token] with hooks := (i, token) :: c.hooks }
      ∧ (c.log [.hookStarted i token]).starts.map Prod.fst ++ rest = env.interceptors := by
  have hstarts : (c.log [.hookStarted i token]).starts = c.starts ++ [(i, token)] :=
    Core.starts_log c _
  have hends : (c.log [.hookStarted i token]).ends = [] := by
    rw [Core.ends_log, h.noEnds]
    rfl
  have hmap : (c.log [.hookStarted i token]).starts.map Prod.fst ++ rest = env.interceptors := by
    rw [hstarts, List.map_append, List.append_assoc]
    exact hrest
  -- Nothing was ended yet, so the starts in reverse are the hooks to end.
  have hstack : c.starts.reverse = c.hooks := by
    have hs := h.stack
    rw [h.noEnds] at hs
    exact hs
  refine ⟨⟨⟨⟨rest, hmap⟩, ?_, ?_, ?_⟩, hends⟩, hmap⟩
  · show (c.log [.hookStarted i token]).starts.reverse
      = (c.log [.hookStarted i token]).ends.map EndCall.hook ++ (i, token) :: c.hooks
    rw [hstarts, hends, List.reverse_append, hstack]
    rfl
  · show (c.log [.hookStarted i token]).ends.IsChain _
    rw [hends]
    exact List.IsChain.nil
  · intro x hx
    rcases List.mem_append.mp hx with hx | hx
    · exact h.early x hx
    · obtain rfl := List.mem_singleton.mp hx
      rfl

/-- The interceptors start in order, up to the one that raises. -/
theorem spec_startLoop (env : Env p ω ι τ α) (streaming : Bool) {X : Core ι τ → Prop}
    (hX : AboutSends X) : ∀ rest : List ι,
      Spec (fun s : Run ω ι τ α => X s.toCore ∧ Open env streaming s.toCore
          ∧ s.toCore.starts.map Prod.fst ++ rest = env.interceptors)
        (startLoop env rest)
        ⟨fun _ s => X s.toCore ∧ Open env streaming s.toCore,
          fun _ s => X s.toCore ∧ Open env streaming s.toCore, fun s => X s.toCore⟩ := by
  intro rest
  induction rest with
  | nil => exact Spec.pure fun s hs => ⟨hs.1, hs.2.1⟩
  | cons i rest ih =>
      refine Spec.bind _ ((spec_await (fun c => X c ∧ Open env streaming c
        ∧ c.starts.map Prod.fst ++ i :: rest = env.interceptors) (env.onStart i)).weaken
          (fun _ h => h) (fun _ _ h => h) (fun _ s h => ⟨h.1, h.2.1⟩) fun s h => h.1) ?_
      intro token
      refine Spec.bind (fun _ s => X s.toCore ∧ Open env streaming s.toCore
        ∧ s.toCore.starts.map Prod.fst ++ rest = env.interceptors) ?_ fun _ => ih
      refine Spec.modify ?_
      rintro s ⟨hx, hopen, hrest⟩
      obtain ⟨hopen', hrest'⟩ := hopen.push hrest token
      refine ⟨hX _ _ (sameSends_log s.toCore _ ?_ _) hx, hopen', hrest'⟩
      intro x hx
      obtain rfl := List.mem_singleton.mp hx
      rfl

/-- **Starting** keeps the response as it is, whether or not it comes to its end. -/
theorem spec_startRun (env : Env p ω ι τ α) (streaming : Bool) {X : Core ι τ → Prop}
    (hX : AboutSends X) :
    Spec (fun s : Run ω ι τ α => X s.toCore ∧ Open env streaming s.toCore
        ∧ s.toCore.starts = [])
      (startRun env)
      ⟨fun _ s => X s.toCore ∧ Open env streaming s.toCore,
        fun _ s => X s.toCore ∧ Open env streaming s.toCore, fun s => X s.toCore⟩ :=
  (spec_startLoop env streaming hX env.interceptors).pre fun s h =>
    ⟨h.1, h.2.1, by rw [h.2.2]; rfl⟩

/-! ## Ending -/

/-- The loop of `end` stands before these interceptors, with this error. -/
def Ending (env : Env p ω ι τ α) (streaming : Bool) (stack : List (ι × τ)) (error : Option Exc)
    (c : Core ι τ) : Prop :=
  c.hooks = stack ∧ (EndsOk env →
    (Unwinding env streaming c ∧ ∀ call ∈ c.ends.getLast?, call.left = error)
      ∨ (Closed env streaming c ∧ stack = []))

/-- The same while an `on_end` is awaited: its interceptor was taken off. -/
def Awaiting (env : Env p ω ι τ α) (streaming : Bool) (hook : ι × τ) (rest : List (ι × τ))
    (error : Option Exc) (c : Core ι τ) : Prop :=
  c.hooks = rest ∧ (EndsOk env →
    Unwinding env streaming { c with hooks := hook :: rest }
      ∧ ∀ call ∈ c.ends.getLast?, call.left = error)

/-- The last one started is the next to end. -/
theorem Ending.pop {env : Env p ω ι τ α} {streaming : Bool} {hook : ι × τ}
    {rest : List (ι × τ)} {error : Option Exc} {c : Core ι τ}
    (h : Ending env streaming (hook :: rest) error c) :
    Awaiting env streaming hook rest error { c with hooks := rest } := by
  refine ⟨rfl, fun hok => ?_⟩
  rcases h.2 hok with ⟨hu, hleft⟩ | ⟨-, hnil⟩
  · have heq : ({ c with hooks := hook :: rest } : Core ι τ) = c := by
      rw [← h.1]
    exact ⟨heq ▸ hu, hleft⟩
  · exact nomatch hnil

/-- A call of `on_end` leaves its error to the next one. -/
theorem Awaiting.logEnd {env : Env p ω ι τ α} {streaming : Bool} {i : ι} {token : τ}
    {rest : List (ι × τ)} {error : Option Exc} {c : Core ι τ}
    (h : Awaiting env streaming (i, token) rest error c) (inScope : Bool)
    (outcome : Except Exc Unit) :
    Ending env streaming rest (EndCall.left ⟨inScope, i, token, error, outcome⟩)
      (c.log [.hookEnded ⟨inScope, i, token, error, outcome⟩]) := by
  refine ⟨h.1, fun hok => Or.inl ?_⟩
  obtain ⟨hu, hleft⟩ := h.2 hok
  have hends : (c.log [.hookEnded ⟨inScope, i, token, error, outcome⟩]).ends
      = c.ends ++ [⟨inScope, i, token, error, outcome⟩] := Core.ends_log c _
  have hstarts : (c.log [.hookEnded ⟨inScope, i, token, error, outcome⟩]).starts = c.starts :=
    (Core.starts_log c _).trans (List.append_nil _)
  refine ⟨⟨?_, ?_, ?_, ?_⟩, ?_⟩
  · rw [hstarts]
    exact hu.order
  · -- The call moves its hook from the stack to the calls.
    have hstack : c.starts.reverse = c.ends.map EndCall.hook ++ (i, token) :: rest := hu.stack
    have hhooks : (c.log [.hookEnded ⟨inScope, i, token, error, outcome⟩]).hooks = rest := h.1
    rw [hstarts, hends, hhooks, hstack, List.map_append, List.append_assoc]
    rfl
  · rw [hends]
    -- It was given the error that the call before it left.
    refine List.isChain_append.mpr ⟨hu.chain, List.IsChain.singleton _, ?_⟩
    intro call hcall next hnext
    obtain rfl : _ = next := Option.some.inj hnext
    exact (hleft call hcall).symm
  · intro x hx
    rcases List.mem_append.mp hx with hx | hx
    · exact hu.early x hx
    · obtain rfl := List.mem_singleton.mp hx
      rfl
  · intro call hcall
    rw [hends, List.getLast?_concat] at hcall
    obtain rfl := Option.some.inj hcall
    rfl

/-- How an `on_end` may come out where `EndsOk` is assumed. -/
def Allowed (env : Env p ω ι τ α) (outcome : Except Exc Unit) : Prop :=
  ∀ e, outcome = .error e → EndsOk env → e.isException = true ∨ e.isCancellation = true

/-- Taking it from the stack sends nothing. -/
theorem sameSends_pop (c : Core ι τ) (rest : List (ι × τ)) :
    SameSends c { c with hooks := rest } := by
  have h := sameSends_log c [] (fun _ hx => absurd hx List.not_mem_nil) rest
  rw [Core.log, List.append_nil] at h
  exact h

/-- With none left to end, all have ended. -/
theorem Ending.ended {env : Env p ω ι τ α} {streaming : Bool} {error : Option Exc}
    {c : Core ι τ} (h : Ending env streaming [] error c) : Ended env streaming c := by
  intro hok
  rcases h.2 hok with ⟨hu, -⟩ | ⟨hc, -⟩
  · exact hu.closed h.1
  · exact hc

/-- Whoever cancels an `on_end` after the timeout scope leaves a mark. -/
theorem troubled_of_interrupted {c : Core ι τ} {i : ι} {token : τ} {error : Option Exc} {e : Exc}
    (he : ¬ e.isException = true) :
    (c.log [.hookEnded ⟨false, i, token, error, .error e⟩]).Troubled := by
  refine ⟨_, List.mem_append_right _ List.mem_cons_self, ?_⟩
  show (!e.isException) = true
  rw [Bool.eq_false_iff.mpr he]
  rfl

/-- After a call of `on_end` that came out so: an interruption after the timeout scope is
    remembered along with `X`. -/
def Marked (X : Core ι τ → Prop) (inScope : Bool) (outcome : Except Exc Unit) (c : Core ι τ) :
    Prop :=
  X c ∧ ((∃ e, outcome = .error e ∧ ¬ e.isException = true ∧ inScope = false) → c.Troubled)

/-- What an interruption leaves is a matter of what was sent. -/
theorem aboutSends_marked {X : Core ι τ → Prop} (hX : AboutSends X) (inScope : Bool)
    (outcome : Except Exc Unit) : AboutSends (Marked X inScope outcome) :=
  fun c c' h hc => ⟨hX c c' h hc.1, fun he => h.troubled (hc.2 he)⟩

/-- **One call of `on_end`**: take the interceptor off, await it and keep the call. -/
theorem spec_endCall {env : Env p ω ι τ α} {inScope streaming : Bool} {X : Core ι τ → Prop}
    (hX : AboutSends X) {i : ι} {token : τ} {rest : List (ι × τ)} {error : Option Exc}
    {f : Except Exc Unit → Prog (Run ω ι τ α) Exc β} {Q : Post (Run ω ι τ α) Exc β}
    (hf : ∀ outcome, Allowed env outcome →
      Spec (fun s => Marked X inScope outcome s.toCore ∧ Ending env streaming rest
        (EndCall.left ⟨inScope, i, token, error, outcome⟩) s.toCore) (f outcome) Q)
    (hstuck : ∀ s, X s.toCore → Q.stuck s) :
    Spec (fun s => X s.toCore ∧ Ending env streaming ((i, token) :: rest) error s.toCore)
      (do
        Prog.modify (pop rest)
        let outcome ← Prog.attempt (await (env.onEnd inScope i token error))
        Prog.modify (logEnd ⟨inScope, i, token, error, outcome⟩)
        f outcome) Q := by
  refine Spec.bind (fun _ s => X s.toCore
    ∧ Awaiting env streaming (i, token) rest error s.toCore) ?_ fun _ => ?_
  · refine Spec.modify ?_
    rintro s ⟨hx, hending⟩
    exact ⟨hX _ _ (sameSends_pop s.toCore rest) hx, hending.pop⟩
  refine Spec.bind (fun outcome s => Allowed env outcome ∧ X s.toCore
      ∧ Awaiting env streaming (i, token) rest error s.toCore) ?_ fun outcome => ?_
  -- What is raised may be a cancellation, if the hooks raise such.
  · have hallowed : ∀ w e, (env.onEnd inScope i token error w).1 = .raise e →
        Allowed env (.error e) := by
      intro w e he e' heq
      obtain rfl := Except.error.inj heq
      exact fun hok => hok inScope i token error w e he
    have hawait := spec_await_raise (α := α) (fun c => X c
      ∧ Awaiting env streaming (i, token) rest error c) hallowed
    exact Spec.attempt (hawait.weaken (fun _ h => h) (fun _ _ h => ⟨nofun, h⟩)
      (fun _ _ h => h) fun s h => hstuck s h.1)
  -- The call is kept whatever its outcome, and goes on from there.
  refine Spec.assume fun hok => ?_
  refine Spec.bind (fun _ s => Marked X inScope outcome s.toCore ∧ Ending env streaming rest
    (EndCall.left ⟨inScope, i, token, error, outcome⟩) s.toCore) ?_ fun _ => hf outcome hok
  refine Spec.modify ?_
  rintro s ⟨hx, hawaiting⟩
  refine ⟨⟨hX _ _ (sameSends_log s.toCore _ ?_ s.toCore.hooks) hx, ?_⟩,
    hawaiting.logEnd inScope outcome⟩
  · intro x hx
    obtain rfl := List.mem_singleton.mp hx
    rfl
  · rintro ⟨e, rfl, he, rfl⟩
    exact troubled_of_interrupted he

/-- The interceptors end in reverse, whatever they raise. -/
theorem spec_endLoop (env : Env p ω ι τ α) (inScope streaming : Bool) {X : Core ι τ → Prop}
    (hX : AboutSends X) : ∀ (stack : List (ι × τ)) (error cancellation : Option Exc),
      (∀ e, cancellation = some e → ∀ c, X c → inScope = false → c.Troubled) →
      Spec (fun s : Run ω ι τ α => X s.toCore ∧ Ending env streaming stack error s.toCore)
        (endLoop env inScope stack error cancellation)
        ⟨fun error' s => (X s.toCore ∧ Ended env streaming s.toCore)
            ∧ (error' = none → error = none),
          fun _ s => (X s.toCore ∧ Ended env streaming s.toCore)
            ∧ (inScope = false → s.toCore.Troubled),
          fun s => X s.toCore⟩ := by
  intro stack
  induction stack generalizing X with
  | nil =>
      intro error cancellation hcancel
      cases cancellation with
      | none => exact Spec.pure fun s hs => ⟨⟨hs.1, hs.2.ended⟩, id⟩
      | some e => exact Spec.raise fun s hs => ⟨⟨hs.1, hs.2.ended⟩, hcancel e rfl _ hs.1⟩
  | cons hook rest ih =>
      intro error cancellation hcancel
      obtain ⟨i, token⟩ := hook
      refine spec_endCall hX (fun outcome hok => ?_) fun _ h => h
      have hmark := aboutSends_marked hX inScope outcome
      -- Go on with the error it left.
      cases outcome with
      | ok u =>
          exact (ih hmark error cancellation fun e he c hx => hcancel e he c hx.1).weaken
            (fun _ h => h) (fun _ _ h => ⟨⟨h.1.1.1, h.1.2⟩, h.2⟩)
            (fun _ _ h => ⟨⟨h.1.1.1, h.1.2⟩, h.2⟩) fun _ h => h.1
      | error e =>
          by_cases hexc : e.isException = true
          · have hleft : EndCall.left ⟨inScope, i, token, error, .error e⟩ = some e := if_pos hexc
            rw [hleft]
            dsimp only
            rw [if_pos hexc]
            exact (ih hmark (some e) cancellation fun e he c hx => hcancel e he c hx.1).weaken
              (fun _ h => h) (fun _ _ h => ⟨⟨h.1.1.1, h.1.2⟩, fun hn => nomatch h.2 hn⟩)
              (fun _ _ h => ⟨⟨h.1.1.1, h.1.2⟩, h.2⟩) fun _ h => h.1
          · have hleft : EndCall.left ⟨inScope, i, token, error, .error e⟩
                = some requestCancelled := if_neg hexc
            rw [hleft]
            dsimp only
            rw [if_neg hexc]
            by_cases hcan : e.isCancellation = true
            · rw [if_pos hcan]
              exact (ih hmark (some requestCancelled) (some e)
                fun _ _ c hx hscope => hx.2 ⟨e, rfl, hexc, hscope⟩).weaken
                (fun _ h => h) (fun _ _ h => ⟨⟨h.1.1.1, h.1.2⟩, fun hn => nomatch h.2 hn⟩)
                (fun _ _ h => ⟨⟨h.1.1.1, h.1.2⟩, h.2⟩) fun _ h => h.1
            · rw [if_neg hcan]
              refine Spec.raise ?_
              rintro s ⟨⟨hx, ht⟩, -⟩
              refine ⟨⟨hx, fun hends => ?_⟩, fun hscope => ht ⟨e, rfl, hexc, hscope⟩⟩
              exact (hok e rfl hends).elim (fun h => absurd h hexc) fun h => absurd h hcan

/-- **Ending.**  However `end` comes out, no started interceptor is left, and what
    was sent stays as it was.  An error it was given is not lost.  It raises only
    where an `on_end` was interrupted. -/
theorem spec_endRun (env : Env p ω ι τ α) (inScope streaming : Bool) {X : Core ι τ → Prop}
    (hX : AboutSends X) (error : Option Exc) :
    Spec (fun s : Run ω ι τ α => X s.toCore ∧ Hooked env streaming s.toCore)
      (endRun env inScope error)
      ⟨fun error' s => (X s.toCore ∧ Ended env streaming s.toCore) ∧ (error' = none → error = none),
        fun _ s => (X s.toCore ∧ Ended env streaming s.toCore)
          ∧ (inScope = false → s.toCore.Troubled),
        fun s => X s.toCore⟩ := by
  refine Spec.get fun s => ?_
  refine (spec_endLoop env inScope streaming hX s.hooks error none nofun).pre ?_
  rintro t ⟨rfl, hx, hhooked⟩
  refine ⟨hx, rfl, fun hok => ?_⟩
  rcases hhooked hok with hopen | hclosed
  · refine Or.inl ⟨hopen.toUnwinding, ?_⟩
    intro call hcall
    rw [hopen.noEnds] at hcall
    exact nomatch hcall
  · exact Or.inr ⟨hclosed, hclosed.noHooks⟩

end ConnectAsgi
