import ConnectPy.AsgiRequestProofs
import Mathlib.Order.Lattice

/-! # What cut a request short — its deadline or its client

    A request runs in a scope with a deadline.  A watch receives the client's disconnect
    and then moves the deadline up to the present, so both end the request in one way:
    the scope expires.  `_timeout_error` tells them apart afterwards, by whether the
    deadline was moved to a time before the one the request came with.

    The flag that a disconnect was received does not tell: it may be set while the
    request is cleaned up behind its deadline.  Over all runs, in whatever order things
    happen, the scope's deadline is the request's own until the watch moves it, and then
    the time of that (`Moved`). -/

namespace ConnectDisconnect

open ConnectErrors ConnectAsgi

/-- `AsyncioLoop` and `TrioLoop`. -/
inductive Loop
  | asyncio | trio
  deriving DecidableEq

/-! ## The receiver -/

/-- The type of the message that `receive()` returned. -/
inductive Message
  | request (moreBody : Bool)
  | disconnect
  | other
  deriving DecidableEq

/-- The flags of `_RequestReceiver`. -/
structure RequestReceiver where
  bodyDone     : Bool
  disconnected : Bool

/-- `_RequestReceiver.__call__`. -/
def RequestReceiver.call (receive : RequestReceiver) : Message → RequestReceiver
  | .request moreBody => { receive with bodyDone := receive.bodyDone || !moreBody }
  | .disconnect => { receive with disconnected := true }
  | .other => receive

/-! ## The scope -/

variable {T : Type} [LinearOrder T]

/-- `asyncio.Timeout` or `TrioTimeout`: its deadline, whether that has passed for it, and
    whether it swallowed its cancellation at the end. -/
structure Timeout (T : Type) where
  when            : Option T
  cancelled       : Bool
  cancelledCaught : Bool

/-- `expired()`. -/
def Timeout.expired (loop : Loop) (scope : Timeout T) : Bool :=
  match loop with
  | .asyncio => scope.cancelled
  | .trio => scope.cancelledCaught

/-- `reschedule(when)`. -/
def Timeout.reschedule (scope : Timeout T) (time : T) : Timeout T :=
  { scope with when := some time }

/-- The scope may be cancelled now.  An asyncio timer runs up to the resolution of the
    clock early, so nothing is asked of it here. -/
def Timeout.due (loop : Loop) (scope : Timeout T) (now : T) : Bool :=
  match loop, scope.when with
  | _, none => false
  | .asyncio, some _ => !scope.cancelled
  | .trio, some time => !scope.cancelled && decide (time ≤ now)

/-! ## A request -/

/-- Where `watch_for_disconnect` is. -/
inductive Watch
  | notYet | running | over
  deriving DecidableEq

structure Request (T : Type) where
  receive  : RequestReceiver
  timeout  : Timeout T
  deadline : Option T
  watch    : Watch

/-- At the beginning of `_handle_request`. -/
def Request.start : Request T where
  receive := ⟨false, false⟩
  timeout := ⟨none, false, false⟩
  deadline := none
  watch := .notYet

/-- What can happen.  Between two of these the handler and the hooks run or wait. -/
inductive Event (T : Type)
  | timeoutKnown (deadline : T)   -- the request has a timeout
  | bodyDone                      -- there is no body to read
  | received (message : Message)  -- by the handler or by the watch
  | watched                       -- the watch begins
  | disconnectActedOn             -- the watch moves the deadline
  | unwatched                     -- the watch ends without that
  | fired                         -- the scope is cancelled
  | caught                        -- the scope swallows its cancellation
  deriving DecidableEq

/-- The condition behind the loop of the watch. -/
def actsOn (loop : Loop) (cancel : Bool) (request : Request T) : Bool :=
  match loop with
  | .asyncio => request.receive.disconnected && !request.timeout.expired loop
  | .trio => cancel && request.receive.disconnected

/-- One event at its time, if it can happen. -/
def step (loop : Loop) (cancel : Bool) (request : Request T) (now : T) :
    Event T → Option (Request T)
  | .timeoutKnown deadline =>
      -- Before anything is awaited.
      if request.watch = .notYet ∧ request.deadline = none then
        some { request with
          deadline := some deadline, timeout := request.timeout.reschedule deadline }
      else none
  | .bodyDone => some { request with receive := { request.receive with bodyDone := true } }
  | .received message => some { request with receive := request.receive.call message }
  | .watched => if request.watch = .notYet then some { request with watch := .running } else none
  | .disconnectActedOn =>
      if request.watch = .running ∧ request.receive.bodyDone = true
          ∧ actsOn loop cancel request = true then
        some { request with watch := .over, timeout := request.timeout.reschedule now }
      else none
  | .unwatched => if request.watch = .running then some { request with watch := .over } else none
  | .fired =>
      if request.timeout.due loop now then
        some { request with timeout := { request.timeout with cancelled := true } }
      else none
  | .caught =>
      if request.timeout.cancelled then
        some { request with timeout := { request.timeout with cancelledCaught := true } }
      else none

/-- What happened, and when; time does not go back. -/
inductive Run (loop : Loop) (cancel : Bool) : List (T × Event T) → Request T → T → Prop
  | start (now : T) : Run loop cancel [] .start now
  | step {trace request request' now time event} : Run loop cancel trace request now → now ≤ time →
      step loop cancel request time event = some request' →
      Run loop cancel (trace ++ [(time, event)]) request' time

/-- `deadline is None or when is None or when < deadline`. -/
def before : Option T → Option T → Bool
  | _, none => true
  | none, some _ => true
  | some time, some deadline => decide (time < deadline)

/-- `_timeout_error`. -/
def timeoutError (loop : Loop) (timeout : Timeout T) (receive : RequestReceiver)
    (deadline : Option T) (error : Exc) : Exc :=
  if !timeout.expired loop then error
  else if receive.disconnected && before timeout.when deadline then
    .connect .canceled "Client disconnected"
  else .connect .deadlineExceeded "Request timed out"

/-- The disconnect was acted on before the deadline, or there is none. -/
def ActedOnBefore (trace : List (T × Event T)) (deadline : Option T) : Prop :=
  ∃ time, (time, Event.disconnectActedOn) ∈ trace ∧ ∀ d, deadline = some d → time < d

/-! ## The deadline of the scope -/

/-- What a run has made of the scope: its deadline is the request's until the disconnect is
    acted on, and then the time of that. -/
structure Moved (trace : List (T × Event T)) (request : Request T) : Prop where
  waiting   : request.watch ≠ .over → ∀ time, (time, Event.disconnectActedOn) ∉ trace
  unmoved   : (∀ time, (time, Event.disconnectActedOn) ∉ trace) →
    request.timeout.when = request.deadline
  moved     : ∀ time, (time, Event.disconnectActedOn) ∈ trace →
    request.timeout.when = some time ∧ request.receive.disconnected = true
  cancelled : request.timeout.cancelled = true → request.timeout.when ≠ none
  caught    : request.timeout.cancelledCaught = true → request.timeout.cancelled = true

omit [LinearOrder T] in
theorem moved_start : Moved [] (Request.start : Request T) where
  waiting _ _ := List.not_mem_nil
  unmoved _ := rfl
  moved _ h := nomatch h
  cancelled h := nomatch h
  caught h := nomatch h

omit [LinearOrder T] in
/-- A disconnect stays received. -/
theorem RequestReceiver.call_disconnected {receive : RequestReceiver}
    (h : receive.disconnected = true) (message : Message) :
    (receive.call message).disconnected = true := by
  cases message with
  | request moreBody => exact h
  | disconnect => rfl
  | other => exact h

omit [LinearOrder T] in
/-- An event other than the watch's own, which leaves the deadlines alone. -/
theorem Moved.other {trace : List (T × Event T)} {request request' : Request T} {time : T}
    {event : Event T} (h : Moved trace request) (hevent : event ≠ .disconnectActedOn)
    (hwatch : request'.watch ≠ .over → request.watch ≠ .over)
    (hreceive : request.receive.disconnected = true → request'.receive.disconnected = true)
    (hwhen : request'.timeout.when = request.timeout.when)
    (hdeadline : request'.deadline = request.deadline)
    (hcancelled : request'.timeout.cancelled = true → request'.timeout.when ≠ none)
    (hcaught : request'.timeout.cancelledCaught = true → request'.timeout.cancelled = true) :
    Moved (trace ++ [(time, event)]) request' := by
  have hmem : ∀ t, (t, Event.disconnectActedOn) ∈ trace ++ [(time, event)]
      ↔ (t, Event.disconnectActedOn) ∈ trace := by
    intro t
    rw [List.mem_append, List.mem_singleton]
    constructor
    · rintro (hmem | heq)
      · exact hmem
      · exact absurd (Prod.mk.inj heq).2.symm hevent
    · exact Or.inl
  refine ⟨fun hover t => ?_, fun hnone => ?_, fun t ht => ?_, hcancelled, hcaught⟩
  · rw [hmem]
    exact h.waiting (hwatch hover) t
  · rw [hwhen, hdeadline]
    exact h.unmoved fun t ht => hnone t ((hmem t).mpr ht)
  · obtain ⟨hmoved, hdisconnected⟩ := h.moved t ((hmem t).mp ht)
    exact ⟨hwhen.trans hmoved, hreceive hdisconnected⟩

/-- Without a deadline a scope is never cancelled. -/
theorem Timeout.when_of_due {loop : Loop} {scope : Timeout T} {now : T}
    (h : scope.due loop now = true) : scope.when ≠ none := by
  obtain ⟨when, cancelled, cancelledCaught⟩ := scope
  rintro rfl
  cases loop with
  | asyncio => exact nomatch h
  | trio => exact nomatch h

/-- The step: whatever happens next. -/
theorem Moved.step {loop : Loop} {cancel : Bool} {trace : List (T × Event T)}
    {request request' : Request T} {time : T} {event : Event T} (h : Moved trace request)
    (hstep : step loop cancel request time event = some request') :
    Moved (trace ++ [(time, event)]) request' := by
  cases event with
  | timeoutKnown deadline =>
      rw [ConnectDisconnect.step] at hstep
      split at hstep
      · next hguard =>
          obtain rfl := Option.some.inj hstep
          have hnone := h.waiting (by rw [hguard.1]; exact nofun)
          -- The scope was waiting, so no disconnect has been acted on before.
          have hmem : ∀ t, (t, Event.disconnectActedOn)
              ∉ trace ++ [(time, .timeoutKnown deadline)] := by
            intro t ht
            rcases List.mem_append.mp ht with ht | ht
            · exact hnone t ht
            · exact nomatch (Prod.mk.inj (List.mem_singleton.mp ht)).2
          exact ⟨fun _ => hmem, fun _ => rfl, fun t ht => absurd ht (hmem t), fun _ => nofun,
            h.caught⟩
      · exact nomatch hstep
  | bodyDone =>
      obtain rfl := Option.some.inj hstep
      exact h.other nofun id id rfl rfl h.cancelled h.caught
  | received message =>
      obtain rfl := Option.some.inj hstep
      exact h.other nofun id (fun hd => RequestReceiver.call_disconnected hd message) rfl rfl
        h.cancelled h.caught
  | watched =>
      rw [ConnectDisconnect.step] at hstep
      split at hstep
      · next hguard =>
          obtain rfl := Option.some.inj hstep
          -- The watcher gets to run before it is over.
          exact h.other nofun (fun _ => by rw [hguard]; exact nofun) id rfl rfl h.cancelled h.caught
      · exact nomatch hstep
  | disconnectActedOn =>
      rw [ConnectDisconnect.step] at hstep
      split at hstep
      · next hguard =>
          obtain ⟨hrunning, -, hacts⟩ := hguard
          obtain rfl := Option.some.inj hstep
          -- The only step that acts on a disconnect: it is the first to do so.
          have hnone := h.waiting (by rw [hrunning]; exact nofun)
          have hdisconnected : request.receive.disconnected = true := by
            cases loop with
            | asyncio => exact ((Bool.and_eq_true _ _).mp hacts).1
            | trio => exact ((Bool.and_eq_true _ _).mp hacts).2
          refine ⟨fun hover => absurd rfl hover, fun hno => ?_, fun t ht => ?_, fun _ => nofun,
            h.caught⟩
          · exact absurd (List.mem_append_right _ List.mem_cons_self) (hno time)
          · rcases List.mem_append.mp ht with ht | ht
            · exact absurd ht (hnone t)
            · obtain ⟨rfl, -⟩ := Prod.mk.inj (List.mem_singleton.mp ht)
              exact ⟨rfl, hdisconnected⟩
      · exact nomatch hstep
  | unwatched =>
      rw [ConnectDisconnect.step] at hstep
      split at hstep
      · obtain rfl := Option.some.inj hstep
        exact h.other nofun (fun hover => absurd rfl hover) id rfl rfl h.cancelled h.caught
      · exact nomatch hstep
  | fired =>
      rw [ConnectDisconnect.step] at hstep
      split at hstep
      · next hdue =>
          obtain rfl := Option.some.inj hstep
          have hwhen : request.timeout.when ≠ none := Timeout.when_of_due hdue
          exact h.other nofun id id rfl rfl (fun _ => hwhen) (fun _ => rfl)
      · exact nomatch hstep
  | caught =>
      rw [ConnectDisconnect.step] at hstep
      split at hstep
      · next hcancelled =>
          obtain rfl := Option.some.inj hstep
          exact h.other nofun id id rfl rfl h.cancelled (fun _ => hcancelled)
      · exact nomatch hstep

/-- The run. -/
theorem Run.moved {loop : Loop} {cancel : Bool} {trace : List (T × Event T)}
    {request : Request T} {now : T} (h : Run loop cancel trace request now) :
    Moved trace request := by
  induction h with
  | start => exact moved_start
  | step _ _ hstep ih => exact ih.step hstep

/-! ## The error -/

omit [LinearOrder T] in
/-- A scope that expired was cancelled. -/
theorem Moved.cancelled_of_expired {loop : Loop} {trace : List (T × Event T)}
    {request : Request T} (h : Moved trace request)
    (hexpired : request.timeout.expired loop = true) : request.timeout.cancelled = true := by
  cases loop with
  | asyncio => exact hexpired
  | trio => exact h.caught hexpired

/-- What the comparison of the two deadlines finds out. -/
theorem Moved.before_iff {loop : Loop} {trace : List (T × Event T)} {request : Request T}
    (h : Moved trace request) (hexpired : request.timeout.expired loop = true) :
    (request.receive.disconnected && before request.timeout.when request.deadline) = true
      ↔ ActedOnBefore trace request.deadline := by
  by_cases hacted : ∃ time, (time, Event.disconnectActedOn) ∈ trace
  · obtain ⟨time, htime⟩ := hacted
    obtain ⟨hwhen, hdisconnected⟩ := h.moved time htime
    have honly : ∀ t, (t, Event.disconnectActedOn) ∈ trace → t = time := by
      intro t ht
      exact Option.some.inj ((h.moved t ht).1.symm.trans hwhen)
    rw [hdisconnected, hwhen, Bool.true_and]
    constructor
    · intro hbefore
      refine ⟨time, htime, fun d hd => ?_⟩
      rw [hd] at hbefore
      exact of_decide_eq_true hbefore
    · rintro ⟨t, ht, hlt⟩
      obtain rfl := honly t ht
      cases hd : request.deadline with
      | none => rfl
      | some d => exact decide_eq_true (hlt d hd)
  · -- Nothing moved the deadline, so the two are one; and there is one, since it has passed.
    have hwhen := h.unmoved fun time htime => hacted ⟨time, htime⟩
    have hne := h.cancelled (h.cancelled_of_expired hexpired)
    constructor
    · intro hbefore
      obtain ⟨-, hbefore⟩ := (Bool.and_eq_true _ _).mp hbefore
      rw [hwhen] at hne
      obtain ⟨d, hd⟩ := Option.ne_none_iff_exists'.mp hne
      rw [hwhen, hd] at hbefore
      exact absurd (of_decide_eq_true hbefore) (lt_irrefl d)
    · rintro ⟨time, htime, -⟩
      exact absurd ⟨time, htime⟩ hacted

/-- **A request is blamed on what came first.**  In whatever order the deadline passes, the
    disconnect is received and the watch runs, under both loops. -/
theorem timeoutError_run {loop : Loop} {cancel : Bool} {trace : List (T × Event T)}
    {request : Request T} {now : T} (h : Run loop cancel trace request now) (error : Exc) :
    (request.timeout.expired loop = true →
        (timeoutError loop request.timeout request.receive request.deadline error
            = .connect .canceled "Client disconnected" ↔ ActedOnBefore trace request.deadline)
          ∧ (timeoutError loop request.timeout request.receive request.deadline error
            = .connect .deadlineExceeded "Request timed out"
              ↔ ¬ ActedOnBefore trace request.deadline))
      ∧ (request.timeout.expired loop = false →
        timeoutError loop request.timeout request.receive request.deadline error = error) := by
  have hne : Exc.connect .canceled "Client disconnected"
      ≠ Exc.connect .deadlineExceeded "Request timed out" := nofun
  constructor
  · intro hexpired
    have hiff := h.moved.before_iff hexpired
    rw [timeoutError, hexpired, Bool.not_true, if_neg Bool.false_ne_true]
    by_cases hbefore : ActedOnBefore trace request.deadline
    · rw [if_pos (hiff.mpr hbefore)]
      exact ⟨⟨fun _ => hbefore, fun _ => rfl⟩, ⟨fun heq => absurd heq hne,
        fun hnot => absurd hbefore hnot⟩⟩
    · rw [if_neg fun hcondition => hbefore (hiff.mp hcondition)]
      exact ⟨⟨fun heq => absurd heq.symm hne, fun hacted => absurd hacted hbefore⟩,
        ⟨fun _ => hbefore, fun _ => rfl⟩⟩
  · intro hexpired
    rw [timeoutError, hexpired, Bool.not_false, if_pos rfl]

/-- What `_handle_request` takes from its scope is what the run made of it. -/
theorem asgi_timeoutError_eq {p : ConnectPlatform.Platform} {ω ι τ α : Type} (env : Env p ω ι τ α)
    (w : ω) {loop : Loop} {request : Request T}
    (hexpired : env.expired w = request.timeout.expired loop)
    (hfirst : env.disconnectedFirst w
      = (request.receive.disconnected && before request.timeout.when request.deadline))
    (error : Exc) :
    ConnectAsgi.timeoutError env w error
      = timeoutError loop request.timeout request.receive request.deadline error := by
  rw [ConnectAsgi.timeoutError, timeoutError, hexpired, hfirst]

/-! ## Two requests with a deadline of ten -/

/-- The client leaves at three, and the watch sees it. -/
theorem run_left : Run (T := Nat) .asyncio false
    ([] ++ [(0, Event.timeoutKnown 10)] ++ [(0, Event.received (.request false))]
      ++ [(1, Event.watched)] ++ [(3, Event.received .disconnect)]
      ++ [(3, Event.disconnectActedOn)] ++ [(3, Event.fired)])
    ⟨⟨true, true⟩, ⟨some 3, true, false⟩, some 10, .over⟩ 3 :=
  .step (.step (.step (.step (.step (.step (.start 0) (le_refl 0) rfl) (le_refl 0) rfl)
    (by decide) rfl) (by decide) rfl) (le_refl 3) rfl) (le_refl 3) rfl

/-- The deadline passes at ten, and the watch sees the client leave during the cleanup. -/
theorem run_late : Run (T := Nat) .trio true
    ([] ++ [(0, Event.timeoutKnown 10)] ++ [(0, Event.bodyDone)] ++ [(1, Event.watched)]
      ++ [(10, Event.fired)] ++ [(11, Event.received .disconnect)]
      ++ [(11, Event.disconnectActedOn)] ++ [(12, Event.caught)])
    ⟨⟨true, true⟩, ⟨some 11, true, true⟩, some 10, .over⟩ 12 :=
  .step (.step (.step (.step (.step (.step (.step (.start 0) (le_refl 0) rfl) (le_refl 0) rfl)
    (by decide) rfl) (by decide) rfl) (by decide) rfl) (le_refl 11) rfl) (by decide) rfl

/-- The first is blamed on the client, the second on the deadline. -/
theorem timeoutError_run_both :
    timeoutError .asyncio ⟨some 3, true, false⟩ ⟨true, true⟩ (some 10) (.exception .timeoutError "")
        = .connect .canceled "Client disconnected"
      ∧ timeoutError .trio ⟨some 11, true, true⟩ ⟨true, true⟩ (some 10)
          (.exception .timeoutError "")
        = .connect .deadlineExceeded "Request timed out" := by
  constructor
  · refine ((timeoutError_run run_left _).1 rfl).1.mpr ⟨3, by decide, ?_⟩
    rintro d ⟨⟩
    decide
  · refine ((timeoutError_run run_late _).1 rfl).2.mpr ?_
    rintro ⟨time, hmem, hlt⟩
    have hall : ∀ e ∈ [(0, Event.timeoutKnown 10), (0, .bodyDone), (1, .watched), (10, .fired),
        (11, .received .disconnect), (11, .disconnectActedOn), (12, .caught)],
        e.2 = .disconnectActedOn → ¬ e.1 < 10 := by decide
    exact hall _ hmem rfl (hlt 10 rfl)

end ConnectDisconnect
