import ConnectPy.OrderedDictProofs
import Mathlib.Data.Finset.Basic
import Mathlib.Data.List.Destutter
import Mathlib.Logic.Relation

/-! # Health watches — no change is missed

    A watch subscribes to its service, and from then on clears its event, reads the
    status, yields it and waits.  `set_status` writes the status and takes the
    callbacks of the subscribers under one lock, and calls them after it; under asyncio
    a callback only queues the setting of the event.

    The heart is that a watch that has read is UP TO DATE OR NOTIFIED: the status it
    read is the current one, or its event is set, or a call that will set it is on its
    way (`Fresh`).  It has to clear before it reads, since what comes between the two
    would be cleared away, and to subscribe before it reads, since a write in between
    would not know of it. -/

namespace ConnectHealth

open OrderedDict

/-- `HealthCheckResponse.ServingStatus`. -/
inductive ServingStatus where
  | unknown
  | serving
  | notServing
  | serviceUnknown
  deriving DecidableEq, Repr

/-! ## The checker -/

/-- `StaticChecker.check_sync`, on `_statuses`. -/
def checkSync (statuses : Dict String ServingStatus) (service : String) : Option ServingStatus :=
  match statuses.get? service with
  | none => if service = "" then some .serving else none
  | some status => some status

/-- A status that is set is that of one service. -/
theorem checkSync_insert_ne (statuses : Dict String ServingStatus) {service other : String}
    (h : other ≠ service) (status : ServingStatus) :
    checkSync (statuses.insert service status) other = checkSync statuses other := by
  rw [checkSync, checkSync, Dict.get?_insert_ne _ h.symm]

section Subscribers

variable {W : Type} [DecidableEq W]

/-- The callbacks of a service, as `set_status` finds them. -/
def callbacksOf (watchers : Dict String (Finset W)) (service : String) : Finset W :=
  (watchers.get? service).getD ∅

/-- Entering `_notify`: `self._watchers.setdefault(service, set()).add(on_change)`. -/
def subscribe (watchers : Dict String (Finset W)) (service : String) (w : W) :
    Dict String (Finset W) :=
  watchers.upsert service {w} (insert w)

/-- Leaving `_notify`; none for a `KeyError`. -/
def unsubscribe (watchers : Dict String (Finset W)) (service : String) (w : W) :
    Option (Dict String (Finset W)) :=
  match watchers.get? service with
  | none => none
  | some callbacks =>
      if callbacks.erase w = ∅ then some (watchers.erase service)
      else some (watchers.insert service (callbacks.erase w))

/-- No service is kept without a callback. -/
def Occupied (watchers : Dict String (Finset W)) : Prop :=
  ∀ service, watchers.get? service ≠ some ∅

variable {watchers watchers' : Dict String (Finset W)} {service other : String} {v w : W}

omit [DecidableEq W] in
/-- A service is a key of the watchers exactly if one of them is subscribed to it. -/
theorem contains_iff (h : Occupied watchers) :
    watchers.contains service = true ↔ ∃ v, v ∈ callbacksOf watchers service := by
  rw [Dict.contains, callbacksOf]
  cases hg : watchers.get? service with
  | none => 
      refine iff_of_false (by rintro ⟨⟩) ?_
      rintro ⟨v, hv⟩
      exact absurd hv (Finset.notMem_empty v)
  | some callbacks =>
      refine ⟨fun _ => Finset.nonempty_iff_ne_empty.mpr ?_, fun _ => rfl⟩
      rintro rfl
      exact h service hg

/-- Subscribing adds a callback to those of the service. -/
theorem get?_subscribe_self :
    (subscribe watchers service w).get? service
      = some (insert w (callbacksOf watchers service)) := by
  rw [subscribe, Dict.get?_upsert_self, callbacksOf]
  cases watchers.get? service <;> rfl

/-- And leaves the other services alone. -/
theorem get?_subscribe_ne (h : service ≠ other) :
    (subscribe watchers service w).get? other = watchers.get? other :=
  Dict.get?_upsert_ne _ h _ _

/-- The subscriptions after one more. -/
theorem mem_subscribe :
    v ∈ callbacksOf (subscribe watchers service w) other
      ↔ v ∈ callbacksOf watchers other ∨ v = w ∧ service = other := by
  by_cases h : service = other
  · subst h
    rw [callbacksOf, get?_subscribe_self, Option.getD_some, Finset.mem_insert, or_comm]
    exact or_congr_right (and_iff_left rfl).symm
  · rw [callbacksOf, get?_subscribe_ne h]
    exact (or_iff_left fun hv => h hv.2).symm

/-- Subscribing leaves no service without a watcher. -/
theorem occupied_subscribe (h : Occupied watchers) : Occupied (subscribe watchers service w) := by
  intro other
  by_cases ho : service = other
  · subst ho
    rw [get?_subscribe_self]
    exact fun he => Finset.insert_ne_empty _ _ (Option.some.inj he)
  · rw [get?_subscribe_ne ho]
    exact h other

/-- What leaving a service does to its callbacks. -/
theorem unsubscribe_self (h : unsubscribe watchers service w = some watchers') :
    callbacksOf watchers' service = (callbacksOf watchers service).erase w
      ∧ watchers'.get? service ≠ some ∅ := by
  rw [unsubscribe] at h
  cases hg : watchers.get? service with
  | none =>
      rw [hg] at h
      exact nomatch h
  | some callbacks =>
      rw [hg] at h
      have hold : callbacksOf watchers service = callbacks := by rw [callbacksOf, hg]; rfl
      rw [hold]
      dsimp only at h
      by_cases he : callbacks.erase w = ∅
      · rw [if_pos he] at h
        injection h with h
        subst h
        rw [callbacksOf, Dict.get?_erase_self]
        exact ⟨he.symm, nofun⟩
      · rw [if_neg he] at h
        injection h with h
        subst h
        rw [callbacksOf, Dict.get?_insert_self]
        exact ⟨rfl, fun hs => he (Option.some.inj hs)⟩

/-- The other services keep theirs. -/
theorem unsubscribe_ne (h : unsubscribe watchers service w = some watchers')
    (ho : service ≠ other) : watchers'.get? other = watchers.get? other := by
  rw [unsubscribe] at h
  cases hg : watchers.get? service with
  | none =>
      rw [hg] at h
      exact nomatch h
  | some callbacks =>
      rw [hg] at h
      dsimp only at h
      by_cases he : callbacks.erase w = ∅
      · rw [if_pos he] at h
        injection h with h
        subst h
        exact Dict.get?_erase_ne _ ho
      · rw [if_neg he] at h
        injection h with h
        subst h
        exact Dict.get?_insert_ne _ ho _

/-- The subscriptions after one less. -/
theorem mem_unsubscribe (h : unsubscribe watchers service w = some watchers') :
    v ∈ callbacksOf watchers' other
      ↔ v ∈ callbacksOf watchers other ∧ ¬ (v = w ∧ service = other) := by
  by_cases ho : service = other
  · subst ho
    rw [(unsubscribe_self h).1, Finset.mem_erase, and_comm]
    exact and_congr_right fun _ => not_congr (and_iff_left rfl).symm
  · rw [callbacksOf, unsubscribe_ne h ho]
    exact (and_iff_left fun hv => ho hv.2).symm

/-- A service loses its key with its last watcher. -/
theorem occupied_unsubscribe (h : Occupied watchers)
    (hu : unsubscribe watchers service w = some watchers') : Occupied watchers' := by
  intro other
  by_cases ho : service = other
  · subst ho
    exact (unsubscribe_self hu).2
  · rw [unsubscribe_ne hu ho]
    exact h other

/-- A `KeyError` needs a callback that is not there. -/
theorem notMem_of_unsubscribe_none (h : unsubscribe watchers service w = none) :
    w ∉ callbacksOf watchers service := by
  rw [unsubscribe] at h
  cases hg : watchers.get? service with
  | none =>
      rw [callbacksOf, hg]
      exact Finset.notMem_empty w
  | some callbacks =>
      rw [hg] at h
      dsimp only at h
      split at h <;> exact nomatch h

end Subscribers

/-! ## A watch -/

/-- `watch_sync`, with a deadline or without one, or `watch`. -/
inductive Kind where
  | sync (deadline : Bool)
  | async
  deriving DecidableEq, Repr

/-- The event that wakes a watch.  Under asyncio and trio it is set by a function that
    is queued on the loop. -/
structure Waiter where
  event      : Bool
  queued     : Nat
  loopClosed : Bool
  deriving DecidableEq, Repr

namespace Waiter

/-- The callback: `changed.set`, or `notify` of the waiter, which suppresses the error
    of a loop that was closed. -/
def notify (kind : Kind) (waiter : Waiter) : Waiter :=
  match kind with
  | .sync _ => { waiter with event := true }
  | .async => if waiter.loopClosed then waiter else { waiter with queued := waiter.queued + 1 }

/-- `changed.clear()`, or `reset`. -/
def reset (waiter : Waiter) : Waiter := { waiter with event := false }

/-- It is set, or will be. -/
def Set (waiter : Waiter) : Prop := waiter.event = true ∨ 0 < waiter.queued

/-- A waiter whose loop still runs is woken. -/
theorem set_notify {kind : Kind} {waiter : Waiter} (h : waiter.loopClosed = false) :
    (waiter.notify kind).Set := by
  cases kind with
  | sync deadline => exact Or.inl rfl
  | async =>
      rw [notify, h]
      exact Or.inr (Nat.succ_pos _)

/-- No notification closes or opens a loop. -/
theorem notify_loopClosed (kind : Kind) (waiter : Waiter) :
    (waiter.notify kind).loopClosed = waiter.loopClosed := by
  cases kind with
  | sync deadline => rfl
  | async =>
      rw [notify]
      split <;> rfl

end Waiter

/-- Where a watch is. -/
inductive Pc where
  | unopened
  /-- Subscribed, at the top of the loop. -/
  | looping
  | cleared
  /-- The status was read, and is not yielded yet. -/
  | read (status : Option ServingStatus)
  | yielded
  | waiting
  /-- A timed wait has ended, and the clock is still to be read. -/
  | timedOut
  /-- At the `finally` clause. -/
  | leaving
  | closed
  /-- The `finally` clause has raised a `KeyError`. -/
  | keyError
  deriving DecidableEq, Repr

/-- Subscribed and not unsubscribed. -/
def Pc.isOpen : Pc → Bool
  | .unopened | .closed | .keyError => false
  | _ => true

structure Watch where
  service  : String
  kind     : Kind
  waiter   : Waiter
  pc       : Pc
  /-- The statuses it has yielded, the last one last. -/
  produced : List (Option ServingStatus)
  deriving DecidableEq, Repr

/-- Its generator was not started. -/
def Watch.unopened : Watch := ⟨"", .async, ⟨false, 0, false⟩, .unopened, []⟩

/-- What happens to a watch outside the lock, but for its callback.  Those steps that
    are its own need a loop that runs. -/
inductive WatchStep (statuses : Dict String ServingStatus) (x : Watch) : Watch → Prop where
  | reset (loop : x.waiter.loopClosed = false) (at_ : x.pc = .looping) :
      WatchStep statuses x { x with pc := .cleared, waiter := x.waiter.reset }
  /-- `self.check_sync(service)`. -/
  | check (loop : x.waiter.loopClosed = false) (at_ : x.pc = .cleared) :
      WatchStep statuses x { x with pc := .read (checkSync statuses x.service) }
  | yields {status : Option ServingStatus} (loop : x.waiter.loopClosed = false)
      (at_ : x.pc = .read status) :
      WatchStep statuses x { x with pc := .yielded, produced := x.produced ++ [status] }
  /-- The next status is asked for. -/
  | resume (loop : x.waiter.loopClosed = false) (at_ : x.pc = .yielded) :
      WatchStep statuses x { x with pc := .waiting }
  | wake (loop : x.waiter.loopClosed = false) (at_ : x.pc = .waiting)
      (set : x.waiter.event = true) : WatchStep statuses x { x with pc := .looping }
  | timeOut (timed : x.kind = .sync true) (at_ : x.pc = .waiting)
      (unset : x.waiter.event = false) : WatchStep statuses x { x with pc := .timedOut }
  /-- The clock has not reached the deadline. -/
  | again (at_ : x.pc = .timedOut) : WatchStep statuses x { x with pc := .waiting }
  | expire (at_ : x.pc = .timedOut) : WatchStep statuses x { x with pc := .leaving }
  /-- It is closed or cancelled, or something is raised in it. -/
  | leave (isOpen : x.pc.isOpen = true) : WatchStep statuses x { x with pc := .leaving }
  /-- The loop runs a queued `self._event.set`. -/
  | runQueued {n : Nat} (loop : x.waiter.loopClosed = false) (queued : x.waiter.queued = n + 1) :
      WatchStep statuses x { x with waiter := { x.waiter with event := true, queued := n } }
  | closeLoop (async : x.kind = .async) :
      WatchStep statuses x { x with waiter := { x.waiter with loopClosed := true } }

/-- Its callback is called. -/
def Watch.notify (x : Watch) : Watch := { x with waiter := x.waiter.notify x.kind }

/-- It waits, and nothing wakes it. -/
def Watch.Blocked (x : Watch) : Prop :=
  x.pc = .waiting ∧ x.waiter.event = false ∧ x.waiter.loopClosed = false

/-- After it has read, it has read the current status. -/
def Watch.UpToDate (statuses : Dict String ServingStatus) (x : Watch) : Prop :=
  match x.pc with
  | .read status => status = checkSync statuses x.service
  | .yielded | .waiting | .timedOut => x.produced.getLast? = some (checkSync statuses x.service)
  | _ => True

/-- Up to date or notified, when it will be `called` or not. -/
def Watch.Fresh (statuses : Dict String ServingStatus) (called : Prop) (x : Watch) : Prop :=
  x.waiter.loopClosed = false → x.UpToDate statuses ∨ x.waiter.Set ∨ called

/-- A watch depends on the status of its own service only. -/
theorem Watch.upToDate_congr {statuses statuses' : Dict String ServingStatus} {x : Watch}
    (h : checkSync statuses' x.service = checkSync statuses x.service) :
    x.UpToDate statuses' ↔ x.UpToDate statuses := by
  rw [Watch.UpToDate, Watch.UpToDate, h]

/-- A watch between two checks is up to date with what it last produced. -/
theorem Watch.upToDate_produced {statuses : Dict String ServingStatus} {x : Watch}
    (h : x.pc = .yielded ∨ x.pc = .waiting ∨ x.pc = .timedOut) :
    x.UpToDate statuses ↔ x.produced.getLast? = some (checkSync statuses x.service) := by
  rw [Watch.UpToDate]
  rcases h with h | h | h <;> rw [h]

/-- A watch that has ended, or not begun, owes nothing. -/
theorem Watch.upToDate_of_not_open (statuses : Dict String ServingStatus) {x : Watch}
    (h : x.pc.isOpen = false) : x.UpToDate statuses := by
  rw [Watch.UpToDate]
  cases hp : x.pc <;> first | exact trivial | (rw [hp] at h; exact nomatch h)

section WatchStep

variable {statuses : Dict String ServingStatus} {x x' : Watch} (h : WatchStep statuses x x')

include h

/-- A watch never changes its service. -/
theorem WatchStep.service_eq : x'.service = x.service := by
  cases h <;> rfl

/-- The steps of its own leave a watch as open as it was. -/
theorem WatchStep.isOpen_eq : x'.pc.isOpen = x.pc.isOpen := by
  cases h with
  | reset loop at_ => rw [at_]; rfl
  | check loop at_ => rw [at_]; rfl
  | yields loop at_ => rw [at_]; rfl
  | resume loop at_ => rw [at_]; rfl
  | wake loop at_ set => rw [at_]; rfl
  | timeOut timed at_ unset => rw [at_]; rfl
  | again at_ => rw [at_]; rfl
  | expire at_ => rw [at_]; rfl
  | leave isOpen => rw [isOpen]; rfl
  | runQueued loop queued => rfl
  | closeLoop async => rfl

/-- The steps of its own do not fail. -/
theorem WatchStep.ne_keyError (hx : x.pc ≠ .keyError) : x'.pc ≠ .keyError := by
  cases h <;> first | exact hx | nofun

/-- A step of a watch keeps it up to date or notified.  What makes it so is that it
    clears before it reads. -/
theorem WatchStep.fresh {called : Prop} (hx : x.Fresh statuses called) :
    x'.Fresh statuses called := by
  intro hl
  cases h with
  | reset loop at_ => exact Or.inl trivial
  | check loop at_ => exact Or.inl rfl
  | @yields status loop at_ =>
      refine (hx hl).imp_left fun hu => ?_
      rw [Watch.UpToDate, at_] at hu
      have hstatus : status = checkSync statuses x.service := hu
      show (x.produced ++ [status]).getLast? = some (checkSync statuses x.service)
      rw [List.getLast?_concat, hstatus]
  | resume loop at_ => exact (hx hl).imp_left (Watch.upToDate_produced (Or.inl at_)).mp
  | wake loop at_ set => exact Or.inl trivial
  | timeOut timed at_ unset =>
      exact (hx hl).imp_left (Watch.upToDate_produced (Or.inr (Or.inl at_))).mp
  | again at_ => exact (hx hl).imp_left (Watch.upToDate_produced (Or.inr (Or.inr at_))).mp
  | expire at_ => exact Or.inl trivial
  | leave isOpen => exact Or.inl trivial
  | runQueued loop queued => exact Or.inr (Or.inl (Or.inl rfl))
  | closeLoop async => exact nomatch hl

end WatchStep

/-! ## The system -/

variable {W T : Type} [DecidableEq W] [DecidableEq T]

/-- A checker, its watches and the callbacks that are still to be called in each thread's
    call of `set_status`. -/
structure State (W T : Type) where
  statuses : Dict String ServingStatus
  watchers : Dict String (Finset W)
  watches  : W → Watch
  calls    : T → List W

/-- `StaticChecker(*services)`. -/
def State.new (services : List String) : State W T where
  statuses := services.foldl (fun statuses service => statuses.insert service .serving) .empty
  watchers := .empty
  watches := fun _ => .unopened
  calls := fun _ => []

/-- One atomic step. -/
inductive Step (s : State W T) : State W T → Prop where
  /-- The locked block of `set_status`.  The callbacks come in the order of the set. -/
  | setStatus {t : T} (service : String) (status : ServingStatus) (callbacks : List W)
      (idle : s.calls t = [])
      (snapshot : callbacks.toFinset = callbacksOf s.watchers service) :
      Step s { s with
        statuses := s.statuses.insert service status
        calls := Function.update s.calls t callbacks }
  | callback {t : T} {w : W} {rest : List W} (call : s.calls t = w :: rest) :
      Step s { s with
        calls := Function.update s.calls t rest
        watches := Function.update s.watches w (s.watches w).notify }
  /-- The locked block on entering `_notify`. -/
  | subscribe {w : W} (service : String) (kind : Kind) (at_ : (s.watches w).pc = .unopened) :
      Step s { s with
        watchers := subscribe s.watchers service w
        watches := Function.update s.watches w
          ⟨service, kind, ⟨false, 0, false⟩, .looping, []⟩ }
  | run {w : W} {x : Watch} (step : WatchStep s.statuses (s.watches w) x) :
      Step s { s with watches := Function.update s.watches w x }
  /-- The locked block on leaving `_notify`. -/
  | unsubscribe {w : W} {watchers : Dict String (Finset W)} (at_ : (s.watches w).pc = .leaving)
      (found : unsubscribe s.watchers (s.watches w).service w = some watchers) :
      Step s { s with
        watchers := watchers
        watches := Function.update s.watches w { s.watches w with pc := .closed } }
  | keyError {w : W} (at_ : (s.watches w).pc = .leaving)
      (missing : unsubscribe s.watchers (s.watches w).service w = none) :
      Step s { s with
        watches := Function.update s.watches w { s.watches w with pc := .keyError } }

/-- What can come of a checker with these services. -/
def Reachable (services : List String) : State W T → Prop :=
  Relation.ReflTransGen Step (State.new services)

/-- A step from a reachable state leads to one. -/
theorem Reachable.next {services : List String} {s s' : State W T} (h : Reachable services s)
    (hs : Step s s') : Reachable services s' := h.tail hs

/-- What holds after every step. -/
structure Inv (s : State W T) : Prop where
  fresh      : ∀ w, (s.watches w).Fresh s.statuses (∃ t, w ∈ s.calls t)
  subscribed : ∀ service w, w ∈ callbacksOf s.watchers service
    ↔ (s.watches w).service = service ∧ (s.watches w).pc.isOpen = true
  occupied   : Occupied s.watchers
  noKeyError : ∀ w, (s.watches w).pc ≠ .keyError

omit [DecidableEq W] [DecidableEq T] in
/-- Before the first watch there is nothing to keep. -/
theorem inv_new (services : List String) : Inv (State.new services : State W T) where
  fresh := fun _ _ => Or.inl trivial
  subscribed := fun _ w =>
    ⟨fun hw => absurd hw (Finset.notMem_empty w), fun hw => nomatch hw.2⟩
  occupied := fun _ => nofun
  noKeyError := fun _ => nofun

section Updates

variable {s : State W T} {w : W} {t : T} {x : Watch}

omit [DecidableEq T] in
/-- A step of one watch changes nothing for the others. -/
theorem watch_cases {P : W → Watch → Prop} (hw : P w x) (hv : ∀ v, v ≠ w → P v (s.watches v)) :
    ∀ v, P v (Function.update s.watches w x v) := by
  intro v
  by_cases h : v = w
  · subst h
    rw [Function.update_self]
    exact hw
  · rw [Function.update_of_ne h]
    exact hv v h

omit [DecidableEq W] in
/-- A call of `set_status` changes nothing for the others. -/
theorem called_update {callbacks : List W} {v : W} (hv : v ∈ s.calls t → v ∈ callbacks)
    (h : ∃ t, v ∈ s.calls t) : ∃ t', v ∈ Function.update s.calls t callbacks t' := by
  obtain ⟨t', ht'⟩ := h
  by_cases htt : t' = t
  · subst htt
    refine ⟨t', ?_⟩
    rw [Function.update_self]
    exact hv ht'
  · refine ⟨t', ?_⟩
    rw [Function.update_of_ne htt]
    exact ht'

omit [DecidableEq T] in
/-- The subscribers stay, if none is opened or closed. -/
theorem Inv.subscribed_update (h : Inv s) (hservice : x.service = (s.watches w).service)
    (hopen : x.pc.isOpen = (s.watches w).pc.isOpen) (service : String) :
    ∀ v, v ∈ callbacksOf s.watchers service
      ↔ (Function.update s.watches w x v).service = service
        ∧ (Function.update s.watches w x v).pc.isOpen = true := by
  refine watch_cases (P := fun v x => v ∈ callbacksOf s.watchers service
    ↔ x.service = service ∧ x.pc.isOpen = true) ?_ fun v _ => h.subscribed service v
  rw [hservice, hopen]
  exact h.subscribed service w

omit [DecidableEq W] [DecidableEq T] in
/-- A watch that is about to unsubscribe is still subscribed. -/
theorem Inv.leaving_mem (h : Inv s) (hw : (s.watches w).pc = .leaving) :
    w ∈ callbacksOf s.watchers (s.watches w).service :=
  (h.subscribed _ w).mpr ⟨rfl, by rw [hw]; rfl⟩

end Updates

/-! ## Every step -/

/-- A status is set: every watcher it may concern is in the snapshot of callbacks. -/
theorem Inv.setStatus {s : State W T} (h : Inv s) {t : T} (service : String)
    (status : ServingStatus) {callbacks : List W} (idle : s.calls t = [])
    (snapshot : callbacks.toFinset = callbacksOf s.watchers service) :
    Inv { s with
      statuses := s.statuses.insert service status
      calls := Function.update s.calls t callbacks } where
  fresh := by
    intro w hl
    by_cases hw : (s.watches w).service = service ∧ (s.watches w).pc.isOpen = true
    · -- It is one of the subscribers that the call has seen.
      have hmem : w ∈ callbacks := by
        rw [← List.mem_toFinset, snapshot]
        exact (h.subscribed service w).mpr hw
      refine Or.inr (Or.inr ⟨t, ?_⟩)
      show w ∈ Function.update s.calls t callbacks t
      rw [Function.update_self]
      exact hmem
    · have hcalled : (∃ t', w ∈ s.calls t')
          → ∃ t', w ∈ Function.update s.calls t callbacks t' :=
        called_update fun hv => by rw [idle] at hv; exact nomatch hv
      by_cases hopen : (s.watches w).pc.isOpen = true
      · have hne : (s.watches w).service ≠ service := fun he => hw ⟨he, hopen⟩
        refine (h.fresh w hl).imp ?_ (Or.imp_right hcalled)
        exact (Watch.upToDate_congr (checkSync_insert_ne s.statuses hne status)).mpr
      · exact Or.inl (Watch.upToDate_of_not_open _ (Bool.eq_false_iff.mpr hopen))
  subscribed := h.subscribed
  occupied := h.occupied
  noKeyError := h.noKeyError

/-- One of the callbacks is called: its waiter is woken. -/
theorem Inv.callback {s : State W T} (h : Inv s) {t : T} {w : W} {rest : List W}
    (call : s.calls t = w :: rest) :
    Inv { s with
      calls := Function.update s.calls t rest
      watches := Function.update s.watches w (s.watches w).notify } where
  fresh := by
    refine watch_cases (P := fun v x => x.Fresh s.statuses
      (∃ t', v ∈ Function.update s.calls t rest t')) ?_ fun v hv => ?_
    · intro hl
      have hloop : (s.watches w).waiter.loopClosed = false := by
        rw [← hl]
        exact (Waiter.notify_loopClosed _ _).symm
      exact Or.inr (Or.inl (Waiter.set_notify hloop))
    · intro hl
      refine (h.fresh v hl).imp_right (Or.imp_right (called_update fun hmem => ?_))
      rw [call] at hmem
      exact (List.mem_cons.mp hmem).resolve_left hv
  subscribed := h.subscribed_update (x := (s.watches w).notify) rfl rfl
  occupied := h.occupied
  noKeyError := watch_cases (P := fun _ x => x.pc ≠ .keyError) (h.noKeyError w)
    fun v _ => h.noKeyError v

omit [DecidableEq T] in
/-- A watch subscribes before it first checks. -/
theorem Inv.subscribe {s : State W T} (h : Inv s) {w : W} (service : String) (kind : Kind)
    (at_ : (s.watches w).pc = .unopened) :
    Inv { s with
      watchers := ConnectHealth.subscribe s.watchers service w
      watches := Function.update s.watches w
        ⟨service, kind, ⟨false, 0, false⟩, .looping, []⟩ } where
  fresh := watch_cases (P := fun v x => x.Fresh s.statuses (∃ t, v ∈ s.calls t))
    (fun _ => Or.inl trivial) fun v _ => h.fresh v
  subscribed := by
    intro other
    refine watch_cases (P := fun v x => v ∈ callbacksOf _ other
      ↔ x.service = other ∧ x.pc.isOpen = true) ?_ fun v hv => ?_
    · have hnot : w ∉ callbacksOf s.watchers other := by
        intro hmem
        have hopen := ((h.subscribed other w).mp hmem).2
        rw [at_] at hopen
        exact nomatch hopen
      rw [mem_subscribe]
      exact ⟨fun hm => ⟨(hm.resolve_left hnot).2, rfl⟩, fun hm => Or.inr ⟨rfl, hm.1⟩⟩
    · rw [mem_subscribe, or_iff_left fun hm => hv hm.1]
      exact h.subscribed other v
  occupied := occupied_subscribe h.occupied
  noKeyError := watch_cases (P := fun _ x => x.pc ≠ .keyError) nofun fun v _ => h.noKeyError v

omit [DecidableEq T] in
/-- A step of a watch. -/
theorem Inv.run {s : State W T} (h : Inv s) {w : W} {x : Watch}
    (step : WatchStep s.statuses (s.watches w) x) :
    Inv { s with watches := Function.update s.watches w x } where
  fresh := watch_cases (P := fun v x => x.Fresh s.statuses (∃ t, v ∈ s.calls t))
    (step.fresh (h.fresh w)) fun v _ => h.fresh v
  subscribed := h.subscribed_update step.service_eq step.isOpen_eq
  occupied := h.occupied
  noKeyError := watch_cases (P := fun _ x => x.pc ≠ .keyError)
    (step.ne_keyError (h.noKeyError w)) fun v _ => h.noKeyError v

omit [DecidableEq T] in
/-- A watch unsubscribes, and callbacks to it that are still to be called do no harm. -/
theorem Inv.unsubscribe {s : State W T} (h : Inv s) {w : W} {watchers : Dict String (Finset W)}
    (found : ConnectHealth.unsubscribe s.watchers (s.watches w).service w = some watchers) :
    Inv { s with
      watchers := watchers
      watches := Function.update s.watches w { s.watches w with pc := .closed } } where
  fresh := watch_cases (P := fun v x => x.Fresh s.statuses (∃ t, v ∈ s.calls t))
    (fun _ => Or.inl trivial) fun v _ => h.fresh v
  subscribed := by
    intro other
    refine watch_cases (P := fun v x => v ∈ callbacksOf watchers other
      ↔ x.service = other ∧ x.pc.isOpen = true) ?_ fun v hv => ?_
    · rw [mem_unsubscribe found, h.subscribed other w]
      exact ⟨fun hm => absurd ⟨rfl, hm.1.1⟩ hm.2, fun hm => nomatch hm.2⟩
    · rw [mem_unsubscribe found, and_iff_left fun hm => hv hm.1]
      exact h.subscribed other v
  occupied := occupied_unsubscribe h.occupied found
  noKeyError := watch_cases (P := fun _ x => x.pc ≠ .keyError) nofun fun v _ => h.noKeyError v

/-- **Every step keeps the invariant.** -/
theorem inv_step {s s' : State W T} (h : Inv s) (hs : Step s s') : Inv s' := by
  cases hs with
  | setStatus service status callbacks idle snapshot =>
      exact h.setStatus service status idle snapshot
  | callback call => exact h.callback call
  | subscribe service kind at_ => exact h.subscribe service kind at_
  | run step => exact h.run step
  | unsubscribe at_ found => exact h.unsubscribe found
  | keyError at_ missing => exact absurd (h.leaving_mem at_) (notMem_of_unsubscribe_none missing)

/-- So it holds in every reachable state. -/
theorem inv_reachable {services : List String} {s : State W T} (h : Reachable services s) :
    Inv s := by
  induction h with
  | refl => exact inv_new services
  | tail _ hs ih => exact inv_step ih hs

/-! ## What the service sends -/

/-- `_watch_status`. -/
def watchStatus (status : Option ServingStatus) : ServingStatus := status.getD .serviceUnknown

/-- The loop of `HealthService.watch`, with the last status sent. -/
def HealthService.watchLoop : Option ServingStatus → List (Option ServingStatus) →
    List ServingStatus
  | _, [] => []
  | last, status :: rest =>
      if some (watchStatus status) ≠ last then
        watchStatus status :: watchLoop (some (watchStatus status)) rest
      else watchLoop last rest

/-- `HealthService.watch`, on the statuses that its checker yields. -/
def HealthService.watch (statuses : List (Option ServingStatus)) : List ServingStatus :=
  watchLoop none statuses

/-- After a first response the loop drops repetitions of the last one. -/
theorem HealthService.watchLoop_some (last : ServingStatus)
    (statuses : List (Option ServingStatus)) :
    last :: watchLoop (some last) statuses
      = (statuses.map watchStatus).destutter' (· ≠ ·) last := by
  induction statuses generalizing last with
  | nil => rfl
  | cons status rest ih =>
      rw [watchLoop, List.map_cons]
      by_cases h : last = watchStatus status
      · rw [if_neg (not_not.mpr (congrArg some h.symm)),
          List.destutter'_cons_neg _ (not_not.mpr h)]
        exact ih last
      · rw [if_pos fun he => h (Option.some.inj he).symm, List.destutter'_cons_pos _ h, ih]

/-- It sends the statuses without what repeats. -/
theorem HealthService.watch_eq (statuses : List (Option ServingStatus)) :
    watch statuses = (statuses.map watchStatus).destutter (· ≠ ·) := by
  cases statuses with
  | nil => rfl
  | cons status rest =>
      rw [watch, watchLoop, if_pos nofun, watchLoop_some]
      rfl

/-- No two responses in a row are the same. -/
theorem HealthService.watch_isChain (statuses : List (Option ServingStatus)) :
    (watch statuses).IsChain (· ≠ ·) := by
  rw [watch_eq]
  exact List.isChain_destutter _ _

/-! ## Every run -/

omit [DecidableEq W] [DecidableEq T] in
/-- A service has a key while it is watched, and only then. -/
theorem Inv.contains_iff {s : State W T} (h : Inv s) (service : String) :
    s.watchers.contains service = true
      ↔ ∃ w, (s.watches w).service = service ∧ (s.watches w).pc.isOpen = true := by
  rw [ConnectHealth.contains_iff h.occupied]
  exact exists_congr fun w => h.subscribed service w

omit [DecidableEq W] [DecidableEq T] in
/-- With all watches ended nobody is left among the watchers. -/
theorem Inv.watchers_empty {s : State W T} (h : Inv s)
    (hclosed : ∀ w, (s.watches w).pc.isOpen = false) : s.watchers = .empty := by
  refine Dict.eq_empty fun service => Bool.eq_false_iff.mpr fun hc => ?_
  obtain ⟨w, -, hopen⟩ := (h.contains_iff service).mp hc
  rw [hclosed w] at hopen
  exact nomatch hopen

/-- **A WATCH NEVER MISSES A CHANGE.**  One that is blocked, with no callback on its way
    to it, has yielded the current status last; the statuses sent to a client have no
    equal neighbours; a service has a key while one of its watches is open; and closing a
    watch finds its service, and leaves nothing behind. -/
theorem watch_never_misses {services : List String} {s : State W T}
    (h : Reachable services s) :
    (∀ w, (s.watches w).Blocked → (∀ t, w ∉ s.calls t) → (s.watches w).waiter.queued = 0 →
      (s.watches w).produced.getLast? = some (checkSync s.statuses (s.watches w).service))
    ∧ (∀ w, (HealthService.watch (s.watches w).produced).IsChain (· ≠ ·))
    ∧ (∀ service, s.watchers.contains service = true
      ↔ ∃ w, (s.watches w).service = service ∧ (s.watches w).pc.isOpen = true)
    ∧ (∀ w, (s.watches w).pc ≠ .keyError)
    ∧ ((∀ w, (s.watches w).pc.isOpen = false) → s.watchers = .empty) := by
  have hinv := inv_reachable h
  refine ⟨?_, fun w => HealthService.watch_isChain _, hinv.contains_iff, hinv.noKeyError,
    hinv.watchers_empty⟩
  rintro w ⟨hpc, hevent, hloop⟩ hcalls hqueued
  rcases hinv.fresh w hloop with hup | (hset | hqueue) | ⟨t, ht⟩
  · exact (Watch.upToDate_produced (Or.inr (Or.inl hpc))).mp hup
  · rw [hevent] at hset
    exact nomatch hset
  · rw [hqueued] at hqueue
    exact absurd hqueue (lt_irrefl 0)
  · exact absurd ht (hcalls t)

/-- A status that is set after the watch has cleared its event and before it reads: the
    watch yields it twice, and the client is sent it once. -/
theorem watch_never_misses_twice : ∃ s : State Unit Unit, Reachable ["a"] s
    ∧ (s.watches ()).Blocked
    ∧ (s.watches ()).produced = [some .notServing, some .notServing]
    ∧ (s.watches ()).produced.getLast? = some (checkSync s.statuses "a")
    ∧ HealthService.watch (s.watches ()).produced = [.notServing] := by
  have hnew : Reachable ["a"] (State.new ["a"] : State Unit Unit) := Relation.ReflTransGen.refl
  have hread := (((hnew.next (.subscribe (w := ()) "a" .async rfl)).next
    (.run (w := ()) (.reset rfl rfl))).next
    (.setStatus (t := ()) "a" .notServing [()] rfl rfl)).next
    (.run (w := ()) (.check rfl rfl))
  have hwoken := (((((hread.next
    (.callback (t := ()) rfl)).next
    (.run (w := ()) (.yields rfl rfl))).next
    (.run (w := ()) (.resume rfl rfl))).next
    (.run (w := ()) (.runQueued rfl rfl))).next
    (.run (w := ()) (.wake rfl rfl rfl))).next
    (.run (w := ()) (.reset rfl rfl))
  have hblocked := ((hwoken.next
    (.run (w := ()) (.check rfl rfl))).next
    (.run (w := ()) (.yields rfl rfl))).next
    (.run (w := ()) (.resume rfl rfl))
  exact ⟨_, hblocked, ⟨rfl, rfl, rfl⟩, rfl,
    (watch_never_misses hblocked).1 () ⟨rfl, rfl, rfl⟩ (fun _ => nofun) rfl, rfl⟩

end ConnectHealth
