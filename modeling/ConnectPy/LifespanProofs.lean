import ConnectPy.ErrorsProofs
import ConnectPy.RoutingProofs
import Mathlib.Logic.Function.Basic

/-! # Lifespan — where the endpoints of an application come from

    An ASGI application is made of a service, or of an asynchronous generator that yields
    one when the server starts up.  The calls of the application with a lifespan scope and
    those with a request run side by side, and a request may come while a call waits for
    the generator, or in between two startups.

    Whatever the order, a request is answered from the endpoints of the service that was
    PROVIDED last, and is refused if none was; once a call has said that startup is
    complete, one was (`request_provided`).  What a call says to the server is a list of
    rounds with at most one last exchange (`conversation`). -/

namespace ConnectLifespan

open OrderedDict ConnectErrors ConnectRouting

variable {σ ε κ : Type}

/-! ## The application -/

/-- `service`: the instance, or an asynchronous generator of it. -/
inductive Service (σ : Type) where
  | single (service : σ)
  | generator

/-- A `ConnectASGIApplication`: the class that makes endpoints of a service may raise. -/
structure App (σ ε κ : Type) where
  service           : Service σ
  endpoints         : σ → Except Exc (Dict String ε)
  interceptors      : List κ
  applyInterceptors : List κ → ε → ε

/-- `_resolve_endpoints`. -/
def App.resolveEndpoints (app : App σ ε κ) (service : σ) : Except Exc (Dict String ε) :=
  (app.endpoints service).map fun endpoints =>
    if app.interceptors.isEmpty then endpoints
    else Dict.insertAll Prod.fst (fun e => app.applyInterceptors app.interceptors e.2) Dict.empty
      endpoints.entries

/-- `inspect.isasyncgen(self._service)`. -/
def App.isGenerator (app : App σ ε κ) : Bool :=
  match app.service with
  | .single _ => false
  | .generator => true

/-! ## A lifespan call -/

/-- What the server says. -/
inductive Message where
  | startup
  | shutdown
  | other (type : String)

/-- And what the application answers. -/
inductive Reply where
  | startupComplete
  | startupFailed (message : String)
  | shutdownComplete
  | shutdownFailed (message : String)
  deriving DecidableEq

/-- What a call has done so far, the generator included. -/
inductive Event (σ : Type) where
  | received (message : Message)
  | asked
  | provided (service : σ)
  | failed (e : Exc)
  | closing
  | closed
  | closeFailed (e : Exc)
  | sent (reply : Reply)

/-- What a call waits for, or how it ended. -/
inductive Point where
  | receiving
  | asking
  | closing
  | replying (reply : Reply)
  | returned
  | raised (e : Exc)

/-- A call of `_handle_lifespan`; `started` if `service_iter` is set. -/
structure Call (σ : Type) where
  started : Bool
  point   : Point
  events  : List (Event σ)

/-- A call that has just begun. -/
def Call.begin : Call σ := ⟨false, .receiving, []⟩

/-- What it waits for comes, or raises. -/
inductive Turn (σ : Type) where
  | receive (message : Except Exc Message)
  | provide (service : Except Exc σ)
  | close (result : Except Exc Unit)
  | send (result : Except Exc Unit)

/-- The exception that comes instead. -/
def Turn.raises : Turn σ → Option Exc
  | .receive (.error e) => some e
  | .provide (.error e) => some e
  | .close (.error e) => some e
  | .send (.error e) => some e
  | _ => none

/-- A call does these things and then waits. -/
def Call.go (call : Call σ) (point : Point) (events : List (Event σ)) : Call σ :=
  { call with point := point, events := call.events ++ events }

/-- With a service in hand, the endpoints are resolved and the startup is complete. -/
def startUp (app : App σ ε κ) (call : Call σ) (events : List (Event σ)) (service : σ)
    (resolved : Option (Dict String ε)) : Call σ × Option (Dict String ε) :=
  match app.resolveEndpoints service with
  | .ok endpoints => (call.go (.replying .startupComplete) events, some endpoints)
  | .error e => (call.go (.raised e) events, resolved)

section Turns

variable (app : App σ ε κ) (call : Call σ) (resolved : Option (Dict String ε))

/-- After `await receive()`. -/
def received : Except Exc Message → Call σ × Option (Dict String ε)
  | .ok .startup =>
      match app.service with
      | .generator =>
          ({ call with started := true }.go .asking [.received .startup, .asked], resolved)
      | .single service => startUp app call [.received .startup] service resolved
  | .ok .shutdown =>
      if call.started then (call.go .closing [.received .shutdown, .closing], resolved)
      else (call.go (.replying .shutdownComplete) [.received .shutdown], resolved)
  | .ok (.other type) => (call.go .receiving [.received (.other type)], resolved)
  | .error e => (call.go (.raised e) [], resolved)

/-- After `await anext(service_iter)`. -/
def asked : Except Exc σ → Call σ × Option (Dict String ε)
  | .ok service => startUp app call [.provided service] service resolved
  | .error e =>
      if e.isException then
        (call.go (.replying (.startupFailed e.text)) [.failed e], resolved)
      else (call.go (.raised e) [], resolved)

/-- After `await service_iter.aclose()`. -/
def closed : Except Exc Unit → Call σ
  | .ok () => call.go (.replying .shutdownComplete) [.closed]
  | .error e =>
      if e.isException then call.go (.replying (.shutdownFailed e.text)) [.closeFailed e]
      else call.go (.raised e) []

/-- After `await send(reply)`. -/
def sent (reply : Reply) : Except Exc Unit → Call σ
  | .ok () => call.go (if reply = .startupComplete then .receiving else .returned) [.sent reply]
  | .error e => call.go (.raised e) []

/-- `_handle_lifespan`, from one `await` to the next, with `_resolved_endpoints`. -/
def turn : Turn σ → Option (Call σ × Option (Dict String ε))
  | .receive message =>
      match call.point with
      | .receiving => some (received app call resolved message)
      | _ => none
  | .provide service =>
      match call.point with
      | .asking => some (asked app call resolved service)
      | _ => none
  | .close result =>
      match call.point with
      | .closing => some (closed call result, resolved)
      | _ => none
  | .send result =>
      match call.point with
      | .replying reply => some (sent call reply result, resolved)
      | _ => none

end Turns

/-! ## Requests -/

/-- The text for a request before any startup. -/
def notSupported : String :=
  "ASGI server does not support lifespan but async generator passed for service. Enable lifespan support."

/-- `__call__` with the scope of a request, up to the lookup of its endpoint. -/
def request (app : App σ ε κ) (resolved : Option (Dict String ε)) (path rootPath : String) :
    Except Exc (Option ε) × Option (Dict String ε) :=
  match resolved with
  | some endpoints => (.ok (asgiEndpoint endpoints path rootPath), resolved)
  | none =>
      match app.service with
      | .generator => (.error (.exception .runtimeError notSupported), none)
      | .single service =>
          match app.resolveEndpoints service with
          | .ok endpoints => (.ok (asgiEndpoint endpoints path rootPath), some endpoints)
          | .error e => (.error e, none)

/-! ## Runs -/

/-- The application, with the lifespan calls that were made. -/
structure State (σ ε : Type) where
  resolved : Option (Dict String ε)
  calls    : Nat → Option (Call σ)

def init : State σ ε := ⟨none, fun _ => none⟩

inductive Act (σ : Type) where
  | lifespan (k : Nat)
  | turn (k : Nat) (t : Turn σ)
  | request (path rootPath : String)

def step (app : App σ ε κ) (s : State σ ε) : Act σ → Option (State σ ε)
  | .lifespan k =>
      match s.calls k with
      | none => some { s with calls := Function.update s.calls k (some .begin) }
      | some _ => none
  | .turn k t =>
      match s.calls k with
      | none => none
      | some call =>
          (turn app call s.resolved t).map fun r =>
            ⟨r.2, Function.update s.calls k (some r.1)⟩
  | .request path rootPath => some { s with resolved := (request app s.resolved path rootPath).2 }

/-- The states after some actions, with these in their order. -/
inductive Run (app : App σ ε κ) : List (Act σ) → State σ ε → Prop
  | init : Run app [] init
  | step {acts act s s'} (h : Run app acts s) (hs : step app s act = some s') :
      Run app (acts ++ [act]) s'

/-! ## What a turn does -/

/-- A service in hand: its endpoints are resolved, or the call is over. -/
inductive StartedUp (app : App σ ε κ) (call : Call σ) (events : List (Event σ)) (service : σ)
    (resolved : Option (Dict String ε)) : Call σ × Option (Dict String ε) → Prop
  | complete {endpoints} (h : app.resolveEndpoints service = .ok endpoints) :
      StartedUp app call events service resolved
        (call.go (.replying .startupComplete) events, some endpoints)
  | raised {e} (h : app.resolveEndpoints service = .error e) :
      StartedUp app call events service resolved (call.go (.raised e) events, resolved)

theorem startedUp (app : App σ ε κ) (call : Call σ) (events : List (Event σ)) (service : σ)
    (resolved : Option (Dict String ε)) :
    StartedUp app call events service resolved (startUp app call events service resolved) := by
  rw [startUp]
  cases h : app.resolveEndpoints service with
  | ok endpoints => exact .complete h
  | error e => exact .raised h

/-- What `_handle_lifespan` does from one `await` to the next. -/
inductive Turned (app : App σ ε κ) (call : Call σ) (resolved : Option (Dict String ε)) :
    Turn σ → Call σ × Option (Dict String ε) → Prop
  | ask (hp : call.point = .receiving) (hs : app.service = .generator) :
      Turned app call resolved (.receive (.ok .startup))
        ({ call with started := true }.go .asking [.received .startup, .asked], resolved)
  | single {service r} (hp : call.point = .receiving) (hs : app.service = .single service)
      (h : StartedUp app call [.received .startup] service resolved r) :
      Turned app call resolved (.receive (.ok .startup)) r
  | close (hp : call.point = .receiving) (hs : call.started = true) :
      Turned app call resolved (.receive (.ok .shutdown))
        (call.go .closing [.received .shutdown, .closing], resolved)
  | shutdown (hp : call.point = .receiving) (hs : call.started = false) :
      Turned app call resolved (.receive (.ok .shutdown))
        (call.go (.replying .shutdownComplete) [.received .shutdown], resolved)
  | other {type} (hp : call.point = .receiving) :
      Turned app call resolved (.receive (.ok (.other type)))
        (call.go .receiving [.received (.other type)], resolved)
  | provided {service r} (hp : call.point = .asking)
      (h : StartedUp app call [.provided service] service resolved r) :
      Turned app call resolved (.provide (.ok service)) r
  | failed {e} (hp : call.point = .asking) (he : e.isException = true) :
      Turned app call resolved (.provide (.error e))
        (call.go (.replying (.startupFailed e.text)) [.failed e], resolved)
  | closed (hp : call.point = .closing) :
      Turned app call resolved (.close (.ok ()))
        (call.go (.replying .shutdownComplete) [.closed], resolved)
  | closeFailed {e} (hp : call.point = .closing) (he : e.isException = true) :
      Turned app call resolved (.close (.error e))
        (call.go (.replying (.shutdownFailed e.text)) [.closeFailed e], resolved)
  | again (hp : call.point = .replying .startupComplete) :
      Turned app call resolved (.send (.ok ()))
        (call.go .receiving [.sent .startupComplete], resolved)
  | last {reply} (hp : call.point = .replying reply) (hr : reply ≠ .startupComplete) :
      Turned app call resolved (.send (.ok ())) (call.go .returned [.sent reply], resolved)
  | raised {t e} (hp : call.point ≠ .returned) (ht : t.raises = some e) :
      Turned app call resolved t (call.go (.raised e) [], resolved)

theorem turned {app : App σ ε κ} {call : Call σ} {resolved : Option (Dict String ε)} {t : Turn σ}
    {r : Call σ × Option (Dict String ε)} (h : turn app call resolved t = some r) :
    Turned app call resolved t r := by
  cases t with
  | receive message =>
      simp only [turn] at h
      cases hp : call.point <;> rw [hp] at h <;> cases h
      -- A message, or an exception of the receiver.
      rcases message with e | _ | _ | type
      · exact .raised (by rw [hp]; rintro ⟨⟩) rfl
      · rw [received]
        cases hs : app.service with
        | generator => exact .ask hp hs
        | single service => exact .single hp hs (startedUp app call _ service resolved)
      · rw [received]
        split
        · next hs => exact .close hp hs
        · next hs => exact .shutdown hp (Bool.eq_false_iff.mpr hs)
      · exact .other hp
  | provide service =>
      simp only [turn] at h
      cases hp : call.point <;> rw [hp] at h <;> cases h
      cases service with
      | ok service => exact .provided hp (startedUp app call _ service resolved)
      | error e =>
          rw [asked]
          split
          · next he => exact .failed hp he
          · exact .raised (by rw [hp]; rintro ⟨⟩) rfl
  | close result =>
      simp only [turn] at h
      cases hp : call.point <;> rw [hp] at h <;> cases h
      cases result with
      | ok u => exact .closed hp
      | error e =>
          rw [closed]
          split
          · next he => exact .closeFailed hp he
          · exact .raised (by rw [hp]; rintro ⟨⟩) rfl
  | send result =>
      simp only [turn] at h
      cases hp : call.point <;> rw [hp] at h <;> cases h
      next reply =>
        cases result with
        | ok u =>
            rw [sent]
            split
            · next hr =>
                obtain rfl := hr
                exact .again hp
            · next hr => exact .last hp hr
        | error e => exact .raised (by rw [hp]; rintro ⟨⟩) rfl

/-! ## What a call says -/

/-- A message after which a call waits for the next one. -/
inductive Round (σ : Type) where
  | started (service : σ)
  | ignored (type : String)

/-- What is done about it. -/
def Round.events (generator : Bool) : Round σ → List (Event σ)
  | .started service =>
      if generator then [.received .startup, .asked, .provided service, .sent .startupComplete]
      else [.received .startup, .sent .startupComplete]
  | .ignored type => [.received (.other type)]

def Round.isStarted : Round σ → Bool
  | .started _ => true
  | .ignored _ => false

/-- The exchanges after which a call returns: what was started is closed. -/
inductive Last (generator started : Bool) : List (Event σ) → Prop
  | failed (e : Exc) (h : generator = true) :
      Last generator started
        [.received .startup, .asked, .failed e, .sent (.startupFailed e.text)]
  | shutdown (h : (generator && started) = false) :
      Last generator started [.received .shutdown, .sent .shutdownComplete]
  | closed (h : (generator && started) = true) :
      Last generator started [.received .shutdown, .closing, .closed, .sent .shutdownComplete]
  | closeFailed (e : Exc) (h : (generator && started) = true) :
      Last generator started
        [.received .shutdown, .closing, .closeFailed e, .sent (.shutdownFailed e.text)]

/-- A beginning of either. -/
def Begun (generator started : Bool) (events : List (Event σ)) : Prop :=
  (∃ round : Round σ, events <+: round.events generator)
    ∨ ∃ last, Last generator started last ∧ events <+: last

/-- What a call has done since its last round, by what it waits for. -/
def Place (generator started : Bool) (call : Call σ) (events : List (Event σ)) : Prop :=
  match call.point with
  | .receiving => events = [] ∧ call.started = (generator && started)
  | .asking => generator = true ∧ call.started = true ∧ events = [.received .startup, .asked]
  | .closing => (generator && started) = true ∧ events = [.received .shutdown, .closing]
  | .replying reply =>
      if reply = .startupComplete then
        call.started = generator
          ∧ ∃ service, events ++ [.sent reply] = Round.events generator (.started service)
      else Last generator started (events ++ [.sent reply])
  | .returned => Last generator started events
  | .raised _ => Begun generator started events

/-- The rounds of a call, and what it has done since. -/
structure Talk (generator : Bool) (call : Call σ) (rounds : List (Round σ))
    (since : List (Event σ)) : Prop where
  events : call.events = rounds.flatMap (Round.events generator) ++ since
  place  : Place generator (rounds.any Round.isStarted) call since

section Talking

variable {generator started : Bool} {call : Call σ} {events : List (Event σ)}

/-- Wherever a call is, the exchange is begun. -/
theorem Place.begun (h : Place generator started call events) (hp : call.point ≠ .returned) :
    Begun generator started events := by
  rw [Place] at h
  cases hpoint : call.point with
  | receiving =>
      rw [hpoint] at h
      exact .inl ⟨.ignored "", h.1 ▸ List.nil_prefix⟩
  | asking =>
      rw [hpoint] at h
      exact .inr ⟨_, .failed (.cancelled .scope) h.1, h.2.2 ▸ List.prefix_append _ _⟩
  | closing =>
      rw [hpoint] at h
      exact .inr ⟨_, .closed h.1, h.2 ▸ List.prefix_append _ _⟩
  | replying reply =>
      rw [hpoint] at h
      dsimp only at h
      split at h
      · obtain ⟨-, service, hevents⟩ := h
        exact .inl ⟨.started service, hevents ▸ List.prefix_append _ _⟩
      · exact .inr ⟨_, h, List.prefix_append _ _⟩
  | returned => exact absurd hpoint hp
  | raised e =>
      rw [hpoint] at h
      exact h

/-- Resolving the endpoints of a service. -/
theorem place_startedUp {app : App σ ε κ} {more : List (Event σ)} {service : σ}
    {resolved : Option (Dict String ε)} {r : Call σ × Option (Dict String ε)}
    (h : StartedUp app call more service resolved r)
    (hstarted : call.started = generator)
    (hevents : events ++ more ++ [.sent .startupComplete]
      = Round.events generator (.started service)) :
    Place generator started r.1 (events ++ more) := by
  cases h with
  | complete h => exact ⟨hstarted, service, hevents⟩
  | raised h => exact .inl ⟨.started service, hevents ▸ List.prefix_append _ _⟩

end Talking

section TalkStep

variable {app : App σ ε κ} {call : Call σ} {rounds : List (Round σ)} {since : List (Event σ)}
  {resolved : Option (Dict String ε)}

/-- More is done. -/
theorem Talk.more (h : Talk app.isGenerator call rounds since) {call' : Call σ}
    {more : List (Event σ)} (hevents : call'.events = call.events ++ more)
    (hplace : Place app.isGenerator (rounds.any Round.isStarted) call' (since ++ more)) :
    Talk app.isGenerator call' rounds (since ++ more) := by
  refine ⟨?_, hplace⟩
  rw [hevents, h.events, List.append_assoc]

/-- A round is done. -/
theorem Talk.round (h : Talk app.isGenerator call rounds since) {call' : Call σ}
    {more : List (Event σ)} (hevents : call'.events = call.events ++ more) {round : Round σ}
    (hround : since ++ more = round.events app.isGenerator)
    (hplace : Place app.isGenerator ((rounds ++ [round]).any Round.isStarted) call' []) :
    Talk app.isGenerator call' (rounds ++ [round]) [] := by
  refine ⟨?_, hplace⟩
  rw [hevents, h.events, List.append_assoc, hround, List.flatMap_append, List.flatMap_singleton,
    List.append_nil]

theorem events_startedUp {more : List (Event σ)} {service : σ}
    {r : Call σ × Option (Dict String ε)} (h : StartedUp app call more service resolved r) :
    r.1.events = call.events ++ more := by
  cases h <;> rfl

/-- **One turn** goes on with the conversation. -/
theorem Talk.turned (h : Talk app.isGenerator call rounds since) {t : Turn σ}
    {r : Call σ × Option (Dict String ε)} (ht : Turned app call resolved t r) :
    ∃ rounds' since', Talk app.isGenerator r.1 rounds' since' := by
  have hplace := h.place
  rw [Place] at hplace
  cases ht with
  | ask hp hs =>
      rw [hp] at hplace
      obtain ⟨rfl, -⟩ := hplace
      -- The generator is asked: the exchange that began with the startup goes on.
      have hg : app.isGenerator = true := by rw [App.isGenerator, hs]
      exact ⟨rounds, _, h.more rfl ⟨hg, rfl, rfl⟩⟩
  | single hp hs hup =>
      rw [hp] at hplace
      obtain ⟨rfl, hstarted⟩ := hplace
      have hg : app.isGenerator = false := by rw [App.isGenerator, hs]
      rw [hg, Bool.false_and] at hstarted
      refine ⟨rounds, _, h.more (events_startedUp hup) (place_startedUp hup ?_ ?_)⟩
      · rw [hstarted, hg]
      · rw [hg]
        rfl
  | close hp hs =>
      rw [hp] at hplace
      obtain ⟨rfl, hstarted⟩ := hplace
      exact ⟨rounds, _, h.more rfl ⟨hstarted.symm.trans hs, rfl⟩⟩
  | shutdown hp hs =>
      rw [hp] at hplace
      obtain ⟨rfl, hstarted⟩ := hplace
      exact ⟨rounds, _, h.more rfl (Last.shutdown (hstarted.symm.trans hs))⟩
  | @other type hp =>
      rw [hp] at hplace
      obtain ⟨rfl, hstarted⟩ := hplace
      -- Any other message is a round of its own.
      refine ⟨rounds ++ [.ignored type], [], h.round rfl rfl ⟨rfl, ?_⟩⟩
      rw [List.any_append]
      exact hstarted.trans (by simp [Round.isStarted])
  | provided hp hup =>
      rw [hp] at hplace
      obtain ⟨hg, hstarted, rfl⟩ := hplace
      refine ⟨rounds, _, h.more (events_startedUp hup) (place_startedUp hup ?_ ?_)⟩
      · rw [hstarted, hg]
      · rw [hg]
        rfl
  | @failed e hp he =>
      rw [hp] at hplace
      obtain ⟨hg, -, rfl⟩ := hplace
      exact ⟨rounds, _, h.more rfl (Last.failed e hg)⟩
  | closed hp =>
      rw [hp] at hplace
      obtain ⟨hclose, rfl⟩ := hplace
      exact ⟨rounds, _, h.more rfl (Last.closed hclose)⟩
  | @closeFailed e hp he =>
      rw [hp] at hplace
      obtain ⟨hclose, rfl⟩ := hplace
      exact ⟨rounds, _, h.more rfl (Last.closeFailed e hclose)⟩
  | again hp =>
      rw [hp] at hplace
      dsimp only at hplace
      rw [if_pos rfl] at hplace
      obtain ⟨hstarted, service, hevents⟩ := hplace
      -- A startup that was answered closes its round, and the next one is open.
      refine ⟨rounds ++ [.started service], [], h.round rfl hevents ⟨rfl, ?_⟩⟩
      rw [List.any_append]
      exact hstarted.trans (by simp [Round.isStarted])
  | last hp hr =>
      rw [hp] at hplace
      dsimp only at hplace
      rw [if_neg hr] at hplace
      -- The call returns: what it sent last is the end of the conversation.
      exact ⟨rounds, _, h.more rfl hplace⟩
  | raised hp ht =>
      refine ⟨rounds, since ++ [], h.more rfl ?_⟩
      rw [List.append_nil]
      exact h.place.begun hp

end TalkStep

/-! ## What a step does -/

inductive Stepped (app : App σ ε κ) (s : State σ ε) : Act σ → State σ ε → Prop
  | lifespan {k} (h : s.calls k = none) :
      Stepped app s (.lifespan k) { s with calls := Function.update s.calls k (some .begin) }
  | turn {k call t r} (h : s.calls k = some call) (ht : Turned app call s.resolved t r) :
      Stepped app s (.turn k t) ⟨r.2, Function.update s.calls k (some r.1)⟩
  | request {path rootPath} : Stepped app s (.request path rootPath)
      { s with resolved := (request app s.resolved path rootPath).2 }

theorem stepped {app : App σ ε κ} {s s' : State σ ε} {act : Act σ}
    (h : step app s act = some s') : Stepped app s act s' := by
  cases act with
  | lifespan k =>
      rw [step] at h
      cases hk : s.calls k with
      | none =>
          rw [hk] at h
          cases h
          exact .lifespan hk
      | some call =>
          rw [hk] at h
          cases h
  | turn k t =>
      rw [step] at h
      cases hk : s.calls k with
      | none =>
          rw [hk] at h
          cases h
      | some call =>
          rw [hk] at h
          dsimp only at h
          cases hr : turn app call s.resolved t with
          | none =>
              rw [hr] at h
              cases h
          | some r =>
              rw [hr] at h
              cases h
              exact .turn hk (turned hr)
  | request path rootPath =>
      cases h
      exact .request

section Runs

variable {app : App σ ε κ} {acts : List (Act σ)} {s : State σ ε}

theorem talk_begin : Talk app.isGenerator (.begin : Call σ) [] [] :=
  ⟨rfl, rfl, (Bool.and_false _).symm⟩

/-- A call that is there was so before, or is the one that was put there. -/
theorem call_of_update {calls : Nat → Option (Call σ)} {k k' : Nat} {new call : Call σ}
    (h : Function.update calls k' (some new) k = some call) :
    call = new ∧ k = k' ∨ calls k = some call := by
  by_cases hk : k = k'
  · subst hk
    rw [Function.update_self] at h
    exact .inl ⟨(Option.some.inj h).symm, rfl⟩
  · rw [Function.update_of_ne hk] at h
    exact .inr h

/-- Every call of a run talks so. -/
theorem Run.talks (h : Run app acts s) {k : Nat} {call : Call σ} (hcall : s.calls k = some call) :
    ∃ rounds since, Talk app.isGenerator call rounds since := by
  induction h generalizing k call with
  | init => cases hcall
  | step h hs ih =>
      cases stepped hs with
      | request => exact ih hcall
      | lifespan hnone =>
          rcases call_of_update hcall with ⟨rfl, -⟩ | hcall
          · exact ⟨[], [], talk_begin⟩
          · exact ih hcall
      | turn hbefore ht =>
          rcases call_of_update hcall with ⟨rfl, -⟩ | hcall
          · obtain ⟨rounds, since, htalk⟩ := ih hbefore
            exact htalk.turned ht
          · exact ih hcall

/-- **THE CONVERSATION** of a call, in every run: rounds, each of which starts the service
    up, and then at most one exchange more, after which the call is over.  A generator is
    closed if the call has started it, and then only. -/
theorem conversation (h : Run app acts s) {k : Nat} {call : Call σ}
    (hcall : s.calls k = some call) :
    ∃ (rounds : List (Round σ)) (since : List (Event σ)),
      call.events = rounds.flatMap (Round.events app.isGenerator) ++ since
        ∧ Begun app.isGenerator (rounds.any Round.isStarted) since
        ∧ (call.point = .receiving → since = [])
        ∧ (call.point = .returned →
          Last app.isGenerator (rounds.any Round.isStarted) since) := by
  obtain ⟨rounds, since, htalk⟩ := h.talks hcall
  have hplace := htalk.place
  refine ⟨rounds, since, htalk.events, ?_, ?_, ?_⟩
  · by_cases hp : call.point = .returned
    · rw [Place, hp] at hplace
      exact .inr ⟨since, hplace, List.prefix_rfl⟩
    · exact hplace.begun hp
  · intro hp
    rw [Place, hp] at hplace
    exact hplace.1
  · intro hp
    rw [Place, hp] at hplace
    exact hplace

end Runs

/-! ## Where requests go -/

/-- The endpoints of a service that an action provides. -/
def provides (app : App σ ε κ) : Act σ → Option (Dict String ε)
  | .turn _ (.provide (.ok service)) => (app.resolveEndpoints service).toOption
  | _ => none

/-- The endpoints of the last one that was provided. -/
def latest (app : App σ ε κ) (acts : List (Act σ)) : Option (Dict String ε) :=
  (acts.filterMap (provides app)).getLast?

/-- How a request is answered after some actions. -/
def answer (app : App σ ε κ) (acts : List (Act σ)) (path rootPath : String) :
    Except Exc (Option ε) :=
  match app.service with
  | .single service =>
      (app.resolveEndpoints service).map fun endpoints => asgiEndpoint endpoints path rootPath
  | .generator =>
      match latest app acts with
      | some endpoints => .ok (asgiEndpoint endpoints path rootPath)
      | none => .error (.exception .runtimeError notSupported)

section Provided

variable {app : App σ ε κ} {acts : List (Act σ)} {s : State σ ε}

theorem latest_snoc (acts : List (Act σ)) (act : Act σ) :
    latest app (acts ++ [act]) = (provides app act).or (latest app acts) := by
  rw [latest, List.filterMap_append, List.getLast?_append]
  cases h : provides app act with
  | none => simp [List.filterMap, h, latest]
  | some endpoints => simp [List.filterMap, h]

/-- A turn of an application with a generator. -/
theorem Turned.provides (hgenerator : app.service = .generator) {call : Call σ}
    {resolved : Option (Dict String ε)} {t : Turn σ} {r : Call σ × Option (Dict String ε)}
    (ht : Turned app call resolved t r) (k : Nat) :
    r.2 = (provides app (.turn k t)).or resolved := by
  cases ht with
  | single hp hs hup => rw [hgenerator] at hs; cases hs
  | @provided service r hp hup =>
      rw [ConnectLifespan.provides]
      cases hup with
      | complete h => rw [h]; rfl
      | raised h => rw [h]; rfl
  | @raised t e hp ht =>
      rcases t with (e' | m) | (e' | service) | (e' | u) | (e' | u)
      · rfl
      · cases ht
      · rfl
      · cases ht
      · rfl
      · cases ht
      · rfl
      · cases ht
  | ask hp hs => rfl
  | close hp hs => rfl
  | shutdown hp hs => rfl
  | other hp => rfl
  | failed hp he => rfl
  | closed hp => rfl
  | closeFailed hp he => rfl
  | again hp => rfl
  | last hp hr => rfl

/-- A request leaves the endpoints of a generator as they are. -/
theorem request_generator (hgenerator : app.service = .generator)
    (resolved : Option (Dict String ε)) (path rootPath : String) :
    (request app resolved path rootPath).2 = resolved := by
  cases resolved with
  | some endpoints => rfl
  | none =>
      unfold request
      rw [hgenerator]

/-- **WITH A GENERATOR**, the endpoints are those provided last. -/
theorem Run.resolved_generator (hgenerator : app.service = .generator) (h : Run app acts s) :
    s.resolved = latest app acts := by
  induction h with
  | init => rfl
  | step h hs ih =>
      rw [latest_snoc, ← ih]
      cases stepped hs with
      | lifespan hnone => rfl
      | turn hcall ht => exact ht.provides hgenerator _
      | request => exact request_generator hgenerator _ _ _

/-- A turn of an application with a service of its own. -/
theorem Turned.resolved_single {service : σ} (hservice : app.service = .single service)
    {call : Call σ} (hasking : call.point ≠ .asking) {resolved : Option (Dict String ε)}
    {t : Turn σ} {r : Call σ × Option (Dict String ε)} (ht : Turned app call resolved t r) :
    r.2 = resolved ∨ ∃ endpoints, r.2 = some endpoints
      ∧ app.resolveEndpoints service = .ok endpoints := by
  cases ht with
  | single hp hs hup =>
      rw [hservice] at hs
      cases hs
      cases hup with
      | complete h => exact .inr ⟨_, rfl, h⟩
      | raised h => exact .inl rfl
  | provided hp hup => exact absurd hp hasking
  | ask hp hs => exact .inl rfl
  | close hp hs => exact .inl rfl
  | shutdown hp hs => exact .inl rfl
  | other hp => exact .inl rfl
  | failed hp he => exact .inl rfl
  | closed hp => exact .inl rfl
  | closeFailed hp he => exact .inl rfl
  | again hp => exact .inl rfl
  | last hp hr => exact .inl rfl
  | raised hp ht => exact .inl rfl

theorem request_single {service : σ} (hservice : app.service = .single service)
    (resolved : Option (Dict String ε)) (path rootPath : String) :
    (request app resolved path rootPath).2 = resolved
      ∨ ∃ endpoints, (request app resolved path rootPath).2 = some endpoints
        ∧ app.resolveEndpoints service = .ok endpoints := by
  cases resolved with
  | some endpoints => exact .inl rfl
  | none =>
      unfold request
      rw [hservice]
      dsimp only
      cases h : app.resolveEndpoints service with
      | ok endpoints => exact .inr ⟨endpoints, rfl, rfl⟩
      | error e => exact .inl rfl

/-- With a service of its own, an application has none but its endpoints. -/
theorem Run.resolved_single {service : σ} (hservice : app.service = .single service)
    (h : Run app acts s) {endpoints : Dict String ε} (hsome : s.resolved = some endpoints) :
    app.resolveEndpoints service = .ok endpoints := by
  have hgenerator : app.isGenerator = false := by rw [App.isGenerator, hservice]
  have hnew : ∀ {new old : Option (Dict String ε)} {endpoints : Dict String ε},
      (new = old ∨ ∃ endpoints, new = some endpoints
        ∧ app.resolveEndpoints service = .ok endpoints) → new = some endpoints →
      (old = some endpoints → app.resolveEndpoints service = .ok endpoints) →
      app.resolveEndpoints service = .ok endpoints := by
    rintro new old endpoints (rfl | ⟨endpoints', rfl, h⟩) hsome hold
    · exact hold hsome
    · cases hsome
      exact h
  induction h generalizing endpoints with
  | init => cases hsome
  | step h hs ih =>
      cases stepped hs with
      | lifespan hnone => exact ih hsome
      | request => exact hnew (request_single hservice _ _ _) hsome ih
      | turn hcall ht =>
          refine hnew (ht.resolved_single hservice ?_) hsome ih
          -- Only a generator is asked.
          intro hp
          obtain ⟨rounds, since, htalk⟩ := h.talks hcall
          have hplace := htalk.place
          rw [Place, hp, hgenerator] at hplace
          cases hplace.1

/-! ## After a startup -/

/-- A call that has said that startup is complete, or is about to. -/
def Call.Complete (call : Call σ) : Prop :=
  .sent .startupComplete ∈ call.events ∨ call.point = .replying .startupComplete

theorem Call.Complete.of_go {call : Call σ} {point : Point} {events : List (Event σ)}
    (h : (call.go point events).Complete) (hevents : .sent .startupComplete ∉ events)
    (hpoint : point ≠ .replying .startupComplete) : call.Complete := by
  rcases h with h | h
  · exact .inl ((List.mem_append.mp h).resolve_right hevents)
  · exact absurd h hpoint

/-- Startup is complete with endpoints only. -/
theorem Turned.complete {call : Call σ} {resolved : Option (Dict String ε)} {t : Turn σ}
    {r : Call σ × Option (Dict String ε)} (ht : Turned app call resolved t r)
    (h : r.1.Complete) : call.Complete ∨ r.2 ≠ none := by
  have hup : ∀ {more : List (Event σ)} {service : σ} {r : Call σ × Option (Dict String ε)},
      StartedUp app call more service resolved r → .sent .startupComplete ∉ more →
      r.1.Complete → call.Complete ∨ r.2 ≠ none := by
    intro more service r hup hmore h
    cases hup with
    | complete _ => exact .inr (Option.some_ne_none _)
    | raised _ => exact .inl (h.of_go hmore (by rintro ⟨⟩))
  cases ht with
  | single hp hs hs' => exact hup hs' (by simp) h
  | provided hp hs => exact hup hs (by simp) h
  | ask hp hs => exact .inl (h.of_go (by simp) (by rintro ⟨⟩))
  | close hp hs => exact .inl (h.of_go (by simp) (by rintro ⟨⟩))
  | shutdown hp hs => exact .inl (h.of_go (by simp) (by rintro ⟨⟩))
  | other hp => exact .inl (h.of_go (by simp) (by rintro ⟨⟩))
  | failed hp he => exact .inl (h.of_go (by simp) (by rintro ⟨⟩))
  | closed hp => exact .inl (h.of_go (by simp) (by rintro ⟨⟩))
  | closeFailed hp he => exact .inl (h.of_go (by simp) (by rintro ⟨⟩))
  | again hp => exact .inl (.inr hp)
  | last hp hr =>
      refine .inl (h.of_go (fun hmem => hr ?_) (by rintro ⟨⟩))
      cases List.mem_singleton.mp hmem
      rfl
  | raised hp ht => exact .inl (h.of_go (by simp) (by rintro ⟨⟩))

/-- Endpoints stay. -/
theorem Turned.resolved_ne {call : Call σ} {resolved : Option (Dict String ε)} {t : Turn σ}
    {r : Call σ × Option (Dict String ε)} (ht : Turned app call resolved t r)
    (h : resolved ≠ none) : r.2 ≠ none := by
  cases ht with
  | single hp hs hup =>
      cases hup with
      | complete _ => exact Option.some_ne_none _
      | raised _ => exact h
  | provided hp hup =>
      cases hup with
      | complete _ => exact Option.some_ne_none _
      | raised _ => exact h
  | ask hp hs => exact h
  | close hp hs => exact h
  | shutdown hp hs => exact h
  | other hp => exact h
  | failed hp he => exact h
  | closed hp => exact h
  | closeFailed hp he => exact h
  | again hp => exact h
  | last hp hr => exact h
  | raised hp ht => exact h

theorem request_ne {resolved : Option (Dict String ε)} (h : resolved ≠ none)
    (path rootPath : String) : (request app resolved path rootPath).2 ≠ none := by
  cases resolved with
  | some endpoints => exact h
  | none => exact absurd rfl h

/-- **ONCE STARTUP IS COMPLETE** there are endpoints. -/
theorem Run.complete (h : Run app acts s) {k : Nat} {call : Call σ} (hcall : s.calls k = some call)
    (hcomplete : call.Complete) : s.resolved ≠ none := by
  induction h generalizing k call with
  | init => cases hcall
  | step h hs ih =>
      cases stepped hs with
      | request => exact request_ne (ih hcall hcomplete) _ _
      | lifespan hnone =>
          rcases call_of_update hcall with ⟨rfl, -⟩ | hcall
          · rcases hcomplete with hmem | hpoint
            · cases hmem
            · cases hpoint
          · exact ih hcall hcomplete
      | turn hbefore ht =>
          rcases call_of_update hcall with ⟨rfl, -⟩ | hcall
          · rcases ht.complete hcomplete with hbefore' | hne
            · exact ht.resolved_ne (ih hbefore hbefore')
            · exact hne
          · exact ht.resolved_ne (ih hcall hcomplete)

/-- **REQUESTS**, in every run: one is answered from the endpoints of the service that was
    provided last, whatever else is going on, and none is refused once a call has said
    that startup is complete. -/
theorem request_provided (h : Run app acts s) :
    (∀ path rootPath, (request app s.resolved path rootPath).1 = answer app acts path rootPath)
    ∧ ∀ k call, s.calls k = some call → .sent .startupComplete ∈ call.events →
      ∀ path rootPath, ∃ endpoint, answer app acts path rootPath = .ok endpoint := by
  have hanswer : ∀ path rootPath,
      (request app s.resolved path rootPath).1 = answer app acts path rootPath := by
    intro path rootPath
    rw [answer]
    cases hservice : app.service with
    | generator =>
        rw [← h.resolved_generator hservice]
        unfold request
        cases s.resolved with
        | some endpoints => rfl
        | none => rw [hservice]
    | single service =>
        cases hresolved : s.resolved with
        | some endpoints =>
            dsimp only
            rw [h.resolved_single hservice hresolved]
            rfl
        | none =>
            unfold request
            rw [hservice]
            dsimp only
            cases app.resolveEndpoints service with
            | ok endpoints => rfl
            | error e => rfl
  refine ⟨hanswer, fun k call hcall hmem path rootPath => ?_⟩
  obtain ⟨endpoints, hresolved⟩ := Option.ne_none_iff_exists'.mp (h.complete hcall (.inl hmem))
  refine ⟨asgiEndpoint endpoints path rootPath, ?_⟩
  rw [← hanswer, hresolved]
  rfl

end Provided

/-! ## A request that is too early -/

/-- An application of one endpoint, whose generator yields the number that it answers. -/
def numbers : App Nat Nat Unit where
  service := .generator
  endpoints := fun service => .ok (Dict.empty.insert "/example.Numbers/Get" service)
  interceptors := []
  applyInterceptors := fun _ endpoint => endpoint

/-- The first request comes while the generator is waited for. -/
def early : List (Act Nat) :=
  [.lifespan 0, .turn 0 (.receive (.ok .startup)), .request "/example.Numbers/Get" "",
    .turn 0 (.provide (.ok 7)), .turn 0 (.send (.ok ()))]

/-- Actions that can be taken are a run. -/
theorem run_of_foldlM {app : App σ ε κ} {acts before : List (Act σ)} {s s' : State σ ε}
    (h : Run app before s) (hacts : acts.foldlM (step app) s = some s') :
    Run app (before ++ acts) s' := by
  induction acts generalizing before s with
  | nil =>
      cases hacts
      rw [List.append_nil]
      exact h
  | cons act acts ih =>
      rw [List.foldlM_cons] at hacts
      cases hs : step app s act with
      | none =>
          rw [hs] at hacts
          cases hacts
      | some t =>
          rw [hs] at hacts
          have hrun := ih (h.step hs) hacts
          rw [List.append_assoc] at hrun
          exact hrun

theorem request_provided_early :
    ∃ s, Run numbers early s
      ∧ (request numbers s.resolved "/example.Numbers/Get" "").1 = .ok (some 7)
      ∧ ∀ path rootPath, ∃ endpoint, answer numbers early path rootPath = .ok endpoint := by
  have hrun : Run numbers early _ := run_of_foldlM .init rfl
  obtain ⟨hanswer, hserved⟩ := request_provided hrun
  refine ⟨_, hrun, (hanswer _ _).trans ?_, hserved 0 _ rfl ?_⟩
  · rfl
  · exact List.mem_append_right _ List.mem_cons_self

theorem conversation_early :
    ∃ (rounds : List (Round Nat)) (since : List (Event Nat)),
      [Event.received .startup, .asked, .provided 7, .sent .startupComplete]
        = rounds.flatMap (Round.events true) ++ since
        ∧ Begun true (rounds.any Round.isStarted) since ∧ since = [] := by
  have hrun : Run numbers early _ := run_of_foldlM .init rfl
  obtain ⟨rounds, since, hevents, hbegun, hreceiving, -⟩ := conversation hrun (k := 0) rfl
  exact ⟨rounds, since, hevents, hbegun, hreceiving rfl⟩

end ConnectLifespan
