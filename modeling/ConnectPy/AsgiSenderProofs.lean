import ConnectPy.TrailersWireProofs
import ConnectPy.EffectProofs
import Mathlib.Data.List.Chain

/-! # The sender of an ASGI response

    A request is handled by one coroutine.  What it awaits (the handler, the
    interceptors, the app server) is an environment with a state of its own that
    may return, raise, be cancelled, or never come back; `Env` collects it.  `Run`
    is the state of the request, with a trace of what happened so far.

    `_ResponseSender` remembers whether the response has started and whether a
    send has failed.  `Sent` says what one send can do to this memory and to the
    trace, and the invariants of a response in progress (`Idle`, `Streaming`,
    `Spent`, `Complete`) follow from it. -/

namespace ConnectAsgi

open Utf8 (Bytes)
open Effect
open ConnectErrors ConnectPlatform ConnectHeaders

/-! ## Messages -/

/-- The messages of an ASGI response. -/
inductive Message where
  | start (status : Nat) (headers : List (Bytes × Bytes)) (trailers : Bool)
  | body (body : Bytes) (moreBody : Bool)
  | trailers (headers : List (Bytes × Bytes))

/-- `message["type"] == "http.response.start"`. -/
def Message.isStart : Message → Bool
  | .start _ _ _ => true
  | _ => false

/-- The messages that end a response: its last body message and its trailers. -/
def Message.isFinal : Message → Bool
  | .start _ _ _ => false
  | .body _ moreBody => !moreBody
  | .trailers _ => true

/-- The beginning of a response: its start, and body messages with more to come. -/
def opening (status : Nat) (headers : List (Bytes × Bytes)) (trailers : Bool)
    (bodies : List Bytes) : List Message :=
  .start status headers trailers :: bodies.map fun b => .body b true

/-- One start, body messages with more to come, one without, and trailers exactly
    when the start announced them. -/
inductive IsResponse : List Message → Prop where
  | plain (status : Nat) (headers : List (Bytes × Bytes)) (bodies : List Bytes) (last : Bytes) :
      IsResponse (opening status headers false bodies ++ [.body last false])
  | withTrailers (status : Nat) (headers : List (Bytes × Bytes)) (bodies : List Bytes)
      (last : Bytes) (trailers : List (Bytes × Bytes)) :
      IsResponse (opening status headers true bodies ++ [.body last false] ++ [.trailers trailers])

/-- Messages that some response begins with. -/
def Fits (ms : List Message) : Prop := ∃ full, IsResponse full ∧ ms <+: full

theorem fits_nil : Fits [] := ⟨_, .plain 200 [] [] [], List.nil_prefix⟩

theorem fits_response {ms : List Message} (h : IsResponse ms) : Fits ms :=
  ⟨ms, h, List.prefix_refl ms⟩

/-- The last body message can always follow. -/
theorem fits_last (status : Nat) (headers : List (Bytes × Bytes)) (trailers : Bool)
    (bodies : List Bytes) (last : Bytes) :
    Fits (opening status headers trailers bodies ++ [.body last false]) := by
  cases trailers with
  | false => exact fits_response (.plain status headers bodies last)
  | true => exact ⟨_, .withTrailers status headers bodies last [], List.prefix_append _ _⟩

theorem fits_opening (status : Nat) (headers : List (Bytes × Bytes)) (trailers : Bool)
    (bodies : List Bytes) : Fits (opening status headers trailers bodies) := by
  obtain ⟨full, hfull, hprefix⟩ := fits_last status headers trailers bodies []
  exact ⟨full, hfull, (List.prefix_append _ _).trans hprefix⟩

/-- One more body message with more to come. -/
theorem opening_append (status : Nat) (headers : List (Bytes × Bytes)) (trailers : Bool)
    (bodies : List Bytes) (b : Bytes) :
    opening status headers trailers bodies ++ [.body b true]
      = opening status headers trailers (bodies ++ [b]) := by
  rw [opening, opening, List.map_append, List.cons_append]
  rfl

/-! ## The environment -/

/-- How a send ends.  A message that was cut short or rejected may have been taken
    by the server nevertheless. -/
inductive SendOutcome where
  | sent
  | raised (e : Exc) (isException : e.isException = true) (taken : Bool)
  | cut (origin : CancelOrigin) (taken : Bool)
  | pending (taken : Bool)

/-- What the functions use of a `RequestContext`. -/
structure Ctx (p : Platform) where
  responseHeaders  : Headers p
  responseTrailers : Headers p

/-- What the coroutine of a request awaits and calls.  `ω` is a state of the
    environment: the handler, the interceptors, the event loop and the app server
    are arbitrary functions of it. -/
structure Env (p : Platform) (ω ι τ α : Type) where
  /-- The leading metadata interceptors. -/
  interceptors : List ι
  ctx : ω → Ctx p
  onStart : ι → Prog ω Exc τ
  /-- `on_end`, within the timeout scope or after it. -/
  onEnd : Bool → ι → τ → Option Exc → Prog ω Exc Unit
  /-- `_call_unary`: read the request and invoke the handler. -/
  callUnary : Prog ω Exc α
  /-- The handler of a method with one response message, on its request. -/
  callSingle : Prog ω Exc α
  /-- The handler of a method with a response stream, up to its generator. -/
  openStream : Prog ω Exc Unit
  /-- `anext` of the handler's generator; none when it is exhausted. -/
  nextResponse : Prog ω Exc (Option α)
  /-- `disconnected is not None and disconnected()`. -/
  disconnected : ω → Bool
  /-- `_aclose` of the handler's generator. -/
  aclose : Prog ω Exc Unit
  /-- `_throw_into` the handler's generator. -/
  throwInto : Exc → Prog ω Exc Unit
  /-- Entering and leaving `loop.watch_for_disconnect`. -/
  watchEnter : Prog ω Exc Unit
  watchExit : Prog ω Exc Unit
  /-- `stream.request_stream.aclose()`. -/
  acloseRequest : Prog ω Exc Unit
  /-- What leaves the timeout scope when an exception leaves its body: a
      `TimeoutError` in place of the scope's own cancellation. -/
  scopeExit : Exc → ω → Exc
  /-- What leaves `loop.async_cleanup`, if anything: under trio its own
      cancellation ends there. -/
  cleanupExit : Exc → ω → Option Exc
  /-- `timeout.expired()`. -/
  expired : ω → Bool
  /-- Whether the scope was cut short by a disconnect before its deadline. -/
  disconnectedFirst : ω → Bool
  /-- The app server's `send`, within the timeout scope or after it. -/
  send : Bool → Message → ω → SendOutcome × ω
  /-- A start that was cut short was not taken. -/
  send_start_cut : ∀ inScope m w origin taken, (send inScope m w).1 = .cut origin taken →
    m.isStart = true → taken = false
  /-- After the timeout scope it cuts nothing short. -/
  send_after_scope : ∀ m w taken, (send false m w).1 ≠ .cut .scope taken
  /-- `str.encode`, which fails on a text that is not Unicode. -/
  encodeText : String → Except Exc Bytes

/-! ## The state of a request -/

/-- One call of `on_end` that came to an end, within the timeout scope or after it. -/
structure EndCall (ι τ : Type) where
  inScope     : Bool
  interceptor : ι
  token       : τ
  error       : Option Exc
  outcome     : Except Exc Unit

/-- It was cancelled, or raised something else that is no exception. -/
def EndCall.interrupted {ι τ : Type} (call : EndCall ι τ) : Bool :=
  match call.outcome with
  | .ok _ => false
  | .error e => !e.isException

inductive Event (ι τ : Type) where
  | hookStarted (interceptor : ι) (token : τ)
  | hookEnded (call : EndCall ι τ)
  | sending (m : Message)
  | taken (m : Message)
  | sendRaised
  | sendCut (m : Message) (origin : CancelOrigin)
  /-- Headers, an end message or an error body could not be built. -/
  | buildRaised

namespace Event

variable {ι τ : Type}

def isHook : Event ι τ → Bool
  | .hookStarted _ _ => true
  | .hookEnded _ => true
  | _ => false

def isSending : Event ι τ → Bool
  | .sending _ => true
  | _ => false

/-- The events of a send, which also say what became of it. -/
def isOfSend : Event ι τ → Bool
  | .sending _ => true
  | .taken _ => true
  | .sendRaised => true
  | .sendCut _ _ => true
  | _ => false

def isRaised : Event ι τ → Bool
  | .sendRaised => true
  | _ => false

/-- What may keep the response from becoming whole: a send that raised, or was cut
    short by anyone but the request's own scope, or of a final message; an `on_end`
    that was interrupted after the scope; a part that could not be built. -/
def isTrouble : Event ι τ → Bool
  | .sendRaised => true
  | .sendCut m origin => origin != .scope || m.isFinal
  | .hookEnded call => !call.inScope && call.interrupted
  | .buildRaised => true
  | _ => false

/-- The send of a message that has to come after `on_end`: of a response that is
    streamed the final ones, of any other response all. -/
def isLate (streaming : Bool) : Event ι τ → Bool
  | .sending m => !streaming || m.isFinal
  | _ => false

def taken? : Event ι τ → Option Message
  | .taken m => some m
  | _ => none

def started? : Event ι τ → Option (ι × τ)
  | .hookStarted i token => some (i, token)
  | _ => none

def ended? : Event ι τ → Option (EndCall ι τ)
  | .hookEnded call => some call
  | _ => none

end Event

/-- What the invariants speak about: the trace so far, the fields of
    `_ResponseSender`, and `_started` of the interceptor run, the last one first. -/
structure Core (ι τ : Type) where
  trace   : List (Event ι τ)
  started : Bool
  failed  : Bool
  hooks   : List (ι × τ)

namespace Core

variable {ι τ : Type}

/-- The messages the server took. -/
def messages (c : Core ι τ) : List Message := c.trace.filterMap Event.taken?

/-- The calls of `on_start` that returned, in their order. -/
def starts (c : Core ι τ) : List (ι × τ) := c.trace.filterMap Event.started?

/-- The calls of `on_end`, in their order. -/
def ends (c : Core ι τ) : List (EndCall ι τ) := c.trace.filterMap Event.ended?

/-- More events. -/
def log (c : Core ι τ) (events : List (Event ι τ)) : Core ι τ :=
  { c with trace := c.trace ++ events }

/-- Something kept the response from becoming whole. -/
def Troubled (c : Core ι τ) : Prop := ∃ x ∈ c.trace, x.isTrouble = true

@[simp] theorem messages_log (c : Core ι τ) (events : List (Event ι τ)) :
    (c.log events).messages = c.messages ++ events.filterMap Event.taken? :=
  List.filterMap_append

@[simp] theorem starts_log (c : Core ι τ) (events : List (Event ι τ)) :
    (c.log events).starts = c.starts ++ events.filterMap Event.started? :=
  List.filterMap_append

@[simp] theorem ends_log (c : Core ι τ) (events : List (Event ι τ)) :
    (c.log events).ends = c.ends ++ events.filterMap Event.ended? :=
  List.filterMap_append

end Core

/-- The state of `_handle_request`: the environment, the locals that outlive an
    exception, and what the invariants speak about. -/
structure Run (ω ι τ α : Type) extends Core ι τ where
  world         : ω
  error         : Option Exc
  cancelled     : Bool
  responded     : Bool
  /-- `stream.request_stream` is set. -/
  requestStream : Bool
  /-- What `_yield_single_response` has still to yield. -/
  response      : Option α

variable {p : Platform} {ω ι τ α β : Type}

/-- Run a part of the environment. -/
def await (x : Prog ω Exc β) : Prog (Run ω ι τ α) Exc β :=
  Prog.zoom Run.world (fun w s => { s with world := w }) x

/-- The environment changes nothing that the invariants speak about. -/
theorem spec_await_raise (P : Core ι τ → Prop) {A : Exc → Prop} {x : Prog ω Exc β}
    (hx : ∀ w e, (x w).1 = .raise e → A e) :
    Spec (fun s : Run ω ι τ α => P s.toCore) (await x)
      ⟨fun _ s => P s.toCore, fun e s => A e ∧ P s.toCore, fun s => P s.toCore⟩ :=
  Spec.zoom (fun _ _ h => h) hx

theorem spec_await (P : Core ι τ → Prop) (x : Prog ω Exc β) :
    Spec (fun s : Run ω ι τ α => P s.toCore) (await x)
      ⟨fun _ s => P s.toCore, fun _ s => P s.toCore, fun s => P s.toCore⟩ :=
  (spec_await_raise P (A := fun _ => True) fun _ _ _ => trivial).weaken
    (fun _ h => h) (fun _ _ h => h) (fun _ _ h => h.2) (fun _ h => h)

/-! ## `_ResponseSender` -/

/-- The event of a message that was taken in spite of all. -/
def takenEvents (taken : Bool) (m : Message) : List (Event ι τ) :=
  if taken then [.taken m] else []

/-- `_ResponseSender.__call__`. -/
def send (env : Env p ω ι τ α) (inScope : Bool) (m : Message) :
    Prog (Run ω ι τ α) Exc Unit := fun s =>
  let r := env.send inScope m s.world
  let s := { s with world := r.2 }
  match r.1 with
  | .sent =>
      (.ret (), { s with
        toCore := { s.toCore.log [.sending m, .taken m] with started := s.started || m.isStart } })
  | .raised e _ taken =>
      (.raise e, { s with
        toCore := { s.toCore.log (.sending m :: takenEvents taken m ++ [.sendRaised]) with
          failed := true } })
  | .cut origin taken =>
      (.raise (.cancelled origin), { s with
        toCore := s.toCore.log (.sending m :: takenEvents taken m ++ [.sendCut m origin]) })
  | .pending taken =>
      (.stuck, { s with toCore := s.toCore.log (.sending m :: takenEvents taken m) })

/-- Use a part of the response that was built, or raise its error. -/
def build (r : Except Exc β) : Prog (Run ω ι τ α) Exc β :=
  match r with
  | .ok a => pure a
  | .error e => do
      Prog.modify fun s => { s with toCore := s.toCore.log [.buildRaised] }
      Prog.raise e

/-- What one send can do. -/
inductive Sent (inScope : Bool) (m : Message) (c : Core ι τ) :
    Outcome Exc Unit → Core ι τ → Prop where
  | sent : Sent inScope m c (.ret ())
      { c.log [.sending m, .taken m] with started := c.started || m.isStart }
  | raised {e : Exc} (he : e.isException = true) (taken : Bool) : Sent inScope m c (.raise e)
      { c.log (.sending m :: takenEvents taken m ++ [.sendRaised]) with failed := true }
  | cut {origin : CancelOrigin} {taken : Bool} (h : m.isStart = true → taken = false)
      (hscope : inScope = false → origin ≠ .scope) :
      Sent inScope m c (.raise (.cancelled origin))
        (c.log (.sending m :: takenEvents taken m ++ [.sendCut m origin]))
  | pending (taken : Bool) :
      Sent inScope m c .stuck (c.log (.sending m :: takenEvents taken m))

theorem send_sent (env : Env p ω ι τ α) (inScope : Bool) (m : Message) (s : Run ω ι τ α) :
    Sent inScope m s.toCore (send env inScope m s).1 (send env inScope m s).2.toCore := by
  rw [send]
  dsimp only
  cases hr : (env.send inScope m s.world).1 with
  | sent => exact .sent
  | raised e he taken => exact .raised he taken
  | cut origin taken =>
      refine .cut (env.send_start_cut inScope m s.world origin taken hr) ?_
      rintro rfl rfl
      exact env.send_after_scope m s.world taken hr
  | pending taken => exact .pending taken

/-- No send comes after one that raised, and none that raised went unnoticed. -/
structure Quiet (c : Core ι τ) : Prop where
  order : c.trace.Pairwise fun x y => x.isRaised = true → y.isSending = false
  calm  : c.failed = false → ∀ x ∈ c.trace, x.isRaised = false

@[simp] theorem filterMap_takenEvents (taken : Bool) (m : Message) :
    (takenEvents taken m : List (Event ι τ)).filterMap Event.taken?
      = if taken then [m] else [] := by
  cases taken <;> rfl

/-- The messages after a send: none more, or this one more. -/
theorem Sent.messages {inScope : Bool} {m : Message} {c c' : Core ι τ} {o : Outcome Exc Unit}
    (h : Sent inScope m c o c') : c'.messages = c.messages ∨ c'.messages = c.messages ++ [m] := by
  have htaken : ∀ (taken : Bool) (l : List (Event ι τ)), l.filterMap Event.taken? = [] →
      (c.log (.sending m :: takenEvents taken m ++ l)).messages = c.messages
        ∨ (c.log (.sending m :: takenEvents taken m ++ l)).messages = c.messages ++ [m] := by
    intro taken l hl
    rw [Core.messages_log, List.filterMap_append, hl, List.append_nil,
      List.filterMap_cons_none (by rfl), filterMap_takenEvents]
    cases taken with
    | false => exact Or.inl (List.append_nil _)
    | true => exact Or.inr rfl
  cases h with
  | sent => exact Or.inr (Core.messages_log c _)
  | raised he taken => exact htaken taken [.sendRaised] rfl
  | cut h hscope => exact htaken _ [.sendCut m _] rfl
  | pending taken =>
      have h := htaken taken [] rfl
      rw [List.append_nil] at h
      exact h

/-- A send keeps the order of things as long as none has failed. -/
theorem Sent.quiet {inScope : Bool} {m : Message} {c c' : Core ι τ} {o : Outcome Exc Unit}
    (h : Sent inScope m c o c') (hq : Quiet c) (hf : c.failed = false) : Quiet c' := by
  -- Nothing had raised before this send, so only its own events count.
  have hcalm := hq.calm hf
  have horder : ∀ l : List (Event ι τ),
      l.Pairwise (fun x y => x.isRaised = true → y.isSending = false) →
      (c.trace ++ l).Pairwise fun x y => x.isRaised = true → y.isSending = false := by
    intro l hl
    refine List.pairwise_append.mpr ⟨hq.order, hl, ?_⟩
    intro x hx y _ hr
    rw [hcalm x hx] at hr
    exact nomatch hr
  have hquiet : ∀ l : List (Event ι τ), (∀ x ∈ l, x.isRaised = false) → Quiet (c.log l) := by
    intro l hl
    refine ⟨horder l (List.pairwise_of_forall_mem_list ?_), ?_⟩
    · intro x hx y _ hr
      rw [hl x hx] at hr
      exact nomatch hr
    · intro _ x hx
      exact (List.mem_append.mp hx).elim (hcalm x) (hl x)
  have htaken : ∀ (taken : Bool), ∀ x ∈ (takenEvents taken m : List (Event ι τ)),
      x.isRaised = false := by
    intro taken x hx
    cases taken with
    | false => exact nomatch hx
    | true =>
        obtain rfl := List.mem_singleton.mp hx
        rfl
  cases h with
  | sent =>
      have h := hquiet [.sending m, .taken m] (by simp [Event.isRaised])
      exact ⟨h.order, h.calm⟩
  | raised he taken =>
      -- The send that raised: its events are in order, and it leaves `failed` set.
      refine ⟨horder _ ?_, nofun⟩
      cases taken <;> simp [takenEvents, Event.isRaised]
  | cut h hscope =>
      refine hquiet _ ?_
      intro x hx
      rcases List.mem_cons.mp hx with rfl | hx
      · rfl
      · rcases List.mem_append.mp hx with hx | hx
        · exact htaken _ x hx
        · obtain rfl := List.mem_singleton.mp hx
          rfl
  | pending taken =>
      refine hquiet _ ?_
      intro x hx
      rcases List.mem_cons.mp hx with rfl | hx
      · rfl
      · exact htaken _ x hx

/-- A send of a final message, or after the timeout scope, that raised leaves its
    mark. -/
theorem Sent.troubled {inScope : Bool} {m : Message} {c c' : Core ι τ} {e : Exc}
    (h : Sent inScope m c (.raise e) c') (hm : inScope = false ∨ m.isFinal = true) :
    c'.Troubled := by
  cases h with
  | raised he taken => exact ⟨.sendRaised, by simp [Core.log], rfl⟩
  | @cut origin taken h hscope =>
      refine ⟨.sendCut m origin, by simp [Core.log], ?_⟩
      rw [Event.isTrouble, Bool.or_eq_true, bne_iff_ne]
      exact hm.imp hscope id

/-! ## A response in progress -/

/-- Nothing more than the beginning of a response was taken. -/
structure Over (c : Core ι τ) : Prop where
  quiet : Quiet c
  fits  : Fits c.messages

/-- No message was taken, and nothing is in the way of the first one. -/
structure Idle (c : Core ι τ) : Prop where
  quiet    : Quiet c
  messages : c.messages = []
  started  : c.started = false
  failed   : c.failed = false

/-- The response has begun and can go on. -/
structure Streaming (trailers : Bool) (c : Core ι τ) : Prop where
  quiet    : Quiet c
  messages : ∃ status headers bodies, c.messages = opening status headers trailers bodies
  started  : c.started = true
  failed   : c.failed = false

/-- The last body message was taken. -/
structure Closing (trailers : Bool) (c : Core ι τ) : Prop where
  quiet    : Quiet c
  messages : ∃ status headers bodies last,
    c.messages = opening status headers trailers bodies ++ [.body last false]
  started  : c.started = true
  failed   : c.failed = false

/-- The response is whole. -/
structure Complete (c : Core ι τ) : Prop where
  quiet    : Quiet c
  response : IsResponse c.messages
  started  : c.started = true

/-- After a failed send: nothing may be sent any more. -/
structure Failed (c : Core ι τ) : Prop extends Over c where
  failed   : c.failed = true
  troubled : c.Troubled

/-- A send was in vain, and the response cannot be replaced by another. -/
structure Spent (c : Core ι τ) : Prop extends Over c where
  blocked  : c.started = true ∨ c.failed = true
  troubled : c.Troubled

theorem Failed.spent {c : Core ι τ} (h : Failed c) : Spent c :=
  ⟨h.toOver, Or.inr h.failed, h.troubled⟩

theorem Idle.over {c : Core ι τ} (h : Idle c) : Over c :=
  ⟨h.quiet, by rw [h.messages]; exact fits_nil⟩

theorem Streaming.over {trailers : Bool} {c : Core ι τ} (h : Streaming trailers c) : Over c := by
  obtain ⟨status, headers, bodies, hm⟩ := h.messages
  exact ⟨h.quiet, by rw [hm]; exact fits_opening status headers trailers bodies⟩

theorem Closing.over {trailers : Bool} {c : Core ι τ} (h : Closing trailers c) : Over c := by
  obtain ⟨status, headers, bodies, last, hm⟩ := h.messages
  exact ⟨h.quiet, by rw [hm]; exact fits_last status headers trailers bodies last⟩

theorem Complete.over {c : Core ι τ} (h : Complete c) : Over c :=
  ⟨h.quiet, fits_response h.response⟩

/-- Without trailers the last body message completes the response. -/
theorem Closing.complete {c : Core ι τ} (h : Closing false c) : Complete c := by
  obtain ⟨status, headers, bodies, last, hm⟩ := h.messages
  exact ⟨h.quiet, by rw [hm]; exact .plain status headers bodies last, h.started⟩

/-- Whatever became of a send, the messages fit if they fit with and without it. -/
theorem Sent.over {inScope : Bool} {m : Message} {c c' : Core ι τ} {o : Outcome Exc Unit}
    (h : Sent inScope m c o c') (hc : Over c) (hf : c.failed = false)
    (hm : Fits (c.messages ++ [m])) : Over c' := by
  refine ⟨h.quiet hc.quiet hf, ?_⟩
  rcases h.messages with heq | heq
  · rw [heq]
    exact hc.fits
  · rw [heq]
    exact hm

/-- A message that the server takes is one message more. -/
theorem Sent.ret {inScope : Bool} {m : Message} {c c' : Core ι τ}
    (h : Sent inScope m c (.ret ()) c')
    (hf : c.failed = false) : c'.messages = c.messages ++ [m]
      ∧ c'.started = (c.started || m.isStart) ∧ c'.failed = false := by
  cases h with
  | sent => exact ⟨Core.messages_log c _, rfl, hf⟩

/-- A send that raised has failed, or was cut short. -/
theorem Sent.raise {inScope : Bool} {m : Message} {c c' : Core ι τ} {e : Exc}
    (h : Sent inScope m c (.raise e) c') (hf : c.failed = false) :
    (c'.failed = true ∧ c'.Troubled) ∨ (c'.failed = false ∧ c'.started = c.started
      ∧ (m.isStart = true → c'.messages = c.messages)) := by
  cases h with
  | raised he taken => exact Or.inl ⟨rfl, .sendRaised, by simp [Core.log], rfl⟩
  | @cut origin taken h hscope =>
      refine Or.inr ⟨hf, rfl, ?_⟩
      intro hm
      rw [h hm, Core.messages_log]
      exact List.append_nil _

/-- **The start.**  Cut short it was not taken, so it may be sent again. -/
theorem Idle.start {inScope : Bool} {status : Nat} {headers : List (Bytes × Bytes)}
    {trailers : Bool} {c c' : Core ι τ} {o : Outcome Exc Unit} (h : Idle c)
    (hs : Sent inScope (.start status headers trailers) c o c') :
    (Post.mk (fun _ => Streaming trailers)
      (fun _ c => (Idle c ∧ (inScope = false → c.Troubled)) ∨ Failed c)
      Over : Post (Core ι τ) Exc Unit).at o c' := by
  have hquiet := hs.quiet h.quiet h.failed
  have hover : Over c' := by
    refine hs.over h.over h.failed ?_
    rw [h.messages]
    exact fits_opening status headers trailers []
  cases o with
  | ret a =>
      obtain ⟨hm, hstarted, hfailed⟩ := hs.ret h.failed
      refine ⟨hquiet, ⟨status, headers, [], ?_⟩, ?_, hfailed⟩
      · rw [hm, h.messages]
        rfl
      · rw [hstarted, h.started]
        rfl
  | raise e =>
      rcases hs.raise h.failed with ⟨hfailed, ht⟩ | ⟨hfailed, hstarted, hm⟩
      · exact Or.inr ⟨hover, hfailed, ht⟩
      · exact Or.inl ⟨⟨hquiet, (hm rfl).trans h.messages, hstarted.trans h.started, hfailed⟩,
          fun hscope => hs.troubled (Or.inl hscope)⟩
  | stuck => exact hover

/-- **A body message with more to come.**  Cut short, others may follow it. -/
theorem Streaming.body {inScope trailers : Bool} {b : Bytes} {c c' : Core ι τ}
    {o : Outcome Exc Unit} (h : Streaming trailers c) (hs : Sent inScope (.body b true) c o c') :
    (Post.mk (fun _ => Streaming trailers) (fun _ c => Streaming trailers c ∨ Failed c)
      Over : Post (Core ι τ) Exc Unit).at o c' := by
  obtain ⟨status, headers, bodies, hc⟩ := h.messages
  have hquiet := hs.quiet h.quiet h.failed
  have hmore : c.messages ++ [.body b true]
      = opening status headers trailers (bodies ++ [b]) := by
    rw [hc, opening_append]
  have hmessages : ∃ status headers bodies,
      c'.messages = opening status headers trailers bodies := by
    rcases hs.messages with heq | heq
    · exact ⟨status, headers, bodies, heq.trans hc⟩
    · exact ⟨status, headers, bodies ++ [b], heq.trans hmore⟩
  have hover : Over c' := by
    refine hs.over h.over h.failed ?_
    rw [hmore]
    exact fits_opening status headers trailers _
  cases o with
  | ret a =>
      obtain ⟨hm, hstarted, hfailed⟩ := hs.ret h.failed
      refine ⟨hquiet, hmessages, ?_, hfailed⟩
      rw [hstarted, h.started]
      rfl
  | raise e =>
      rcases hs.raise h.failed with ⟨hfailed, ht⟩ | ⟨hfailed, hstarted, -⟩
      · exact Or.inr ⟨hover, hfailed, ht⟩
      · exact Or.inl ⟨hquiet, hmessages, hstarted.trans h.started, hfailed⟩
  | stuck => exact hover

/-- **The last body message.** -/
theorem Streaming.last {inScope trailers : Bool} {b : Bytes} {c c' : Core ι τ}
    {o : Outcome Exc Unit} (h : Streaming trailers c) (hs : Sent inScope (.body b false) c o c') :
    (Post.mk (fun _ => Closing trailers) (fun _ => Spent) Over :
      Post (Core ι τ) Exc Unit).at o c' := by
  obtain ⟨status, headers, bodies, hc⟩ := h.messages
  have hquiet := hs.quiet h.quiet h.failed
  have hover : Over c' := by
    refine hs.over h.over h.failed ?_
    rw [hc]
    exact fits_last status headers trailers bodies b
  cases o with
  | ret a =>
      obtain ⟨hm, hstarted, hfailed⟩ := hs.ret h.failed
      refine ⟨hquiet, ⟨status, headers, bodies, b, by rw [hm, hc]⟩, ?_, hfailed⟩
      rw [hstarted, h.started]
      rfl
  | raise e =>
      refine ⟨hover, ?_, hs.troubled (Or.inr rfl)⟩
      rcases hs.raise h.failed with ⟨hfailed, -⟩ | ⟨-, hstarted, -⟩
      · exact Or.inr hfailed
      · exact Or.inl (hstarted.trans h.started)
  | stuck => exact hover

/-- **The trailers.** -/
theorem Closing.trailers {inScope : Bool} {ts : List (Bytes × Bytes)} {c c' : Core ι τ}
    {o : Outcome Exc Unit} (h : Closing true c) (hs : Sent inScope (.trailers ts) c o c') :
    (Post.mk (fun _ => Complete) (fun _ c => Over c ∧ c.Troubled) Over :
      Post (Core ι τ) Exc Unit).at o c' := by
  obtain ⟨status, headers, bodies, last, hc⟩ := h.messages
  have hfull : IsResponse (c.messages ++ [.trailers ts]) := by
    rw [hc]
    exact .withTrailers status headers bodies last ts
  have hover := hs.over h.over h.failed (fits_response hfull)
  cases o with
  | ret a =>
      obtain ⟨hm, hstarted, -⟩ := hs.ret h.failed
      refine ⟨hs.quiet h.quiet h.failed, by rw [hm]; exact hfull, ?_⟩
      rw [hstarted, h.started]
      rfl
  | raise e => exact ⟨hover, hs.troubled (Or.inr rfl)⟩
  | stuck => exact hover

/-- **Sending**, for what is known of the response and something that no send can
    change. -/
theorem spec_send {env : Env p ω ι τ α} {inScope : Bool} {m : Message} {K X : Core ι τ → Prop}
    {Q : Post (Core ι τ) Exc Unit} (hK : ∀ c o c', K c → Sent inScope m c o c' → K c')
    (hX : ∀ c o c', X c → Sent inScope m c o c' → Q.at o c') :
    Spec (fun s : Run ω ι τ α => K s.toCore ∧ X s.toCore) (send env inScope m)
      ⟨fun a s => K s.toCore ∧ Q.ret a s.toCore, fun e s => K s.toCore ∧ Q.raise e s.toCore,
        fun s => Q.stuck s.toCore⟩ := by
  rintro s ⟨hKs, hXs⟩
  have hs := send_sent env inScope m s
  have hk := hK _ _ _ hKs hs
  have hq := hX _ _ _ hXs hs
  cases ho : (send env inScope m s).1 with
  | ret a =>
      rw [ho] at hq
      exact ⟨hk, hq⟩
  | raise e =>
      rw [ho] at hq
      exact ⟨hk, hq⟩
  | stuck =>
      rw [ho] at hq
      exact hq

end ConnectAsgi
