import ConnectPy.AsgiReplyProofs
import ConnectPy.WsgiWorldProofs

/-! # The reply of the WSGI server

    The same for the WSGI server: what it comes to when only the handler decides how
    the request ends, and the app server takes the response to its end.  Here the
    status and the headers go through `start_response`, trailers through
    `send_trailers`, and the body is what the iterable of the response gives; `Heard`
    keeps the calls.

    The two servers differ in when they ask the handler for its first message, and in
    what becomes of an error before it; the reply is the same
    (`handleRequest_answers`). -/

namespace ConnectWsgiReply

open Utf8 (Bytes)
open Effect
open ConnectErrors ConnectPlatform ConnectHeaders ConnectWireErrors ConnectWriter
open ConnectTrailersWire ConnectReply ConnectWsgi
open ConnectAsgi (Ctx StreamResponse Plan)
open ConnectAsgiReply (Phase Single Fair feedPhase feedResponse writeAll_bodies)

variable {p : Platform} {ω ι τ α β : Type}

/-! ## An app server that listens -/

/-- What an app server was told: the calls of `start_response` and of `send_trailers`. -/
structure Heard where
  starts   : List (Nat × List (String × String))
  trailers : List (List (String × String))

/-- Nothing yet. -/
def Heard.nothing : Heard := ⟨[], []⟩

def Heard.start (heard : Heard) (status : Nat) (headers : List (String × String)) : Heard :=
  { heard with starts := heard.starts ++ [(status, headers)] }

def Heard.sendTrailers (heard : Heard) (trailers : List (String × String)) : Heard :=
  { heard with trailers := heard.trailers ++ [trailers] }

/-- What is heard of a stream in the end. -/
def Heard.ending (heard : Heard) : Bytes ⊕ Headers p → Heard
  | .inl _ => heard
  | .inr trailers => heard.sendTrailers trailers.allitems

/-- The last chunk of a stream. -/
def lastChunk : Bytes ⊕ Headers p → Bytes
  | .inl data => data
  | .inr _ => []

/-- The app server got a reply: one call of `start_response`, the chunks of the body,
    and the trailers. -/
structure Answers (heard : Heard) (chunks : List Bytes) (reply : Reply) : Prop where
  start    : heard.starts = [(reply.status, reply.headers)]
  body     : chunks.flatten = reply.body
  trailers : heard.trailers.flatten = reply.trailers

/-- What a stream without further messages does. -/
inductive Finish : Option Exc → Resumed α → Prop where
  | returned : Finish none .returned
  | raised {e : Exc} (he : e.isException = true) (same : Bool) : Finish (some e) (.raised e same)

/-- Nothing goes wrong around the handler, which leaves these response headers and
    trailers: every hook returns, and the app server takes the headers. -/
structure Quiet (app : App p ω ι τ α) (ctx : Ctx p) (At : Phase α → Heard → ω → Prop) : Prop where
  onStart       : ∀ i heard w, At .before heard w →
    ∃ token w', app.onStart i w = (.ret token, w') ∧ At .before heard w'
  onEnd         : ∀ i token e heard w, At .done heard w →
    ∃ w', app.onEnd i token e w = (.ret (), w') ∧ At .done heard w'
  startResponse : ∀ φ status headers heard w, At φ heard w →
    ∃ w', app.startResponse status headers w = (.ret (), w') ∧ At φ (heard.start status headers) w'
  drain         : ∀ heard w, At .done heard w →
    ∃ w', app.drainRequestBody w = (.ret (), w') ∧ At .done heard w'
  writeError    : ∀ e heard w, At .done heard w →
    ∃ w', app.writeError e w = (.ret (), w') ∧ At .done heard w'
  settled       : ∀ heard w, At .done heard w → app.ctx w = ctx

/-- The handler gives these messages and ends with this error, or without one. -/
structure Plays (app : App p ω ι τ α) (st : StreamResponse α) (ctx : Ctx p) (ms : List α)
    (error : Option Exc) (At : Phase α → Heard → ω → Prop) : Prop extends Quiet app ctx At where
  callSingle   : st.endpoint.returnsOne = true → ∀ heard w, At .before heard w →
    Single ms error (app.callSingle w).1 ∧ At .done heard (app.callSingle w).2
  openStream   : st.endpoint.returnsOne = false → ∀ heard w, At .before heard w →
    ∃ w', app.openStream w = (.ret (), w') ∧ At (.suspended false ms) heard w'
  next         : ∀ begun m rest heard w, At (.suspended begun (m :: rest)) heard w →
    ∃ w', app.responses.resume none w = (.yielded m, w') ∧ At (.suspended true rest) heard w'
  finish       : ∀ begun heard w, At (.suspended begun []) heard w →
    Finish error (app.responses.resume none w).1 ∧ At .done heard (app.responses.resume none w).2
  close        : ∀ heard w, At .done heard w →
    ∃ w', app.responses.close w = (.ret (), w') ∧ At .done heard w'
  isSome       : ∀ m ∈ ms, app.isNone m = false
  sendTrailers : ∀ trailers heard w, At .done heard w →
    ∃ w', app.sendTrailers trailers w = (.ret (), w') ∧ At .done (heard.sendTrailers trailers) w'
  headers      : ∀ rest heard w, At (.suspended true rest) heard w →
    (app.ctx w).responseHeaders = ctx.responseHeaders

/-! ## How far the response is -/

/-- The environment is somewhere in `W`, the handler's generator is open or not, and
    these chunks were taken. -/
structure Stage (W : ω → Prop) (streamOpen : Bool) (chunks : List Bytes) (error : Option Exc)
    (response : Option α) (s : Run ω ι τ α) : Prop where
  world      : W s.world
  streamOpen : s.streamOpen = streamOpen
  chunks     : s.chunks = chunks
  error      : s.error = error
  response   : s.response = response

/-- The program ends as the handler does, in such a state. -/
def endsWith (error : Option Exc) (R : Run ω ι τ α → Prop) : Post (Run ω ι τ α) Exc Unit :=
  ⟨fun _ s => error = none ∧ R s,
    fun e s => e.isException = true ∧ error = some e ∧ R s, fun _ => False⟩

section Steps

variable {W V : ω → Prop} {streamOpen : Bool} {chunks : List Bytes} {error : Option Exc}
  {response : Option α}

/-- Only the world moves. -/
theorem Stage.move {s : Run ω ι τ α} (h : Stage W streamOpen chunks error response s)
    {w : ω} (hw : V w) : Stage V streamOpen chunks error response { s with world := w } :=
  ⟨hw, h.streamOpen, h.chunks, h.error, h.response⟩

/-- A part of the environment that returns. -/
theorem spec_await_ret {x : Prog ω Exc β} {R : β → Prop}
    (hx : ∀ w, W w → ∃ a w', x w = (.ret a, w') ∧ V w' ∧ R a) :
    Spec (Stage W streamOpen chunks error response) (await x : Prog (Run ω ι τ α) Exc β)
      (.returns fun a s => R a ∧ Stage V streamOpen chunks error response s) := by
  intro s hs
  obtain ⟨a, w', hxw, hw', ha⟩ := hx s.world hs.world
  show (Post.returns _).at (x s.world).1 { s with world := (x s.world).2 }
  rw [hxw]
  exact ⟨ha, hs.move hw'⟩

theorem spec_await_unit {x : Prog ω Exc Unit}
    (hx : ∀ w, W w → ∃ w', x w = (.ret (), w') ∧ V w') :
    Spec (Stage W streamOpen chunks error response) (await x : Prog (Run ω ι τ α) Exc Unit)
      (.returns fun _ s => Stage V streamOpen chunks error response s) := by
  refine (spec_await_ret (R := fun _ => True) ?_).weaken (fun _ h => h) (fun _ _ h => h.2)
    (fun _ _ h => h) fun _ h => h
  intro w hw
  obtain ⟨w', hxw, hw'⟩ := hx w hw
  exact ⟨(), w', hxw, hw', trivial⟩

end Steps

/-! ## What every request does -/

section Around

variable {app : App p ω ι τ α} {ctx : Ctx p} {At : Phase α → Heard → ω → Prop}
  (h : Quiet app ctx At)

include h

theorem spec_startRun (heard : Heard) :
    Spec (Stage (At .before heard) false [] none none) (startRun app)
      (.returns fun _ s => Stage (At .before heard) false [] none none s) := by
  rw [startRun]
  induction app.interceptors with
  | nil => exact Spec.pure fun _ hs => hs
  | cons i is ih =>
      refine Spec.bind _ (spec_await_ret (R := fun _ => True) (V := At .before heard) ?_)
        fun token => ?_
      · intro w hw
        obtain ⟨token, w', hx, hw'⟩ := h.onStart i heard w hw
        exact ⟨token, w', hx, hw', trivial⟩
      · exact Spec.bind _ (Spec.modify fun s hs =>
          ⟨hs.2.world, hs.2.streamOpen, hs.2.chunks, hs.2.error, hs.2.response⟩) fun _ => ih

variable {streamOpen : Bool} {chunks : List Bytes} {error : Option Exc} {response : Option α}
  {heard : Heard}

/-- Hooks that return leave the error as it is. -/
theorem spec_endLoop (stack : List (ι × τ)) (e : Option Exc) :
    Spec (Stage (At .done heard) streamOpen chunks error response) (endLoop app stack e)
      (.returns fun r s => r = e ∧ Stage (At .done heard) streamOpen chunks error response s) := by
  induction stack with
  | nil => exact Spec.pure fun _ hs => ⟨rfl, hs⟩
  | cons hook stack ih =>
      obtain ⟨i, token⟩ := hook
      refine Spec.bind (fun _ => Stage (At .done heard) streamOpen chunks error response)
        (Spec.modify fun s hs => ⟨hs.world, hs.streamOpen, hs.chunks, hs.error, hs.response⟩)
        fun _ => ?_
      refine Spec.bind (fun r s => r = .ok ()
        ∧ Stage (At .done heard) streamOpen chunks error response s) (Spec.attempt ?_) fun r =>
          Spec.assume fun hr => ?_
      · exact (spec_await_unit (h.onEnd i token e heard)).weaken (fun _ hs => hs)
          (fun _ _ hs => ⟨rfl, hs⟩) (fun _ _ hs => hs.elim) fun _ hs => hs
      · subst hr
        exact ih

theorem spec_endRun (e : Option Exc) :
    Spec (Stage (At .done heard) streamOpen chunks error response) (endRun app e)
      (.returns fun r s => r = e ∧ Stage (At .done heard) streamOpen chunks error response s) := by
  refine Spec.get fun t => ?_
  by_cases hended : t.ended = true
  · rw [if_pos hended]
    exact Spec.pure fun _ hs => ⟨rfl, hs.2⟩
  · rw [if_neg hended]
    refine Spec.bind _ (Spec.modify fun s hs => ?_) fun _ => spec_endLoop h t.started.reverse e
    exact ⟨hs.2.world, hs.2.streamOpen, hs.2.chunks, hs.2.error, hs.2.response⟩

/-- `start_response`. -/
theorem spec_startResponse (status : Nat) (headers : List (String × String)) {φ : Phase α} :
    Spec (Stage (At φ heard) streamOpen chunks error response) (startResponse app status headers)
      (.returns fun _ s =>
        Stage (At φ (heard.start status headers)) streamOpen chunks error response s) :=
  spec_await_unit (h.startResponse φ status headers heard)

/-- `_maybe_log_exception`. -/
theorem spec_maybeLogException (e : Exc) :
    Spec (Stage (At .done heard) streamOpen chunks error response) (maybeLogException app e)
      (.returns fun _ s => Stage (At .done heard) streamOpen chunks error response s) := by
  rw [maybeLogException]
  split
  · exact Spec.pure fun _ hs => hs
  · exact spec_await_unit (h.writeError e heard)

end Around

/-! ## Streams -/

/-- Whether the handler's stream has still to be closed after its end, as no generator
    has. -/
def unclosed (app : App p ω ι τ α) (st : StreamResponse α) : Bool :=
  !st.endpoint.returnsOne && (app.responses.kind.closes && !app.responses.kind.isGenerator)

theorem unclosed_single (app : App p ω ι τ α) {st : StreamResponse α}
    (hone : st.endpoint.returnsOne = true) : unclosed app st = false := by
  rw [unclosed, hone]
  rfl

/-- A stream that has not ended is asked for its next message. -/
theorem asked (app : App p ω ι τ α) {st : StreamResponse α} {streamOpen : Bool}
    (hone : st.endpoint.returnsOne = false)
    (h : streamOpen = (!st.endpoint.returnsOne && app.responses.kind.closes)) :
    (streamOpen || !app.responses.kind.isGenerator) = true := by
  rw [h, hone]
  cases app.responses.kind <;> simp [Kind.closes, Kind.isGenerator]

/-- When it has ended only an iterator with a `close` of its own is open. -/
theorem leave_unclosed (app : App p ω ι τ α) {st : StreamResponse α} {s : Run ω ι τ α}
    (hone : st.endpoint.returnsOne = false)
    (h : s.streamOpen = (!st.endpoint.returnsOne && app.responses.kind.closes)) :
    (leave app.responses.kind s).streamOpen = unclosed app st := by
  rw [unclosed, hone]
  rw [hone] at h
  cases hkind : app.responses.kind with
  | generator => rfl
  | iterator closes =>
      rw [hkind] at h
      exact h.trans (by simp [Kind.closes, Kind.isGenerator])

/-- Before the next message. -/
def Feeding (app : App p ω ι τ α) (st : StreamResponse α) (At : Phase α → Heard → ω → Prop)
    (resumed : Bool) (ms : List α) (heard : Heard) (chunks : List Bytes) : Run ω ι τ α → Prop :=
  Stage (At (feedPhase st resumed ms) heard)
    (!st.endpoint.returnsOne && app.responses.kind.closes) chunks none (feedResponse st ms)

section Streams

variable {app : App p ω ι τ α} {st : StreamResponse α} {ctx : Ctx p} {ms : List α}
  {outcome : Option Exc} {At : Phase α → Heard → ω → Prop} (h : Plays app st ctx ms outcome At)

include h

variable {streamOpen : Bool} {chunks : List Bytes} {error : Option Exc} {response : Option α}
  {heard : Heard}

/-! ## The headers and the end -/

theorem spec_sendHeaders {φ : Phase α}
    (hctx : ∀ w, At φ heard w → (app.ctx w).responseHeaders = ctx.responseHeaders) :
    Spec (Stage (At φ heard) streamOpen chunks error response) (sendHeaders app st)
      (.returns fun _ s => Stage (At φ (heard.start 200 (streamHeaders st.protocol st.codec.name
        st.compression.name ctx.responseHeaders))) streamOpen chunks error response s) := by
  refine Spec.get_of (A := fun t => (app.ctx t.world).responseHeaders = ctx.responseHeaders) (fun
    s hs => hctx s.world hs.world) fun t ht => ?_
  rw [ht]
  exact spec_startResponse h.toQuiet 200 _

/-- **The end of a stream.** -/
theorem spec_endResponse {kept : Option Exc} {ending : Bytes ⊕ Headers p}
    (hending : st.writerEnd ctx.responseTrailers (error.map ConnectWireError.fromException)
      = .ok ending) :
    Spec (Stage (At .done heard) streamOpen chunks kept response) (endResponse app st error)
      (.returns fun r s => r = lastChunk ending
        ∧ Stage (At .done (heard.ending ending)) streamOpen chunks kept response s) := by
  refine Spec.get_of (A := fun t => app.ctx t.world = ctx) (fun s hs => h.settled heard s.world
    hs.world) fun t ht => ?_
  rw [ht, hending]
  refine Spec.ok_bind ?_
  cases ending with
  | inl data => exact Spec.pure fun _ hs => ⟨rfl, hs⟩
  | inr trailers =>
      exact Spec.bind _ (spec_await_unit (h.sendTrailers trailers.allitems heard)) fun _ =>
        Spec.pure fun _ hs => ⟨rfl, hs⟩

/-! ## The messages of the handler -/

theorem feed_headers (rest : List α) (w : ω) (hw : At (feedPhase st true rest) heard w) :
    (app.ctx w).responseHeaders = ctx.responseHeaders := by
  rw [feedPhase] at hw
  by_cases hone : st.endpoint.returnsOne = true
  · rw [if_pos hone] at hw
    rw [h.settled heard w hw]
  · rw [if_neg hone] at hw
    exact h.headers rest heard w hw

theorem spec_nextMessage_message {resumed : Bool} {m : α} {rest : List α}
    (hfair : Fair st (m :: rest) outcome) :
    Spec (Feeding app st At resumed (m :: rest) heard chunks) (nextMessage app st)
      (.returns fun r s => r = some m ∧ Feeding app st At true rest heard chunks s) := by
  unfold Feeding feedPhase feedResponse
  refine Spec.get fun t => ?_
  by_cases hone : st.endpoint.returnsOne = true
  · have hrest : rest = [] := by
      have hlength := (hfair hone).1
      rw [List.length_cons] at hlength
      exact List.length_eq_zero_iff.mp (by omega)
    simp only [if_pos hone]
    subst hrest
    rintro s ⟨rfl, hs⟩
    exact ⟨hs.response, hs.world, hs.streamOpen, hs.chunks, hs.error, rfl⟩
  · simp only [if_neg hone]
    by_cases hopen : (t.streamOpen || !app.responses.kind.isGenerator) = true
    · rw [if_pos hopen]
      refine Spec.bind _ ((spec_await_ret (R := fun r => r = .yielded m) (V := At (.suspended true
        rest) heard) ?_).pre fun _ hs => hs.2) fun r => Spec.assume fun hr => ?_
      · intro w hw
        obtain ⟨w', hx, hw'⟩ := h.next resumed m rest heard w hw
        refine ⟨.yielded m, w', ?_, hw', rfl⟩
        rw [hx]
      · subst hr
        exact Spec.pure fun _ hs => ⟨rfl, hs⟩
    · rintro s ⟨rfl, hs⟩
      exact absurd (asked app (Bool.eq_false_iff.mpr hone) hs.streamOpen) hopen

theorem spec_nextMessage_end {resumed : Bool} (hfair : Fair st [] outcome) :
    Spec (Feeding app st At resumed [] heard chunks) (nextMessage app st)
      ⟨fun r s => r = none ∧ outcome = none
          ∧ Stage (At .done heard) (unclosed app st) chunks none none s,
        fun e s => e.isException = true ∧ outcome = some e
          ∧ Stage (At .done heard) (unclosed app st) chunks none none s,
        fun _ => False⟩ := by
  unfold Feeding feedPhase feedResponse
  refine Spec.get fun t => ?_
  by_cases hone : st.endpoint.returnsOne = true
  · simp only [if_pos hone]
    rintro s ⟨rfl, hs⟩
    have hopen := hs.streamOpen
    rw [hone] at hopen
    exact ⟨hs.response, (hfair hone).2, hs.world, hopen.trans (unclosed_single app hone).symm,
      hs.chunks, hs.error, rfl⟩
  · simp only [if_neg hone]
    have hfalse := Bool.eq_false_iff.mpr hone
    -- An iterator that has ended is left: a generator is closed by that.
    have hleave : ∀ s : Run ω ι τ α, Stage (At .done heard)
        (!st.endpoint.returnsOne && app.responses.kind.closes) chunks none none s →
        Stage (At .done heard) (unclosed app st) chunks none none
          (leave app.responses.kind s) := by
      intro s hs
      have hopen := leave_unclosed app hfalse hs.streamOpen
      cases hkind : app.responses.kind with
      | generator =>
          rw [hkind] at hopen
          exact ⟨hs.world, hopen, hs.chunks, hs.error, hs.response⟩
      | iterator closes =>
          rw [hkind] at hopen
          exact ⟨hs.world, hopen, hs.chunks, hs.error, hs.response⟩
    by_cases hopen : (t.streamOpen || !app.responses.kind.isGenerator) = true
    · rw [if_pos hopen]
      refine Spec.bind (fun r s => Finish outcome r ∧ Stage (At .done heard)
        (!st.endpoint.returnsOne && app.responses.kind.closes) chunks none none s) ?_ fun r =>
          Spec.assume fun hr => ?_
      · rintro s ⟨-, hs⟩
        obtain ⟨hfinish, hdone⟩ := h.finish resumed heard s.world hs.world
        exact ⟨hfinish, hs.move hdone⟩
      · cases hr with
        | returned =>
            exact Spec.bind (fun _ => Stage (At .done heard) (unclosed app st) chunks none none)
              (Spec.modify hleave) fun _ => Spec.pure fun _ hs => ⟨rfl, rfl, hs⟩
        | raised he same =>
            exact Spec.bind (fun _ => Stage (At .done heard) (unclosed app st) chunks none none)
              (Spec.modify hleave) fun _ => Spec.raise fun _ hs => ⟨he, rfl, hs⟩
    · rintro s ⟨rfl, hs⟩
      exact absurd (asked app hfalse hs.streamOpen) hopen

/-- **The loop** delivers all messages and ends as the handler does. -/
theorem spec_streamLoop {left : List α} {resumed : Bool} {bs : List Bytes}
    (hfair : Fair st left outcome)
    (hbs : List.Forall₂ (fun m b => st.writer.write m = .ok b) left bs) {k : Nat}
    (hk : left.length < k) :
    Spec (Feeding app st At resumed left heard chunks) (streamLoop app st k)
      (endsWith outcome (Stage (At .done heard) (unclosed app st) (chunks ++ bs) none none)) := by
  induction hbs generalizing resumed chunks k with
  | nil =>
      obtain ⟨k, rfl⟩ : ∃ j, k = j + 1 := ⟨k - 1, by simp at hk; omega⟩
      rw [List.append_nil]
      refine Spec.bind (fun r s => r = none ∧ outcome = none
        ∧ Stage (At .done heard) (unclosed app st) chunks none none s) (spec_nextMessage_end h hfair)
        fun r => Spec.assume fun hr => ?_
      subst hr
      exact Spec.pure fun _ hs => hs
  | @cons m b rest bs hb hrest ih =>
      obtain ⟨k, rfl⟩ : ∃ j, k = j + 1 := ⟨k - 1, by rw [List.length_cons] at hk; omega⟩
      have hlength : rest.length < k := by
        rw [List.length_cons] at hk
        omega
      have hloop : Spec (Feeding app st At true rest heard (chunks ++ [b])) (streamLoop app st k) _ :=
        ih hfair.tail hlength
      rw [List.append_assoc] at hloop
      refine Spec.bind _ (Spec.returns_raise (spec_nextMessage_message h hfair) _ _) fun r =>
        Spec.assume fun hr => ?_
      subst hr
      dsimp only
      rw [hb]
      refine Spec.ok_bind ?_
      refine Spec.bind (fun _ => Feeding app st At true rest heard (chunks ++ [b]))
        (Spec.modify fun s hs => ?_) fun _ => hloop
      exact ⟨hs.world, hs.streamOpen, congrArg (· ++ [b]) hs.chunks, hs.error, hs.response⟩

/-! ## Up to the response -/

/-- **Calling the handler.** -/
theorem spec_openResponses :
    Spec (Stage (At .before heard) false [] none none) (openResponses app st)
      ⟨fun _ s => Fair st ms outcome ∧ Feeding app st At false ms heard [] s,
        fun e s => e.isException = true ∧ outcome = some e ∧ ms = []
          ∧ Stage (At .done heard) (unclosed app st) [] none none s,
        fun _ => False⟩ := by
  rw [openResponses]
  by_cases hone : st.endpoint.returnsOne = true
  · rw [if_pos hone]
    refine Spec.bind (fun m s => ms = [m] ∧ outcome = none
      ∧ Stage (At .done heard) (unclosed app st) [] none none s) ?_ fun m =>
        Spec.assume fun hms => Spec.assume fun hout => ?_
    · intro s hs
      obtain ⟨hsingle, hdone⟩ := h.callSingle hone heard s.world hs.world
      show Post.at _ (app.callSingle s.world).1 { s with world := (app.callSingle s.world).2 }
      have hmove := hs.move hdone
      rw [← unclosed_single app hone] at hmove
      -- The handler returns its one message, or raises.
      generalize (app.callSingle s.world).1 = o at hsingle
      cases hsingle with
      | ret m => exact ⟨rfl, rfl, hmove⟩
      | raise he => exact ⟨he, rfl, rfl, hmove⟩
    · refine Spec.bind _ (Spec.returns_raise (spec_endRun h.toQuiet none) _ _) fun r =>
        Spec.assume fun hr => ?_
      -- The hooks are ended before the message is written.
      subst hr
      refine Spec.modify fun s hs => ?_
      refine ⟨fun _ => ⟨by rw [hms]; exact le_refl 1, hout⟩, ?_⟩
      unfold Feeding feedPhase feedResponse
      rw [if_pos hone, if_pos hone, hms, hone]
      exact ⟨hs.world, hs.streamOpen.trans (unclosed_single app hone), hs.chunks, hs.error, rfl⟩
  · rw [if_neg hone]
    have hfalse : st.endpoint.returnsOne = false := Bool.eq_false_iff.mpr hone
    refine Spec.bind _ (Spec.returns_raise (spec_await_unit (h.openStream hfalse heard)) _ _) fun _ =>
      Spec.modify fun s hs => ⟨fun hone' => absurd hone' hone, ?_⟩
    unfold Feeding feedPhase feedResponse
    rw [if_neg hone, if_neg hone, hfalse]
    exact ⟨hs.world, rfl, hs.chunks, hs.error, hs.response⟩

/-- What `__call__` returns: the end of a stream without messages, or a generator that
    starts with the first one. -/
def Called (app : App p ω ι τ α) (st : StreamResponse α) (At : Phase α → Heard → ω → Prop)
    (outcome : Option Exc) (heard : Heard) (ending : Bytes ⊕ Headers p) (ms : List α)
    (r : Response α) (s : Run ω ι τ α) : Prop :=
  match ms with
  | [] => r = .list [lastChunk ending] ∧ At .done (heard.ending ending) s.world
  | m :: rest => r = .generator st m ∧ Fair st (m :: rest) outcome
      ∧ Feeding app st At true rest heard [] s

/-- The headers of the stream were heard. -/
def started (st : StreamResponse α) (ctx : Ctx p) (heard : Heard) : Heard :=
  heard.start 200 (streamHeaders st.protocol st.codec.name st.compression.name
    ctx.responseHeaders)

/-- **`_handle_stream`**, up to a response or to the handler's error. -/
theorem spec_streamBody {ending : Bytes ⊕ Headers p}
    (hending : st.writerEnd ctx.responseTrailers (outcome.map ConnectWireError.fromException)
      = .ok ending)
    (hcompression : st.requestCompression = .ok ()) :
    Spec (Stage (At .before heard) false [] none none) (streamBody app st)
      ⟨Called app st At outcome (started st ctx heard) ending ms,
        fun e s => e.isException = true ∧ outcome = some e ∧ ms = []
          ∧ Stage (At .done heard) (unclosed app st) [] none none s,
        fun _ => False⟩ := by
  refine Spec.bind _ (Spec.returns_raise (spec_startRun h.toQuiet heard) _ _) fun _ => ?_
  rw [hcompression]
  refine Spec.ok_bind ?_
  refine Spec.bind (fun _ s => Fair st ms outcome ∧ Feeding app st At false ms heard [] s)
    (spec_openResponses h) fun _ => Spec.assume fun hfair => ?_
  cases hms : ms with
  | nil =>
      rw [hms] at hfair
      -- No message: the stream ends, or the handler raises before its first.
      refine Spec.bind (fun r s => r = none ∧ outcome = none
        ∧ Stage (At .done heard) (unclosed app st) [] none none s) ?_ fun r =>
          Spec.assume fun hr => Spec.assume fun hout => ?_
      · refine Spec.bind (fun r s => r = none ∧ outcome = none
          ∧ Stage (At .done heard) (unclosed app st) [] none none s)
          ((spec_nextMessage_end h hfair).weaken (fun _ hs => hs) (fun _ _ hs => hs)
            (fun _ _ hs => ⟨hs.1, hs.2.1, rfl, hs.2.2⟩) fun _ hs => hs) fun r =>
              Spec.assume fun hr => ?_
        subst hr
        exact Spec.pure fun _ hs => ⟨rfl, hs⟩
      · subst hr
        rw [hout] at hending
        refine Spec.bind _ (Spec.returns_raise (spec_sendHeaders h (φ := .done) fun w hw => by
          rw [h.settled heard w hw]) _ _) fun _ => ?_
        refine Spec.bind _ (Spec.returns_raise (spec_endRun h.toQuiet none) _ _) fun r =>
          Spec.assume fun hr => ?_
        subst hr
        refine Spec.bind _ (Spec.returns_raise (spec_endResponse h hending) _ _) fun r =>
          Spec.assume fun hr => ?_
        subst hr
        exact Spec.pure fun s hs => ⟨rfl, hs.world⟩
  | cons m rest =>
      rw [hms] at hfair
      have hsome : app.isNone m = false := h.isSome m (by rw [hms]; simp)
      refine Spec.bind (fun r s => r = some m ∧ Feeding app st At true rest heard [] s) ?_ fun r =>
        Spec.assume fun hr => ?_
      · refine Spec.bind _ (Spec.returns_raise (spec_nextMessage_message h hfair) _ _) fun r =>
          Spec.assume fun hr => ?_
        subst hr
        dsimp only
        rw [hsome, if_neg Bool.false_ne_true]
        exact Spec.pure fun _ hs => ⟨rfl, hs⟩
      · subst hr
        exact Spec.bind _ (Spec.returns_raise (spec_sendHeaders h (feed_headers h rest)) _ _) fun _ =>
          Spec.pure fun s hs => ⟨rfl, hfair, hs⟩

/-- **`__call__`**: an error before the first message is written where the stream ends. -/
theorem spec_call {ending : Bytes ⊕ Headers p}
    (hending : st.writerEnd ctx.responseTrailers (outcome.map ConnectWireError.fromException)
      = .ok ending)
    (hcompression : st.requestCompression = .ok ()) :
    Spec (Stage (At .before heard) false [] none none) (call app (.stream st))
      (.returns (Called app st At outcome (started st ctx heard) ending ms)) := by
  refine Spec.rescue (fun _ _ => False) (Spec.rescue (fun e s => e.isException = true
    ∧ outcome = some e ∧ ms = [] ∧ Stage (At .done heard) (unclosed app st) [] none none s)
    (spec_streamBody h hending hcompression) fun e => ?_) fun e => ?_
  · refine Spec.assume fun he => Spec.assume fun hout => Spec.assume fun hms => ?_
    rw [if_pos he]
    refine Spec.bind _ (spec_endRun h.toQuiet (some e)) fun r => Spec.assume fun hr => ?_
    subst hr
    refine Spec.bind _ (spec_await_unit (h.drain heard)) fun _ => ?_
    refine Spec.bind _ (spec_maybeLogException h.toQuiet e) fun _ => ?_
    rw [hout] at hending
    refine Spec.bind _ (spec_sendHeaders h (φ := .done) fun w hw => by
      rw [h.settled heard w hw]) fun _ => ?_
    refine Spec.bind _ (spec_endResponse h hending) fun r => Spec.assume fun hr => ?_
    subst hr
    refine Spec.pure fun s hs => ?_
    rw [hms]
    exact ⟨rfl, hs.world⟩
  · intro s hs
    exact hs.elim

/-! ## The response -/

/-- The end of the stream was delivered. -/
def Delivered (At : Phase α → Heard → ω → Prop) (heard : Heard) (bodies : List Bytes)
    (ending : Bytes ⊕ Headers p) (s : Run ω ι τ α) : Prop :=
  At .done (heard.ending ending) s.world ∧ s.chunks = bodies ++ [lastChunk ending]

omit h in
/-- A generator that is done is not touched any more. -/
theorem spec_endGenerator (e : Exc) :
    Spec (Stage (At .done heard) false chunks error response) (throwInto app e)
      (.returns fun ended s => ended = true
        ∧ Stage (At .done heard) false chunks error response s) := by
  refine Spec.get fun t => ?_
  rintro s ⟨rfl, hs⟩
  rw [hs.streamOpen, if_neg Bool.false_ne_true]
  exact ⟨rfl, hs⟩

/-- Another iterator is closed, if it can be. -/
theorem spec_closeStream (hone : st.endpoint.returnsOne = false) :
    Spec (Stage (At .done heard) (unclosed app st) chunks error response) (closeStream app)
      (.returns fun _ s => Stage (At .done heard) false chunks error response s) := by
  unfold closeStream unclosed
  rw [hone]
  cases app.responses.kind with
  | generator =>
      refine Spec.get fun t => ?_
      rintro s ⟨rfl, hs⟩
      rw [hs.streamOpen, if_neg (by simp [Kind.isGenerator])]
      exact hs
  | iterator closes =>
      cases closes with
      | false => exact Spec.pure fun _ hs => hs
      | true =>
          refine Spec.bind _ (spec_await_unit (h.close heard)) fun _ => ?_
          exact Spec.modify fun s hs => ⟨hs.world, rfl, hs.chunks, hs.error, hs.response⟩

/-- **`_end_stream`** after the end of the handler's stream. -/
theorem spec_endStream (e : Option Exc) :
    Spec (Stage (At .done heard) (unclosed app st) chunks error response) (endStream app st e)
      (.returns fun _ s => Stage (At .done heard) false chunks error response s) := by
  unfold endStream
  by_cases hone : st.endpoint.returnsOne = true
  · rw [if_pos hone, unclosed_single app hone]
    exact Spec.pure fun _ hs => hs
  · rw [if_neg hone]
    have hclose : Spec (Stage (At .done heard) (unclosed app st) chunks error response)
        (closeStream app)
        (.returns fun _ s => Stage (At .done heard) false chunks error response s) :=
      spec_closeStream h (Bool.eq_false_iff.mpr hone)
    cases hkind : app.responses.kind with
    | iterator closes =>
        cases e <;> exact hclose
    | generator =>
        cases e with
        | none => exact hclose
        | some e =>
            have hshut : unclosed app st = false := by
              rw [unclosed, hkind]
              simp [Kind.isGenerator]
            rw [hshut]
            refine Spec.bind _ (spec_endGenerator e) fun ended => Spec.assume fun hended => ?_
            subst hended
            exact Spec.pure fun _ hs => hs

/-- **`_response_stream`**, taken to its end. -/
theorem spec_responseStream {ending : Bytes ⊕ Headers p}
    (hending : st.writerEnd ctx.responseTrailers (outcome.map ConnectWireError.fromException)
      = .ok ending)
    {m : α} {rest : List α} {bs : List Bytes} (hfair : Fair st (m :: rest) outcome)
    (hbs : List.Forall₂ (fun m b => st.writer.write m = .ok b) (m :: rest) bs) {k : Nat}
    (hk : rest.length < k) :
    Spec (Feeding app st At true rest heard []) (responseStream app st m k)
      (.returns fun _ s => Delivered At heard bs ending s) := by
  cases hbs with
  | @cons _ b _ bs hb hrest =>
      rw [ConnectWsgiWorld.responseStream_eq]
      -- The messages, in their order.
      have htry : Spec (Feeding app st At true rest heard []) (ConnectWsgiWorld.streamTry app st m k)
          (endsWith outcome (Stage (At .done heard) (unclosed app st) (b :: bs) none none)) := by
        rw [ConnectWsgiWorld.streamTry, hb]
        refine Spec.ok_bind ?_
        refine Spec.bind (fun _ => Feeding app st At true rest heard [b])
          (Spec.modify fun s hs => ?_) fun _ => spec_streamLoop h hfair.tail hrest hk
        exact ⟨hs.world, hs.streamOpen, congrArg (· ++ [b]) hs.chunks, hs.error, hs.response⟩
      -- An exception of the handler is kept, and the body drained.
      have hexcept : ∀ e, Spec (fun s => e.isException = true ∧ outcome = some e
          ∧ Stage (At .done heard) (unclosed app st) (b :: bs) none none s)
          (ConnectWsgiWorld.streamExcept app e)
          (.returns fun _ s => Stage (At .done heard) (unclosed app st) (b :: bs) outcome none s) := by
        refine fun e => Spec.assume fun he => Spec.assume fun hout => ?_
        rw [ConnectWsgiWorld.streamExcept, if_pos he]
        refine Spec.bind (fun _ => Stage (At .done heard) (unclosed app st) (b :: bs) outcome none)
          (Spec.modify fun s hs => ?_) fun _ => spec_await_unit (h.drain heard)
        exact ⟨hs.world, hs.streamOpen, hs.chunks, hout.symm, hs.response⟩
      -- The stream is left before the hooks are ended.
      have hfinally : Spec (Stage (At .done heard) (unclosed app st) (b :: bs) outcome none)
          (ConnectWsgiWorld.streamFinally app st)
          (.returns fun _ s => Stage (At .done heard) false (b :: bs) outcome none s) := by
        refine Spec.get_of (A := fun t => t.error = outcome) (fun s hs => hs.error) fun t herror
          => ?_
        rw [herror]
        refine Spec.bind _ (spec_endStream h outcome) fun _ => ?_
        refine Spec.bind _ (spec_endRun h.toQuiet outcome) fun r => Spec.assume fun hr => ?_
        subst hr
        exact Spec.modify fun s hs => ⟨hs.world, hs.streamOpen, hs.chunks, rfl, hs.response⟩
      refine Spec.bind (fun _ => Stage (At .done heard) false (b :: bs) outcome none)
        (Spec.always (fun _ => Stage (At .done heard) (unclosed app st) (b :: bs) outcome none)
          (fun _ _ => False) (Spec.rescue _ (htry.weaken (fun _ hs => hs)
          (fun _ s hs => ?_) (fun _ _ hs => hs) fun _ hs => hs) hexcept) (fun _ => hfinally)
          fun e => ?_) fun _ => ?_
      · obtain ⟨rfl, hs⟩ := hs
        exact hs
      · intro s hs
        exact hs.elim
      · refine Spec.get_of (A := fun t => t.error = outcome) (fun s hs => hs.error) fun t herror
        => ?_
        rw [herror]
        refine Spec.bind _ (spec_endResponse h hending) fun r => Spec.assume fun hr => ?_
        subst hr
        exact Spec.modify fun s hs => ⟨hs.world, congrArg (· ++ [lastChunk ending]) hs.chunks⟩

/-- **The reply of the WSGI server** to a request for a stream: what the app server is
    told and given is what the handler's stream comes to. -/
theorem handleRequest_answers {reply : Reply} (hsaid : Says st ctx ms outcome reply)
    (hcompression : st.requestCompression = .ok ()) {k : Nat} (hk : ms.length < k) {w : ω}
    (hw : At .before .nothing w) :
    ∃ heard, At .done heard (ConnectWsgi.handleRequest app (.stream st) k (Run.new w)).2.world
      ∧ Answers heard (ConnectWsgi.handleRequest app (.stream st) k (Run.new w)).2.chunks reply := by
  obtain @⟨messages, ending, hmessages, hending⟩ := hsaid
  obtain ⟨bs, hbs, rfl⟩ := writeAll_bodies hmessages
  have hnew : Stage (At .before .nothing) false [] none none (Run.new w : Run ω ι τ α) :=
    ⟨hw, rfl, rfl, rfl, rfl⟩
  have hrun : Spec (Stage (At .before .nothing) false [] none none)
      (ConnectWsgi.handleRequest app (.stream st) k)
      (.returns fun _ s => Delivered At (started st ctx .nothing) bs ending s) := by
    refine Spec.bind _ (spec_call h hending hcompression) fun r => ?_
    obtain ⟨k, rfl⟩ : ∃ j, k = j + 1 := ⟨k - 1, by omega⟩
    cases hms : ms with
    | nil =>
        rw [hms] at hbs
        cases hbs
        refine Spec.assume fun hr => ?_
        subst hr
        exact Spec.modify fun s hs => ⟨hs, by rw [List.take_succ_cons, List.take_nil]; rfl⟩
    | cons m rest =>
        rw [hms] at hbs hk
        rw [List.length_cons] at hk
        refine Spec.assume fun hr => Spec.assume fun hfair => ?_
        subst hr
        exact spec_responseStream h hending hfair hbs (by omega)
  obtain ⟨-, -, hdone, hchunks⟩ := Post.of_returns (hrun (Run.new w) hnew)
  refine ⟨_, hdone, ?_, ?_, ?_⟩
  · cases ending <;> rfl
  · rw [hchunks, List.flatten_append, List.flatten_singleton]
    cases ending <;> rfl
  · cases ending with
    | inl data => rfl
    | inr trailers => exact List.append_nil _

end Streams

end ConnectWsgiReply
