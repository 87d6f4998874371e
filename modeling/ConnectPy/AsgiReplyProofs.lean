import ConnectPy.AsgiResponseProofs
import ConnectPy.ReplyProofs

/-! # The reply of the ASGI server

    What the ASGI server writes for a handler that is left alone: every hook returns,
    every message is sent, and the client stays.  Only the handler decides how the
    request ends.  `Plays` says so of an environment, in terms of the `Phase` it is in;
    the interceptors and the app server may keep whatever state they like.

    The messages of such a run tell the reply that the handler's stream comes to
    (`handleRequest_tells`). -/

namespace ConnectAsgiReply

open Utf8 (Bytes)
open Effect
open ConnectErrors ConnectPlatform ConnectHeaders ConnectWireErrors ConnectWriter
open ConnectTrailersWire ConnectAsgi ConnectReply

variable {p : Platform} {ω ι τ α β : Type}

/-! ## Messages and replies -/

/-- Header pairs as bytes. -/
def encodePairs (headers : List (String × String)) : List (Bytes × Bytes) :=
  headers.map fun e => (Utf8.encode e.1, Utf8.encode e.2)

/-- The bytes of the body messages. -/
def bodyOf (messages : List Message) : Bytes :=
  messages.flatMap fun
    | .body b _ => b
    | _ => []

/-- The trailers, if there are any. -/
def trailersOf (messages : List Message) : List (Bytes × Bytes) :=
  messages.flatMap fun
    | .trailers headers => headers
    | _ => []

/-- The messages of a response tell a reply. -/
structure Tells (messages : List Message) (reply : Reply) : Prop where
  start    : ∃ announced, messages.head?
    = some (.start reply.status (encodePairs reply.headers) announced)
  body     : bodyOf messages = reply.body
  trailers : trailersOf messages = encodePairs reply.trailers

theorem bodyOf_append (ms ms' : List Message) : bodyOf (ms ++ ms') = bodyOf ms ++ bodyOf ms' :=
  List.flatMap_append

theorem trailersOf_append (ms ms' : List Message) :
    trailersOf (ms ++ ms') = trailersOf ms ++ trailersOf ms' :=
  List.flatMap_append

theorem bodyOf_opening (status : Nat) (headers : List (Bytes × Bytes)) (trailers : Bool)
    (bodies : List Bytes) : bodyOf (opening status headers trailers bodies) = bodies.flatten := by
  show [] ++ bodyOf (bodies.map fun b => .body b true) = bodies.flatten
  rw [List.nil_append, bodyOf, List.flatMap_map]
  exact List.flatMap_id

theorem trailersOf_opening (status : Nat) (headers : List (Bytes × Bytes)) (trailers : Bool)
    (bodies : List Bytes) : trailersOf (opening status headers trailers bodies) = [] := by
  show [] ++ trailersOf (bodies.map fun b => .body b true) = []
  rw [List.nil_append, trailersOf, List.flatMap_map]
  exact List.flatMap_eq_nil_iff.mpr fun _ _ => rfl

/-- The last messages of a stream. -/
def endingMessages : Bytes ⊕ Headers p → List Message
  | .inl data => [.body data false]
  | .inr trailers => [.body [] false, .trailers (encodePairs trailers.allitems)]

/-- The messages of a whole stream tell its reply. -/
theorem tells_stream (st : StreamResponse α) (ctx : Ctx p) (bodies : List Bytes)
    (ending : Bytes ⊕ Headers p) :
    Tells (opening 200 (encodePairs (streamHeaders st.protocol st.codec.name st.compression.name
        ctx.responseHeaders)) (usesTrailers st.protocol) bodies ++ endingMessages ending)
      (streamReply st ctx bodies.flatten ending) where
  start := ⟨_, rfl⟩
  body := by
    rw [bodyOf_append, bodyOf_opening]
    cases ending with
    | inl data => exact congrArg (bodies.flatten ++ ·) (List.append_nil data)
    | inr trailers => rfl
  trailers := by
    rw [trailersOf_append, trailersOf_opening]
    cases ending with
    | inl data => rfl
    | inr trailers => exact List.append_nil _

/-! ## An environment that leaves the handler alone -/

/-- How far the handler is: not called yet, its generator made or suspended at a yield
    with these messages still to come, or done. -/
inductive Phase (α : Type) where
  | before
  | suspended (begun : Bool) (ms : List α)
  | done

/-- What the call of a handler with one response message comes to. -/
inductive Single : List α → Option Exc → Outcome Exc α → Prop where
  | ret (m : α) : Single [m] none (.ret m)
  | raise {e : Exc} (he : e.isException = true) : Single [] (some e) (.raise e)

/-- What `anext` of a generator comes to that has nothing more to yield. -/
inductive Finish : Option Exc → Outcome Exc (Option α) → Prop where
  | ret : Finish none (.ret none)
  | raise {e : Exc} (he : e.isException = true) : Finish (some e) (.raise e)

/-- Nothing goes wrong around the handler, which leaves these response headers and
    trailers: every hook returns, every message is sent, the client stays, and the
    stream of its requests can be closed. -/
structure Quiet (env : Env p ω ι τ α) (ctx : Ctx p) (At : Phase α → ω → Prop) : Prop where
  encodes       : ∀ s, env.encodeText s = .ok (Utf8.encode s)
  onStart       : ∀ i w, At .before w →
    ∃ token w', env.onStart i w = (.ret token, w') ∧ At .before w'
  onEnd         : ∀ inScope i token e w, At .done w →
    ∃ w', env.onEnd inScope i token e w = (.ret (), w') ∧ At .done w'
  send          : ∀ φ inScope m w, At φ w → ∃ w', env.send inScope m w = (.sent, w') ∧ At φ w'
  connected     : ∀ φ w, At φ w → env.disconnected w = false
  acloseRequest : ∀ w, At .done w → ∃ w', env.acloseRequest w = (.ret (), w') ∧ At .done w'
  settled       : ∀ w, At .done w → env.ctx w = ctx

/-- The handler gives these messages and ends with this error, or without one. -/
structure Plays (env : Env p ω ι τ α) (st : StreamResponse α) (ctx : Ctx p) (ms : List α)
    (error : Option Exc) (At : Phase α → ω → Prop) : Prop extends Quiet env ctx At where
  watchEnter : ∀ w, At .before w → ∃ w', env.watchEnter w = (.ret (), w') ∧ At .before w'
  callSingle : st.endpoint.returnsOne = true → ∀ w, At .before w →
    Single ms error (env.callSingle w).1 ∧ At .done (env.callSingle w).2
  openStream : st.endpoint.returnsOne = false → ∀ w, At .before w →
    ∃ w', env.openStream w = (.ret (), w') ∧ At (.suspended false ms) w'
  next       : ∀ begun m rest w, At (.suspended begun (m :: rest)) w →
    ∃ w', env.nextResponse w = (.ret (some m), w') ∧ At (.suspended true rest) w'
  finish     : ∀ begun w, At (.suspended begun []) w →
    Finish error (env.nextResponse w).1 ∧ At .done (env.nextResponse w).2
  headers    : ∀ rest w, At (.suspended true rest) w →
    (env.ctx w).responseHeaders = ctx.responseHeaders
  aclose     : ∀ w, At .done w → ∃ w', env.aclose w = (.ret (), w') ∧ At .done w'
  throwInto  : ∀ e w, At .done w → ∃ w', env.throwInto e w = (.ret (), w') ∧ At .done w'
  watchExit  : ∀ w, At .done w → ∃ w', env.watchExit w = (.ret (), w') ∧ At .done w'

/-! ## How far the response is -/

/-- The environment is somewhere in `W`, the response was started or not, these messages
    were sent, and nothing failed. -/
structure Stage (W : ω → Prop) (begun : Bool) (messages : List Message) (error : Option Exc)
    (response : Option α) (s : Run ω ι τ α) : Prop where
  world     : W s.world
  failed    : s.failed = false
  started   : s.started = begun
  messages  : s.messages = messages
  error     : s.error = error
  cancelled : s.cancelled = false
  response  : s.response = response

theorem stage_new {W : ω → Prop} {w : ω} (hw : W w) :
    Stage W false [] none none (Run.new w : Run ω ι τ α) :=
  ⟨hw, rfl, rfl, rfl, rfl, rfl, rfl⟩

/-- The program ends as the handler does, in such a state. -/
def endsWith (error : Option Exc) (R : Run ω ι τ α → Prop) : Post (Run ω ι τ α) Exc Unit :=
  ⟨fun _ s => error = none ∧ R s,
    fun e s => e.isException = true ∧ error = some e ∧ R s, fun _ => False⟩

section Steps

variable {W V : ω → Prop} {begun : Bool} {messages : List Message} {error : Option Exc}
  {response : Option α}

/-- Only the world moves. -/
theorem Stage.move {s : Run ω ι τ α} (h : Stage W begun messages error response s)
    {w : ω} (hw : V w) : Stage V begun messages error response { s with world := w } :=
  ⟨hw, h.failed, h.started, h.messages, h.error, h.cancelled, h.response⟩

/-- Something was noted that is no message. -/
theorem Stage.note {s : Run ω ι τ α} (h : Stage W begun messages error response s)
    {events : List (Event ι τ)} (hevents : events.filterMap Event.taken? = [])
    (hooks : List (ι × τ)) : Stage W begun messages error response
      { s with toCore := { s.toCore.log events with hooks := hooks } } := by
  refine ⟨h.world, h.failed, h.started, ?_, h.error, h.cancelled, h.response⟩
  rw [← h.messages]
  show (s.toCore.log events).messages = s.messages
  rw [Core.messages_log, hevents, List.append_nil]

/-- A part of the environment that returns. -/
theorem spec_await_ret {x : Prog ω Exc β} {R : β → Prop}
    (hx : ∀ w, W w → ∃ a w', x w = (.ret a, w') ∧ V w' ∧ R a) :
    Spec (Stage W begun messages error response) (await x : Prog (Run ω ι τ α) Exc β)
      (.returns fun a s => R a ∧ Stage V begun messages error response s) := by
  intro s hs
  obtain ⟨a, w', hxw, hw', ha⟩ := hx s.world hs.world
  show (Post.returns _).at (x s.world).1 { s with world := (x s.world).2 }
  rw [hxw]
  exact ⟨ha, hs.move hw'⟩

theorem spec_await_unit {x : Prog ω Exc Unit}
    (hx : ∀ w, W w → ∃ w', x w = (.ret (), w') ∧ V w') :
    Spec (Stage W begun messages error response)
      (await x : Prog (Run ω ι τ α) Exc Unit)
      (.returns fun _ s => Stage V begun messages error response s) := by
  refine (spec_await_ret (R := fun _ => True) ?_).weaken (fun _ h => h) (fun _ _ h => h.2)
    (fun _ _ h => h) fun _ h => h
  intro w hw
  obtain ⟨w', hxw, hw'⟩ := hx w hw
  exact ⟨(), w', hxw, hw', trivial⟩

end Steps

theorem encodeHeaders_encodes {env : Env p ω ι τ α}
    (h : ∀ s, env.encodeText s = .ok (Utf8.encode s)) (headers : List (String × String)) :
    encodeHeaders env headers = .ok (encodePairs headers) := by
  induction headers with
  | nil => rfl
  | cons e headers ih =>
      obtain ⟨key, value⟩ := e
      rw [encodeHeaders, h, h, ih]
      rfl

/-! ## What every request does -/

section Around

variable {env : Env p ω ι τ α} {ctx : Ctx p} {At : Phase α → ω → Prop} (h : Quiet env ctx At)

include h

variable {begun : Bool} {messages : List Message} {error : Option Exc} {response : Option α}

theorem spec_startRun :
    Spec (Stage (At .before) begun messages error response) (startRun env)
      (.returns fun _ s => Stage (At .before) begun messages error response s) := by
  rw [startRun]
  induction env.interceptors with
  | nil => exact Spec.pure fun _ hs => hs
  | cons i is ih =>
      refine Spec.bind _ (spec_await_ret (R := fun _ => True) (V := At .before) ?_) fun token => ?_
      · intro w hw
        obtain ⟨token, w', hx, hw'⟩ := h.onStart i w hw
        exact ⟨token, w', hx, hw', trivial⟩
      · exact Spec.bind _ (Spec.modify fun s hs => hs.2.note rfl _) fun _ => ih

/-- Hooks that return leave the error as it is. -/
theorem spec_endLoop (inScope : Bool) (hooks : List (ι × τ)) (e : Option Exc) :
    Spec (Stage (At .done) begun messages error response) (endLoop env inScope hooks e none)
      (.returns fun r s => r = e ∧ Stage (At .done) begun messages error response s) := by
  induction hooks with
  | nil => exact Spec.pure fun _ hs => ⟨rfl, hs⟩
  | cons hook hooks ih =>
      obtain ⟨i, token⟩ := hook
      refine Spec.bind (fun _ => Stage (At .done) begun messages error response)
        (Spec.modify fun s hs => ?_) fun _ => ?_
      · have hnote := hs.note (show ([] : List (Event ι τ)).filterMap Event.taken? = [] from rfl)
          hooks
        rw [Core.log, List.append_nil] at hnote
        exact hnote
      refine Spec.bind (fun r s => r = .ok () ∧ Stage (At .done) begun messages error response s)
        (Spec.attempt ?_) fun r => Spec.assume fun hr => ?_
      · exact (spec_await_unit (h.onEnd inScope i token e)).weaken (fun _ hs => hs)
          (fun _ _ hs => ⟨rfl, hs⟩) (fun _ _ hs => hs.elim) fun _ hs => hs
      · subst hr
        exact Spec.bind _ (Spec.modify fun s hs => hs.note rfl s.hooks) fun _ => ih

theorem spec_endRun (inScope : Bool) (e : Option Exc) :
    Spec (Stage (At .done) begun messages error response) (endRun env inScope e)
      (.returns fun r s => r = e ∧ Stage (At .done) begun messages error response s) :=
  Spec.get fun s => (spec_endLoop h inScope s.hooks e).pre fun _ hs => hs.2

/-- Ending the run leaves the error as it is. -/
theorem spec_endMetadataRun' (inScope : Bool) (plan : Plan α) :
    Spec (Stage (At .done) begun messages error response) (endMetadataRun env inScope plan)
      (.returns fun _ s => Stage (At .done) begun messages error response s) := by
  rw [endMetadataRun]
  split
  · refine Spec.get_of (A := fun t => t.error = error) (fun s hs => hs.error) fun t ht => ?_
    rw [ht]
    refine Spec.bind _ (spec_endRun h inScope error) fun r => Spec.assume fun hr => ?_
    subst hr
    exact Spec.modify fun s hs =>
      ⟨hs.world, hs.failed, hs.started, hs.messages, rfl, hs.cancelled, hs.response⟩
  · exact Spec.pure fun _ hs => hs

/-- **One message is sent**, and nothing else happens. -/
theorem spec_send (inScope : Bool) (m : Message) {φ : Phase α} :
    Spec (Stage (At φ) begun messages error response) (send env inScope m)
      (.returns fun _ s => Stage (At φ) (begun || m.isStart) (messages ++ [m]) error response s) := by
  intro s hs
  obtain ⟨w', hw, hw'⟩ := h.send φ inScope m s.world hs.world
  rw [send, hw]
  refine ⟨hw', hs.failed, ?_, ?_, hs.error, hs.cancelled, hs.response⟩
  · show (s.started || m.isStart) = _
    rw [hs.started]
  · show (s.toCore.log _).messages = _
    rw [Core.messages_log, hs.messages]
    rfl

end Around

/-! ## Streams -/

/-- The messages of a stream up to its end, headers first if there are any. -/
def written (st : StreamResponse α) (headers : Headers p) : List Bytes → List Message
  | [] => []
  | b :: bs => opening 200 (encodePairs (streamHeaders st.protocol st.codec.name
      st.compression.name headers)) (usesTrailers st.protocol) (b :: bs)

/-- These bodies were sent, and the headers before the first. -/
def Sent (st : StreamResponse α) (ctx : Ctx p) (W : ω → Prop) (bodies : List Bytes)
    (error : Option Exc) (response : Option α) : Run ω ι τ α → Prop :=
  Stage W (!bodies.isEmpty) (written st ctx.responseHeaders bodies) error response

/-- Where the environment is between two messages.  A single response is there before
    the first. -/
def feedPhase (st : StreamResponse α) (resumed : Bool) (left : List α) : Phase α :=
  if st.endpoint.returnsOne then .done else .suspended resumed left

/-- What `_yield_single_response` has still to yield. -/
def feedResponse (st : StreamResponse α) (left : List α) : Option α :=
  if st.endpoint.returnsOne then left.head? else none

/-- Before the next message. -/
def Feeding (st : StreamResponse α) (ctx : Ctx p) (At : Phase α → ω → Prop) (resumed : Bool)
    (left : List α) (bodies : List Bytes) : Run ω ι τ α → Prop :=
  Sent st ctx (At (feedPhase st resumed left)) bodies none (feedResponse st left)

/-- A handler that returns one message has one at most, and no error behind it. -/
def Fair (st : StreamResponse α) (left : List α) (outcome : Option Exc) : Prop :=
  st.endpoint.returnsOne = true → left.length ≤ 1 ∧ outcome = none

theorem Fair.tail {st : StreamResponse α} {m : α} {rest : List α} {outcome : Option Exc}
    (h : Fair st (m :: rest) outcome) : Fair st rest outcome := by
  intro hone
  obtain ⟨hlength, houtcome⟩ := h hone
  rw [List.length_cons] at hlength
  exact ⟨by omega, houtcome⟩

/-- What is written at once is written message by message. -/
theorem writeAll_bodies {w : EnvelopeWriter α} {ms : List α} {b : Bytes}
    (h : w.writeAll ms = .ok b) :
    ∃ bs, List.Forall₂ (fun m b => w.write m = .ok b) ms bs ∧ bs.flatten = b := by
  induction ms generalizing b with
  | nil => exact ⟨[], .nil, Except.ok.inj h⟩
  | cons m ms ih =>
      rw [EnvelopeWriter.writeAll] at h
      cases hb : w.write m with
      | error e => rw [hb] at h; cases h
      | ok first =>
          rw [hb] at h
          dsimp only at h
          cases hbs : w.writeAll ms with
          | error e => rw [hbs] at h; cases h
          | ok rest =>
              rw [hbs] at h
              obtain ⟨bs, hall, hflat⟩ := ih hbs
              refine ⟨first :: bs, .cons hb hall, ?_⟩
              rw [List.flatten_cons, hflat]
              exact Except.ok.inj h

section Streams

variable {env : Env p ω ι τ α} {st : StreamResponse α} {ctx : Ctx p} {ms : List α}
  {outcome : Option Exc} {At : Phase α → ω → Prop} (h : Plays env st ctx ms outcome At)

include h

variable {bodies : List Bytes} {error : Option Exc} {response : Option α}

/-- `_StreamResponse.send_headers`. -/
theorem spec_sendHeaders (inScope : Bool) {φ : Phase α}
    (hctx : ∀ w, At φ w → (env.ctx w).responseHeaders = ctx.responseHeaders) :
    Spec (Stage (At φ) false [] error response) (sendHeaders env inScope st)
      (.returns fun _ s => Stage (At φ) true (opening 200 (encodePairs (streamHeaders st.protocol
        st.codec.name st.compression.name ctx.responseHeaders)) (usesTrailers st.protocol) [])
        error response s) := by
  refine Spec.get_of (A := fun t => (env.ctx t.world).responseHeaders = ctx.responseHeaders) (fun
    s hs => hctx s.world hs.world) fun t ht => ?_
  rw [ht, encodeHeaders_encodes h.encodes]
  exact spec_send h.toQuiet inScope (.start 200 (encodePairs (streamHeaders st.protocol
    st.codec.name st.compression.name ctx.responseHeaders)) (usesTrailers st.protocol))

/-- One message of the handler is written, behind the headers. -/
theorem spec_writeMessage {φ : Phase α} {m : α} {b : Bytes} (hb : st.writer.write m = .ok b) :
    Spec (Stage (At φ) true (opening 200 (encodePairs (streamHeaders st.protocol st.codec.name
        st.compression.name ctx.responseHeaders)) (usesTrailers st.protocol) bodies) error response)
      (writeMessage env st m)
      (.returns fun again s => again = true ∧ Sent st ctx (At φ) (bodies ++ [b]) error response s) := by
  rw [writeMessage, hb]
  show Spec _ (send env true (.body b true) >>= fun _ => pure true) _
  refine Spec.bind _ (spec_send h.toQuiet true (.body b true)) fun _ =>
    Spec.pure fun s hs => ⟨rfl, ?_⟩
  -- The headers are there because a body is.
  cases bodies with
  | nil => exact hs
  | cons first rest =>
      rw [opening_append] at hs
      exact hs

/-! ## The messages of the handler -/

theorem feed_headers (rest : List α) (w : ω) (hw : At (feedPhase st true rest) w) :
    (env.ctx w).responseHeaders = ctx.responseHeaders := by
  rw [feedPhase] at hw
  by_cases hone : st.endpoint.returnsOne = true
  · rw [if_pos hone] at hw
    rw [h.settled w hw]
  · rw [if_neg hone] at hw
    exact h.headers rest w hw

theorem spec_nextResponse_message {resumed : Bool} {m : α} {rest : List α}
    (hfair : Fair st (m :: rest) outcome) :
    Spec (Feeding st ctx At resumed (m :: rest) bodies) (nextResponse env st)
      (.returns fun r s => r = some m ∧ Feeding st ctx At true rest bodies s) := by
  unfold Feeding feedPhase feedResponse
  rw [nextResponse]
  by_cases hone : st.endpoint.returnsOne = true
  · have hrest : rest = [] := by
      have hlength := (hfair hone).1
      rw [List.length_cons] at hlength
      exact List.length_eq_zero_iff.mp (by omega)
    simp only [if_pos hone]
    subst hrest
    refine Spec.get fun t => ?_
    rintro s ⟨rfl, hs⟩
    exact ⟨hs.response, hs.world, hs.failed, hs.started, hs.messages, hs.error, hs.cancelled, rfl⟩
  · simp only [if_neg hone]
    refine spec_await_ret (R := fun r => r = some m) ?_
    intro w hw
    obtain ⟨w', hx, hw'⟩ := h.next resumed m rest w hw
    exact ⟨some m, w', hx, hw', rfl⟩

theorem spec_nextResponse_end {resumed : Bool} (hfair : Fair st [] outcome) :
    Spec (Feeding st ctx At resumed [] bodies) (nextResponse env st)
      ⟨fun r s => r = none ∧ outcome = none ∧ Sent st ctx (At .done) bodies none none s,
        fun e s => e.isException = true ∧ outcome = some e
          ∧ Sent st ctx (At .done) bodies none none s,
        fun _ => False⟩ := by
  unfold Feeding feedPhase feedResponse
  rw [nextResponse]
  by_cases hone : st.endpoint.returnsOne = true
  · simp only [if_pos hone]
    refine Spec.get fun t => ?_
    rintro s ⟨rfl, hs⟩
    exact ⟨hs.response, (hfair hone).2, hs.world, hs.failed, hs.started, hs.messages, hs.error,
      hs.cancelled, rfl⟩
  · simp only [if_neg hone]
    intro s hs
    obtain ⟨hfinish, hdone⟩ := h.finish resumed s.world hs.world
    show Post.at _ (env.nextResponse s.world).1 { s with world := (env.nextResponse s.world).2 }
    have hmove := hs.move hdone
    cases hout : outcome with
    | none =>
        rw [hout] at hfinish
        generalize (env.nextResponse s.world).1 = o at hfinish
        cases hfinish
        exact ⟨rfl, rfl, hmove⟩
    | some e =>
        rw [hout] at hfinish
        generalize (env.nextResponse s.world).1 = o at hfinish
        cases hfinish with
        | raise he => exact ⟨he, rfl, hmove⟩

/-- **A round with a message** writes it, behind the headers. -/
theorem spec_streamRound_message {resumed : Bool} {m : α} {rest : List α} {b : Bytes}
    (hfair : Fair st (m :: rest) outcome) (hb : st.writer.write m = .ok b) :
    Spec (Feeding st ctx At resumed (m :: rest) bodies) (streamRound env st)
      (.returns fun again s => again = true ∧ Feeding st ctx At true rest (bodies ++ [b]) s) := by
  refine Spec.bind _ (spec_nextResponse_message h hfair) fun r => Spec.assume fun hr => ?_
  subst hr
  refine Spec.get_of (A := fun t => env.disconnected t.world = false ∧ t.started =
    (!bodies.isEmpty)) (fun s hs => ⟨h.connected _ s.world hs.world, hs.started⟩) fun t ht => ?_
  obtain ⟨hconnected, hstarted⟩ := ht
  rw [hconnected, if_neg Bool.false_ne_true, hstarted]
  cases bodies with
  | nil =>
      exact Spec.bind _ (spec_sendHeaders h true (feed_headers h rest)) fun _ =>
        spec_writeMessage h hb
  | cons first bs => exact spec_writeMessage h hb

theorem spec_streamRound_end {resumed : Bool} (hfair : Fair st [] outcome) :
    Spec (Feeding st ctx At resumed [] bodies) (streamRound env st)
      ⟨fun again s => again = false ∧ outcome = none ∧ Sent st ctx (At .done) bodies none none s,
        fun e s => e.isException = true ∧ outcome = some e
          ∧ Sent st ctx (At .done) bodies none none s,
        fun _ => False⟩ := by
  refine Spec.bind _ (spec_nextResponse_end h hfair) fun r => Spec.assume fun hr => ?_
  subst hr
  exact Spec.pure fun _ hs => ⟨rfl, hs⟩

/-- **The loop** writes all messages and ends as the handler does. -/
theorem spec_streamLoop {left : List α} {resumed : Bool} {bs : List Bytes}
    (hfair : Fair st left outcome)
    (hbs : List.Forall₂ (fun m b => st.writer.write m = .ok b) left bs) {n : Nat}
    (hn : left.length < n) :
    Spec (Feeding st ctx At resumed left bodies) (Prog.loop n (streamRound env st))
      (endsWith outcome (Sent st ctx (At .done) (bodies ++ bs) none none)) := by
  induction hbs generalizing resumed bodies n with
  | nil =>
      obtain ⟨n, rfl⟩ : ∃ k, n = k + 1 := ⟨n - 1, by simp at hn; omega⟩
      rw [List.append_nil]
      refine Spec.bind (fun again s => again = false ∧ outcome = none
        ∧ Sent st ctx (At .done) bodies none none s) (spec_streamRound_end h hfair) fun again =>
          Spec.assume fun ha => ?_
      subst ha
      exact Spec.pure fun _ hs => hs
  | @cons m b rest bs hb hrest ih =>
      obtain ⟨n, rfl⟩ : ∃ k, n = k + 1 := ⟨n - 1, by rw [List.length_cons] at hn; omega⟩
      refine Spec.bind _ (Spec.returns_raise (spec_streamRound_message h hfair hb) _ _) fun again =>
        Spec.assume fun ha => ?_
      subst ha
      have hlength : rest.length < n := by
        rw [List.length_cons] at hn
        omega
      have hloop : Spec (Feeding st ctx At true rest (bodies ++ [b]))
          (Prog.loop n (streamRound env st)) _ := ih hfair.tail hlength
      rw [List.append_assoc] at hloop
      exact hloop

/-! ## The stream of responses -/

/-- **Calling the handler.** -/
theorem spec_openResponses :
    Spec (Stage (At .before) false [] none none) (openResponses env st)
      ⟨fun _ s => Fair st ms outcome ∧ Feeding st ctx At false ms [] s,
        fun e s => e.isException = true ∧ outcome = some e ∧ ms = []
          ∧ Sent st ctx (At .done) [] none none s,
        fun _ => False⟩ := by
  rw [openResponses]
  by_cases hone : st.endpoint.returnsOne = true
  · rw [if_pos hone]
    refine Spec.bind (fun m s => ms = [m] ∧ outcome = none
      ∧ Stage (At .done) false [] none none s) ?_ fun m =>
        Spec.assume fun hms => Spec.assume fun hout => ?_
    · intro s hs
      obtain ⟨hsingle, hdone⟩ := h.callSingle hone s.world hs.world
      show Post.at _ (env.callSingle s.world).1 { s with world := (env.callSingle s.world).2 }
      have hmove := hs.move hdone
      generalize (env.callSingle s.world).1 = o at hsingle
      cases hsingle with
      | ret m => exact ⟨rfl, rfl, hmove⟩
      | raise he => exact ⟨he, rfl, rfl, hmove⟩
    · refine Spec.bind _ (Spec.returns_raise (spec_endRun h.toQuiet true none) _ _) fun r =>
        Spec.assume fun hr => ?_
      subst hr
      refine Spec.modify fun s hs => ?_
      refine ⟨fun _ => ⟨by rw [hms]; exact le_refl 1, hout⟩, ?_⟩
      unfold Feeding feedPhase feedResponse
      rw [if_pos hone, if_pos hone, hms]
      exact ⟨hs.world, hs.failed, hs.started, hs.messages, hs.error, hs.cancelled, rfl⟩
  · rw [if_neg hone]
    have hfalse : st.endpoint.returnsOne = false := Bool.eq_false_iff.mpr hone
    refine (spec_await_unit (h.openStream hfalse)).weaken (fun _ hs => hs) (fun _ s hs => ?_)
      (fun _ _ hs => hs.elim) fun _ hs => hs
    refine ⟨fun hone' => absurd hone' hone, ?_⟩
    unfold Feeding feedPhase feedResponse
    rw [if_neg hone, if_neg hone]
    exact hs

/-- Closing the stream of a handler that is done. -/
theorem spec_closeResponseStream (e : Option Exc) (he : ∀ e' ∈ e, e'.isException = true) :
    Spec (Sent st ctx (At .done) bodies error response) (closeResponseStream env st e)
      (.returns fun _ s => Sent st ctx (At .done) bodies error response s) := by
  unfold closeResponseStream
  by_cases hone : st.endpoint.returnsOne = true
  · rw [if_pos hone]
    exact Spec.pure fun _ hs => hs
  · rw [if_neg hone]
    cases e with
    | none => exact spec_await_unit h.aclose
    | some e =>
        have hcancel : e.isCancellation = false := by
          have hexc := he e rfl
          cases e <;> first | rfl | exact nomatch hexc
        dsimp only
        rw [if_neg (by rw [hcancel]; exact Bool.false_ne_true)]
        exact spec_await_unit (h.throwInto e)

/-- **The stream of responses**, up to its end. -/
theorem spec_streamResponses {bs : List Bytes}
    (hbs : List.Forall₂ (fun m b => st.writer.write m = .ok b) ms bs) {n : Nat}
    (hn : ms.length < n) :
    Spec (Stage (At .before) false [] none none) (streamResponses env st n)
      (endsWith outcome (Sent st ctx (At .done) bs none none)) := by
  refine Spec.bind _ ((spec_openResponses h).weaken (fun _ hs => hs) (fun _ _ hs => hs)
    (fun e s hs => ?_) fun _ hs => hs) fun _ => Spec.assume fun hfair => ?_
  · -- The handler raised, so it gave no message.
    obtain ⟨he, hout, hms, hstage⟩ := hs
    subst hms
    cases hbs
    exact ⟨he, hout, hstage⟩
  · refine Spec.bind (fun _ s => outcome = none ∧ Sent st ctx (At .done) bs none none s) ?_
      fun _ => Spec.assume fun hout => ?_
    · refine Spec.rescue (fun e s => e.isException = true ∧ outcome = some e
        ∧ Sent st ctx (At .done) bs none none s) (spec_streamLoop h hfair hbs hn) fun e => ?_
      refine Spec.assume fun he => Spec.assume fun hout => ?_
      refine Spec.bind _ (Spec.returns_raise (spec_closeResponseStream h (some e) ?_) _ _) fun _ => ?_
      · rintro e' ⟨⟩
        exact he
      · exact Spec.raise fun _ hs => ⟨he, hout, hs⟩
    · refine (spec_closeResponseStream h none nofun).weaken (fun _ hs => hs) (fun _ _ hs => ?_)
        (fun _ _ hs => hs.elim) fun _ hs => hs
      exact ⟨hout, hs⟩

/-! ## The request -/

/-- **`_call_stream`**, within its watch. -/
theorem spec_callStream' {bs : List Bytes}
    (hbs : List.Forall₂ (fun m b => st.writer.write m = .ok b) ms bs) {n : Nat}
    (hn : ms.length < n) :
    Spec (Stage (At .before) false [] none none) (callStream env st n)
      (endsWith outcome (Sent st ctx (At .done) bs none none)) := by
  have hexit : Spec (Sent st ctx (At .done) bs none none)
      (await env.watchExit : Prog (Run ω ι τ α) Exc Unit)
      (.returns fun _ s => Sent st ctx (At .done) bs none none s) := spec_await_unit h.watchExit
  refine Spec.bind (fun _ => Stage (At .before) false [] none none)
    (Spec.modify fun s hs => ?_) fun _ => ?_
  · exact ⟨hs.world, hs.failed, hs.started, hs.messages, hs.error, hs.cancelled, hs.response⟩
  refine Spec.bind _ (Spec.returns_raise (spec_await_unit h.watchEnter) _ _) fun _ => ?_
  refine Spec.always _ _ (spec_streamResponses h hbs hn) (fun _ => ?_) fun e => ?_
  · refine Spec.assume fun hout => hexit.weaken (fun _ hs => hs) (fun _ _ hs => ?_)
      (fun _ _ hs => hs.elim) fun _ hs => hs
    exact ⟨hout, hs⟩
  · refine Spec.assume fun he => Spec.assume fun hout => hexit.weaken (fun _ hs => hs)
      (fun _ _ hs => ?_) (fun _ _ hs => hs.elim) fun _ hs => hs
    exact ⟨he, hout, hs⟩

/-- **Up to the end of the stream**, whose error is kept. -/
theorem spec_keepServe (hcompression : st.requestCompression = .ok ()) {bs : List Bytes}
    (hbs : List.Forall₂ (fun m b => st.writer.write m = .ok b) ms bs) {n : Nat}
    (hn : ms.length < n) :
    Spec (Stage (At .before) false [] none none) (keepError (serve env (.stream st) n))
      (.returns fun _ s => Sent st ctx (At .done) bs outcome none s) := by
  refine Spec.rescue (fun e s => e.isException = true ∧ outcome = some e
    ∧ Sent st ctx (At .done) bs none none s) ?_ fun e => ?_
  · refine Spec.bind _ (Spec.returns_raise (spec_startRun h.toQuiet) _ _) fun _ => ?_
    rw [hcompression]
    refine Spec.ok_bind ?_
    refine Spec.bind (fun _ s => outcome = none ∧ Sent st ctx (At .done) bs none none s)
      (spec_callStream' h hbs hn) fun _ => Spec.pure fun _ hs => ?_
    obtain ⟨rfl, hs⟩ := hs
    exact hs
  · refine Spec.assume fun he => Spec.assume fun hout => ?_
    rw [if_pos he]
    refine Spec.bind (fun _ => Sent st ctx (At .done) bs outcome none)
      (Spec.modify fun s hs => ?_) fun _ => Spec.pure fun _ hs => hs
    exact ⟨hs.world, hs.failed, hs.started, hs.messages, hout.symm, hs.cancelled, hs.response⟩

/-- **The timeout scope** is left with the error of the handler. -/
theorem spec_scopeBody' (hcompression : st.requestCompression = .ok ()) {bs : List Bytes}
    (hbs : List.Forall₂ (fun m b => st.writer.write m = .ok b) ms bs) {n : Nat}
    (hn : ms.length < n) :
    Spec (Stage (At .before) false [] none none) (scopeBody env (.stream st) n)
      (.returns fun _ s => Sent st ctx (At .done) bs outcome none s) := by
  refine Spec.bind _ (spec_keepServe h hcompression hbs hn) fun r => ?_
  refine Spec.bind _ (spec_endMetadataRun' h.toQuiet true (.stream st)) fun _ => ?_
  refine Spec.get fun t => ?_
  have hpure : Spec (fun s => s = t ∧ Sent st ctx (At .done) bs outcome none s)
      (pure () : Prog (Run ω ι τ α) Exc Unit)
      (.returns fun _ s => Sent st ctx (At .done) bs outcome none s) := Spec.pure fun _ hs => hs.2
  -- There is no unary response to write.
  cases t.error with
  | none => exact hpure
  | some e => exact hpure

/-- What is there once the end of the stream was written. -/
def Ended (st : StreamResponse α) (ctx : Ctx p) (At : Phase α → ω → Prop) (bodies : List Bytes)
    (ending : Bytes ⊕ Headers p) (s : Run ω ι τ α) : Prop :=
  At .done s.world ∧ s.messages = opening 200 (encodePairs (streamHeaders st.protocol
    st.codec.name st.compression.name ctx.responseHeaders)) (usesTrailers st.protocol) bodies
      ++ endingMessages ending

/-- **The end of the stream.** -/
theorem spec_sendEnd' {ending : Bytes ⊕ Headers p}
    (hending : st.writerEnd ctx.responseTrailers (error.map ConnectWireError.fromException)
      = .ok ending) :
    Spec (Stage (At .done) true (opening 200 (encodePairs (streamHeaders st.protocol
        st.codec.name st.compression.name ctx.responseHeaders)) (usesTrailers st.protocol) bodies)
        error response)
      (sendEnd env st error) (.returns fun _ s => Ended st ctx At bodies ending s) := by
  unfold Ended
  refine Spec.get_of (A := fun t => env.ctx t.world = ctx) (fun s hs => h.settled s.world
    hs.world) fun t ht => ?_
  rw [ht, hending]
  show Spec _ (match ending with
    | .inl data => _
    | .inr trailers => _) _
  cases ending with
  | inl data =>
      exact Spec.bind _ (spec_send h.toQuiet false (.body data false)) fun _ =>
        Spec.pure fun _ hs => ⟨hs.world, hs.messages⟩
  | inr trailers =>
      refine Spec.bind _ (spec_send h.toQuiet false (.body [] false)) fun _ => ?_
      rw [encodeHeaders_encodes h.encodes]
      show Spec _ (send env false (.trailers (encodePairs trailers.allitems)) >>= fun _ =>
        pure true) _
      refine Spec.bind _ (spec_send h.toQuiet false (.trailers (encodePairs trailers.allitems)))
        fun _ => Spec.pure fun s hs => ⟨hs.world, ?_⟩
      rw [hs.messages, List.append_assoc]
      rfl

/-- `_StreamResponse.end`, where the headers were sent and where they were not. -/
theorem spec_streamEnd' {ending : Bytes ⊕ Headers p}
    (hending : st.writerEnd ctx.responseTrailers (error.map ConnectWireError.fromException)
      = .ok ending) :
    Spec (Sent st ctx (At .done) bodies error response)
      (streamEnd env st error) (.returns fun _ s => Ended st ctx At bodies ending s) := by
  refine Spec.get_of (A := fun t => t.failed = false ∧ t.started = (!bodies.isEmpty)) (fun s hs
    => ⟨hs.failed, hs.started⟩) fun t ht => ?_
  obtain ⟨hfailed, hstarted⟩ := ht
  rw [hfailed, if_neg Bool.false_ne_true, hstarted]
  cases bodies with
  | nil =>
      exact Spec.bind _ (spec_sendHeaders h false fun w hw => by rw [h.settled w hw]) fun _ =>
        spec_sendEnd' h hending
  | cons first bs => exact spec_sendEnd' h hending

end Streams

/-! ## The whole request -/

/-- **From the timeout scope to the response**: what the `finally` block does after a
    scope that is left without an exception. -/
theorem handleRequest_spec {env : Env p ω ι τ α} {ctx : Ctx p} {At : Phase α → ω → Prop}
    (h : Quiet env ctx At) {plan : Plan α} {n : Nat} {φ : Phase α} {begun : Bool}
    {messages : List Message} {error : Option Exc} {response : Option α} {ended : List Message}
    (hscope : Spec (Stage (At φ) false [] none none) (scopeBody env plan n)
      (.returns fun _ s => Stage (At .done) begun messages error response s))
    (hrespond : Spec (Stage (At .done) begun messages error response) (respond env plan error)
      (.returns fun _ s => At .done s.world ∧ s.messages = ended))
    {w : ω} (hw : At φ w) :
    (ConnectAsgi.handleRequest env plan n (Run.new w)).2.messages = ended := by
  -- The status is written if the response needs one.
  have hwrite : Spec (Stage (At .done) begun messages error response) (writeStatus env plan)
      (.returns fun _ s => At .done s.world ∧ s.messages = ended) := by
    refine Spec.bind _ (spec_endMetadataRun' h false plan) fun _ => Spec.get_of (A := fun t =>
      t.error = error ∧ t.cancelled = false) (fun s hs => ⟨hs.error, hs.cancelled⟩) fun t ht =>
      ?_
    obtain ⟨herror, hcancelled⟩ := ht
    rw [herror, hcancelled, if_neg Bool.false_ne_true]
    exact Spec.bind _ hrespond fun _ => Spec.modify fun _ hs => hs
  -- The request stream is closed in the end, if it was opened.
  have hcleanup : Spec (fun s => At .done s.world ∧ s.messages = ended)
      (Prog.get >>= fun s : Run ω ι τ α =>
        if s.requestStream then await env.acloseRequest else pure ())
      (.returns fun _ s => At .done s.world ∧ s.messages = ended) := by
    refine Spec.get fun t => ?_
    by_cases hstream : t.requestStream = true
    · rw [if_pos hstream]
      rintro s ⟨-, hdone, hmessages⟩
      obtain ⟨w', hx, hw'⟩ := h.acloseRequest s.world hdone
      show (Post.returns _).at (env.acloseRequest s.world).1
        { s with world := (env.acloseRequest s.world).2 }
      rw [hx]
      exact ⟨hw', hmessages⟩
    · rw [if_neg hstream]
      exact Spec.pure fun _ hs => hs.2
  have hfinish : Spec (Stage (At .done) begun messages error response)
      (ConnectAsgi.finish env plan) (.returns fun _ s => At .done s.world ∧ s.messages = ended) := by
    refine Spec.get_of (A := fun t => t.cancelled = false) (fun s hs => hs.cancelled) fun t
      hcancelled => ?_
    rw [hcancelled, if_neg Bool.false_ne_true]
    refine Spec.always (fun _ s => At .done s.world ∧ s.messages = ended) (fun _ _ => False)
      hwrite (fun _ => hcleanup) fun e => ?_
    intro s hs
    exact hs.elim
  have hrun : Spec (Stage (At φ) false [] none none) (ConnectAsgi.handleRequest env plan n)
      ⟨fun _ s => s.messages = ended, fun _ s => s.messages = ended, fun _ => False⟩ := by
    refine Spec.bind (fun _ s => s.messages = ended) ?_ fun _ => Spec.get fun t => ?_
    · refine Spec.always (fun _ => Stage (At .done) begun messages error response)
        (fun _ _ => False) (Spec.rescue (fun _ _ => False)
          (Spec.rescue (fun _ _ => False) hscope fun e => ?_) fun e => ?_)
        (fun _ => hfinish.weaken (fun _ hs => hs) (fun _ _ hs => hs.2) (fun _ _ hs => hs.elim)
          fun _ hs => hs) fun e => ?_
      all_goals
        intro s hs
        exact hs.elim
    · -- The error is reported already, or raised once more for the app server.
      cases t.error with
      | none => exact Spec.pure fun _ hs => hs.2
      | some e =>
          dsimp only
          split
          · exact Spec.raise fun _ hs => hs.2
          · exact Spec.pure fun _ hs => hs.2
  have hend := hrun (Run.new w) (stage_new hw)
  -- All ways to end leave the same messages.
  have hfinal : ∀ (o : Outcome Exc Unit) (s : Run ω ι τ α), (Post.at
      (⟨fun _ s => s.messages = ended, fun _ s => s.messages = ended, fun _ => False⟩ :
        Post (Run ω ι τ α) Exc Unit) o s) → s.messages = ended := by
    intro o s ho
    cases o with
    | ret _ => exact ho
    | raise _ => exact ho
    | stuck => exact ho.elim
  exact hfinal _ _ hend

/-- **The reply of the ASGI server** to a request for a stream: the messages that the
    app server takes tell what the handler's stream comes to. -/
theorem handleRequest_tells {env : Env p ω ι τ α} {st : StreamResponse α} {ctx : Ctx p}
    {ms : List α} {outcome : Option Exc} {At : Phase α → ω → Prop}
    (h : Plays env st ctx ms outcome At) {reply : Reply} (hsaid : Says st ctx ms outcome reply)
    (hcompression : st.requestCompression = .ok ()) {n : Nat} (hn : ms.length < n) {w : ω}
    (hw : At .before w) :
    Tells (ConnectAsgi.handleRequest env (.stream st) n (Run.new w)).2.messages reply := by
  obtain @⟨messages, ending, hmessages, hending⟩ := hsaid
  obtain ⟨bs, hbs, rfl⟩ := writeAll_bodies hmessages
  rw [handleRequest_spec h.toQuiet (spec_scopeBody' h hcompression hbs hn)
    (spec_streamEnd' h hending) hw]
  exact tells_stream st ctx bs _

end ConnectAsgiReply
