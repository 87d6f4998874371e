import ConnectPy.RequestReadingProofs
import ConnectPy.StartResponseProofs

/-! # What the WSGI server leaves of a request body

    On HTTP/1 a body that is left unread is in the way of the next request of the
    connection, so the server drains it.  It does so in its three `except` clauses and
    nowhere else.  On the other ways out of a request the body has been read as far as
    the request was: all of it where one message is read (`takePost_emptied`,
    `takeSingle_emptied`), nothing of it for a GET, and as far as the handler's calls of
    `next` need where that has the request stream.

    A handler with the request stream does nothing else to the body (`Pulled`), so
    without an exception the body is what so many calls leave of it (`Pulling`), whatever
    else is going on (`kept_pulling`).  Behind a draining the body is empty for good
    (`kept_empty`). -/

namespace ConnectDrain

open Utf8 (Bytes)
open OrderedDict Effect
open ConnectErrors ConnectPlatform ConnectEnvelope ConnectUnaryRequest ConnectRequestBody
open ConnectReading
open ConnectAsgi (Plan StreamResponse UnaryResponse EndpointKind)
open ConnectWsgi ConnectWsgiWorld

variable {p : Platform} {α β γ ω ι τ : Type}

/-! ## The world of a request -/

/-- `request_body`, the request stream over it, how often a handler called `next` on that
    before it ended, and all the rest. -/
structure World (p : Platform) (ω β : Type) where
  body   : RequestBody
  stream : RequestStream p β
  pulls  : Nat
  rest   : ω

namespace World

/-- When a request has arrived. -/
def new (p : Platform) (β : Type) (environ : Environ) (rest : ω) : World p ω β :=
  ⟨.fromEnviron environ, .new p β, 0, rest⟩

/-- What a call of `next` leaves; at the end of the stream it does nothing. -/
def pull (cfg : ReaderConfig β) (w : World p ω β) : World p ω β :=
  if w.stream.ended then w
  else
    let s := RequestStream.pull cfg (w.stream, w.body)
    { w with body := s.2, stream := s.1, pulls := w.pulls + 1 }

/-- `next(stream)`. -/
def next (cfg : ReaderConfig β) : Prog (World p ω β) Exc (Option β) := fun w =>
  (match (w.stream.next cfg w.body).1 with
    | .ok message => .ret message
    | .error e => .raise e, w.pull cfg)

end World

/-- A part that has no access to the body. -/
def beside (x : Prog ω Exc γ) : Prog (World p ω β) Exc γ :=
  Prog.zoom World.rest (fun r w => { w with rest := r }) x

/-- From one world to the other the body was read, and nothing else happened to it. -/
def Handed (w w' : World p ω β) : Prop := ∃ log, Reads w.body log w'.body

theorem handed_rest (w : World p ω β) (r : ω) : Handed w { w with rest := r } := ⟨[], .nil _⟩

theorem Handed.trans {w w' w'' : World p ω β} (h : Handed w w') (h' : Handed w' w'') :
    Handed w w'' := by
  obtain ⟨log, hlog⟩ := h
  obtain ⟨log', hlog'⟩ := h'
  exact ⟨log ++ log', hlog.append hlog'⟩

/-- All that a handler does with its request stream: it calls `next`, or closes it. -/
inductive Pulled (cfg : ReaderConfig β) : World p ω β → World p ω β → Prop where
  | refl (w : World p ω β) : Pulled cfg w w
  | rest {w w' : World p ω β} (h : Pulled cfg w w') (r : ω) : Pulled cfg w { w' with rest := r }
  | next {w w' : World p ω β} (h : Pulled cfg w w') : Pulled cfg w (w'.pull cfg)
  | close {w w' : World p ω β} (h : Pulled cfg w w') :
      Pulled cfg w { w' with stream := w'.stream.close }

theorem Pulled.handed {cfg : ReaderConfig β} {w w' : World p ω β} (h : Pulled cfg w w') :
    Handed w w' := by
  induction h with
  | refl => exact ⟨[], .nil _⟩
  | rest h r ih => exact ih
  | @next w' h ih =>
      refine ih.trans ?_
      rw [World.pull]
      split
      · exact ⟨[], .nil _⟩
      · exact next_reads cfg w'.stream w'.body
  | close h ih => exact ih

theorem Pulled.trans {cfg : ReaderConfig β} {w w' w'' : World p ω β} (h : Pulled cfg w w')
    (h' : Pulled cfg w' w'') : Pulled cfg w w'' := by
  induction h' with
  | refl => exact h
  | rest h' r ih => exact .rest ih r
  | next h' ih => exact .next ih
  | close h' ih => exact .close ih

/-- A handler with a request stream: it takes messages, as many as it likes. -/
structure Reading (p : Platform) (ω β γ : Type) (cfg : ReaderConfig β) where
  run   : Prog (World p ω β) Exc γ
  pulls : ∀ w, Pulled cfg w (run w).2

/-- A response stream with a request stream. -/
structure Answering (p : Platform) (ω β α : Type) (cfg : ReaderConfig β) where
  responses : Responses (World p ω β) α
  pulls     : ∀ thrown w, Pulled cfg w (responses.resume thrown w).2
  closes    : ∀ w, Pulled cfg w (responses.close w).2

/-- Take the request out of the body. -/
def readRequest (take : RequestBody → Except Exc β × RequestBody) :
    Prog (World p ω β) Exc β :=
  fun w =>
    (match (take w.body).1 with
      | .ok request => .ret request
      | .error e => .raise e,
    { w with body := (take w.body).2 })

theorem readRequest_hands {take : RequestBody → Except Exc β × RequestBody}
    (htake : ∀ b, ∃ log, Reads b log (take b).2) (w : World p ω β) :
    Handed w (readRequest take w).2 := htake w.body

/-! ## Methods -/

/-- The methods, by how they come by their request. -/
inductive Method (p : Platform) (ω β α : Type) where
  /-- A unary method of the Connect protocol, called with GET. -/
  | get (server : Server β) (params : Multimap String String) (function : β → Prog ω Exc α)
  /-- Called with anything else. -/
  | post (server : Server β) (function : β → Prog ω Exc α)
  | unary (cfg : ReaderConfig β) (function : β → Prog ω Exc α)
  | clientStream (cfg : ReaderConfig β) (handler : Reading p ω β α cfg)
  | serverStream (cfg : ReaderConfig β) (function : β → Prog ω Exc Unit)
      (responses : Responses ω α)
  | bidiStream (cfg : ReaderConfig β) (handler : Reading p ω β Unit cfg)
      (answering : Answering p ω β α cfg)

namespace Method

/-- Reading the request of a unary method of the Connect protocol and invoking its
    handler. -/
def callUnary (environ : Environ) : Method p ω β α → Prog (World p ω β) Exc α
  | .get server params function => do
      let request ← Prog.ofExcept (handleGetRequest server params)
      beside (function request)
  | .post server function => do
      let request ← readRequest (takePost server environ)
      beside (function request)
  | _ => Prog.stuck

/-- The handler of any other method with one response message. -/
def callSingle : Method p ω β α → Prog (World p ω β) Exc α
  | .unary cfg function => do
      let request ← readRequest (takeSingle p cfg)
      beside (function request)
  | .clientStream _ handler => handler.run
  | _ => Prog.stuck

/-- The handler of a method with a response stream, up to its stream. -/
def openStream : Method p ω β α → Prog (World p ω β) Exc Unit
  | .serverStream cfg function _ => do
      let request ← readRequest (takeSingle p cfg)
      beside (function request)
  | .bidiStream _ handler _ => handler.run
  | _ => Prog.stuck

/-- The stream. -/
def responses : Method p ω β α → Responses (World p ω β) α
  | .serverStream _ _ responses => {
      kind := responses.kind
      resume := fun thrown w =>
        ((responses.resume thrown w.rest).1, { w with rest := (responses.resume thrown w.rest).2 })
      close := beside responses.close }
  | .bidiStream _ _ answering => answering.responses
  | _ => { kind := .iterator false, resume := fun _ w => (.pending, w), close := Prog.stuck }

end Method

/-- The responses that a method is called for. -/
inductive Fits : Method p ω β α → Plan α → Prop where
  | refused {method : Method p ω β α} (protocol : Option ConnectTrailersWire.ServerProtocol)
      (hasCtx : Bool) (e : Exc) (isException : e.isException = true) :
      Fits method (.refused protocol hasCtx e isException)
  | get (server : Server β) (params : Multimap String String) (function : β → Prog ω Exc α)
      (u : UnaryResponse α) : Fits (.get server params function) (.unary u)
  | post (server : Server β) (function : β → Prog ω Exc α) (u : UnaryResponse α) :
      Fits (.post server function) (.unary u)
  | unary (cfg : ReaderConfig β) (function : β → Prog ω Exc α) {st : StreamResponse α}
      (h : st.endpoint = .unary) : Fits (.unary cfg function) (.stream st)
  | clientStream {cfg : ReaderConfig β} (handler : Reading p ω β α cfg) {st : StreamResponse α}
      (h : st.endpoint = .clientStream) : Fits (.clientStream cfg handler) (.stream st)
  | serverStream (cfg : ReaderConfig β) (function : β → Prog ω Exc Unit)
      (responses : Responses ω α) {st : StreamResponse α}
      (h : st.endpoint = .serverStream) : Fits (.serverStream cfg function responses) (.stream st)
  | bidiStream {cfg : ReaderConfig β} (handler : Reading p ω β Unit cfg)
      (answering : Answering p ω β α cfg) {st : StreamResponse α}
      (h : st.endpoint = .bidiStream) :
      Fits (.bidiStream cfg handler answering) (.stream st)

/-- The environment of a request: `base`, but for the handler, which is the method's,
    and for the body. -/
def app (base : App p ω ι τ α) (serverProtocol : String) (environ : Environ)
    (method : Method p ω β α) : App p (World p ω β) ι τ α where
  interceptors := base.interceptors
  ctx := fun w => base.ctx w.rest
  onStart := fun i => beside (base.onStart i)
  onEnd := fun i token error => beside (base.onEnd i token error)
  callUnary := method.callUnary environ
  callSingle := method.callSingle
  openStream := method.openStream
  responses := method.responses
  isNone := base.isNone
  startResponse := fun status headers => beside (base.startResponse status headers)
  sendTrailers := fun trailers => beside (base.sendTrailers trailers)
  drainRequestBody := Prog.modify fun w =>
    { w with body := drainRequestBody serverProtocol w.body }
  writeError := fun e => beside (base.writeError e)

/-! ## What every part keeps -/

/-- A relation between the worlds before and after each part of a method. -/
structure Moves (R : World p ω β → World p ω β → Prop) (environ : Environ)
    (method : Method p ω β α) : Prop where
  rest       : ∀ w r, R w { w with rest := r }
  callUnary  : ∀ w, R w (method.callUnary environ w).2
  callSingle : ∀ w, R w (method.callSingle w).2
  openStream : ∀ w, R w (method.openStream w).2
  resume     : ∀ thrown w, R w (method.responses.resume thrown w).2
  close      : ∀ w, R w (method.responses.close w).2

section Hands

variable (environ : Environ)

omit environ in
/-- Two parts after each other. -/
theorem moves_bind {R : World p ω β → World p ω β → Prop}
    (htrans : ∀ {w w' w''}, R w w' → R w' w'' → R w w'') {x : Prog (World p ω β) Exc γ}
    {f : γ → Prog (World p ω β) Exc α} (hx : ∀ w, R w (x w).2) (hf : ∀ a w, R w (f a w).2)
    (w : World p ω β) : R w ((x >>= f) w).2 := by
  have hw := hx w
  rw [Prog.bind_apply]
  cases ho : x w with
  | mk o w' =>
      rw [ho] at hw
      cases o with
      | ret a => exact htrans hw (hf a w')
      | raise e => exact hw
      | stuck => exact hw

theorem hands_request (function : β → Prog ω Exc α)
    {take : RequestBody → Except Exc β × RequestBody} (htake : ∀ b, ∃ log, Reads b log (take b).2)
    (w : World p ω β) :
    Handed w ((readRequest take >>= fun request => beside (function request)) w).2 :=
  moves_bind (R := Handed) Handed.trans (readRequest_hands htake) (fun _ w => handed_rest w _) w

/-- Every part of a method reads, and does nothing else to the body. -/
theorem moves_handed (method : Method p ω β α) : Moves Handed environ method where
  rest := handed_rest
  callUnary := by
    intro w
    cases method with
    | get server params function =>
        refine moves_bind (R := Handed) Handed.trans (fun w => ?_) (fun _ w => handed_rest w _) w
        cases handleGetRequest server params <;> exact handed_rest w w.rest
    | post server function => exact hands_request function (takePost_reads server environ) w
    | _ => exact handed_rest w w.rest
  callSingle := by
    intro w
    cases method with
    | unary cfg function => exact hands_request function (takeSingle_reads p cfg) w
    | clientStream cfg handler => exact (handler.pulls w).handed
    | _ => exact handed_rest w w.rest
  openStream := by
    intro w
    cases method with
    | serverStream cfg function responses => exact hands_request function (takeSingle_reads p cfg) w
    | bidiStream cfg handler answering => exact (handler.pulls w).handed
    | _ => exact handed_rest w w.rest
  resume := by
    intro thrown w
    cases method with
    | serverStream cfg function responses => exact handed_rest w _
    | bidiStream cfg handler answering => exact (answering.pulls thrown w).handed
    | _ => exact handed_rest w w.rest
  close := by
    intro w
    cases method with
    | serverStream cfg function responses => exact handed_rest w _
    | bidiStream cfg handler answering => exact (answering.closes w).handed
    | _ => exact handed_rest w w.rest

/-- With a request stream it calls `next`. -/
theorem moves_clientStream {cfg : ReaderConfig β} (handler : Reading p ω β α cfg) :
    Moves (Pulled cfg) environ (.clientStream cfg handler) where
  rest := fun w r => .rest (.refl w) r
  callUnary := .refl
  callSingle := handler.pulls
  openStream := .refl
  resume := fun _ w => .refl w
  close := .refl

theorem moves_bidiStream {cfg : ReaderConfig β} (handler : Reading p ω β Unit cfg)
    (answering : Answering p ω β α cfg) :
    Moves (Pulled cfg) environ (.bidiStream cfg handler answering) where
  rest := fun w r => .rest (.refl w) r
  callUnary := .refl
  callSingle := .refl
  openStream := handler.pulls
  resume := answering.pulls
  close := answering.closes

end Hands

section Kept

variable (base : App p ω ι τ α) (serverProtocol : String) {environ : Environ}
  {method : Method p ω β α} {K : World p ω β → Prop} {R : World p ω β → World p ω β → Prop}

/-- What its moves keep, every part keeps. -/
theorem kept_app (hmoves : Moves R environ method) (hR : ∀ w w', R w w' → K w → K w') :
    Kept K (app base serverProtocol environ method) where
  onStart := fun _ w => hR _ _ (hmoves.rest w _)
  onEnd := fun _ _ _ w => hR _ _ (hmoves.rest w _)
  callUnary := fun w => hR _ _ (hmoves.callUnary w)
  callSingle := fun w => hR _ _ (hmoves.callSingle w)
  openStream := fun w => hR _ _ (hmoves.openStream w)
  resume := fun thrown w => hR _ _ (hmoves.resume thrown w)
  close := fun w => hR _ _ (hmoves.close w)
  sendTrailers := fun _ w => hR _ _ (hmoves.rest w _)
  writeError := fun _ w => hR _ _ (hmoves.rest w _)

theorem startKept_app (hmoves : Moves R environ method) (hR : ∀ w w', R w w' → K w → K w') :
    StartKept K (app base serverProtocol environ method) :=
  fun _ _ w => hR _ _ (hmoves.rest w _)

/-- A GET leaves the body alone. -/
theorem kept_get (environ : Environ) (server : Server β) (params : Multimap String String)
    (function : β → Prog ω Exc α) (b : RequestBody) :
    Kept (fun w => w.body = b) (app base serverProtocol environ (.get server params function)) where
  onStart := fun _ _ h => h
  onEnd := fun _ _ _ _ h => h
  callUnary := by
    intro w h
    show (((Prog.ofExcept (handleGetRequest server params) : Prog (World p ω β) Exc β) >>=
      fun request => beside (function request)) w).2.body = b
    cases handleGetRequest server params with
    | ok request => exact h
    | error e => exact h
  callSingle := fun _ h => h
  openStream := fun _ h => h
  resume := fun _ _ h => h
  close := fun _ h => h
  sendTrailers := fun _ _ h => h
  writeError := fun _ _ h => h

end Kept

/-- The content length is what is left to be read. -/
def Intact (w : World p ω β) : Prop := w.body.Honest

theorem Intact.hands {w w' : World p ω β} (hw : Handed w w') (h : Intact w) : Intact w' := by
  obtain ⟨log, hlog⟩ := hw
  exact hlog.honest h

/-- All of the body was read. -/
def Empty (w : World p ω β) : Prop := Emptied w.body

theorem Empty.hands {w w' : World p ω β} (hw : Handed w w') (h : Empty w) : Empty w' := by
  obtain ⟨log, hlog⟩ := hw
  exact hlog.emptied h

/-- Wherever a request has got to. -/
def Sound (w : World p ω β) : Prop := Intact w ∨ Empty w

theorem Sound.hands {w w' : World p ω β} (hw : Handed w w') (h : Sound w) : Sound w' :=
  h.imp (Intact.hands hw) (Empty.hands hw)

/-- The body is what the calls of `next` left of the one that arrived, and the stream as
    they left it, or closed. -/
def Pulling (cfg : ReaderConfig β) (b : RequestBody) (w : World p ω β) : Prop :=
  ∃ stream, (RequestStream.pull cfg)^[w.pulls] (.new p β, b) = (stream, w.body)
    ∧ (w.stream = stream ∨ w.stream.ended = true)

theorem Pulling.pulled {cfg : ReaderConfig β} {b : RequestBody} {w w' : World p ω β}
    (hw : Pulled cfg w w') (h : Pulling cfg b w) : Pulling cfg b w' := by
  induction hw with
  | refl => exact h
  | rest hw r ih => exact ih
  | @next w' hw ih =>
      obtain ⟨stream, hpulls, hstream⟩ := ih
      by_cases hended : w'.stream.ended = true
      · -- Nothing is counted once the stream has ended.
        rw [World.pull, if_pos hended]
        exact ⟨stream, hpulls, hstream⟩
      · obtain rfl := hstream.resolve_right hended
        rw [World.pull, if_neg hended]
        refine ⟨_, ?_, Or.inl rfl⟩
        rw [Function.iterate_succ_apply', hpulls]
  | close hw ih =>
      obtain ⟨stream, hpulls, -⟩ := ih
      exact ⟨stream, hpulls, Or.inr rfl⟩

section States

variable (base : App p ω ι τ α) (serverProtocol : String) (environ : Environ)
  (method : Method p ω β α)

theorem kept_intact : Kept Intact (app base serverProtocol environ method) :=
  kept_app base serverProtocol (moves_handed environ method) fun _ _ hw h => h.hands hw

theorem kept_empty : Kept Empty (app base serverProtocol environ method) :=
  kept_app base serverProtocol (moves_handed environ method) fun _ _ hw h => h.hands hw

theorem kept_sound : Kept Sound (app base serverProtocol environ method) :=
  kept_app base serverProtocol (moves_handed environ method) fun _ _ hw h => h.hands hw

theorem startKept_empty : StartKept Empty (app base serverProtocol environ method) :=
  startKept_app base serverProtocol (moves_handed environ method) fun _ _ hw h => h.hands hw

theorem startKept_sound : StartKept Sound (app base serverProtocol environ method) :=
  startKept_app base serverProtocol (moves_handed environ method) fun _ _ hw h => h.hands hw

variable {method}

theorem kept_pulling {cfg : ReaderConfig β} (hmoves : Moves (Pulled cfg) environ method)
    (b : RequestBody) : Kept (Pulling cfg b) (app base serverProtocol environ method) :=
  kept_app base serverProtocol hmoves fun _ _ hw h => h.pulled hw

theorem startKept_pulling {cfg : ReaderConfig β} (hmoves : Moves (Pulled cfg) environ method)
    (b : RequestBody) : StartKept (Pulling cfg b) (app base serverProtocol environ method) :=
  startKept_app base serverProtocol hmoves fun _ _ hw h => h.pulled hw

end States

/-! ## Draining -/

/-- After a program that drains the body if it returns. -/
def drained : Post (Run (World p ω β) ι τ α) Exc γ :=
  ⟨fun _ s => Empty s.world, fun _ s => Sound s.world, fun _ => True⟩

section Drained

variable (base : App p ω ι τ α) {serverProtocol : String}
  (hhttp : serverProtocol.startsWith "HTTP/1" = true) (environ : Environ)
  (method : Method p ω β α)

theorem drained_of_empty {x : Prog (Run (World p ω β) ι τ α) Exc γ} (hx : Keeps Empty x) :
    Spec (fun s => Empty s.world) x drained :=
  hx.weaken (fun _ h => h) (fun _ _ h => h) (fun _ _ h => Or.inr h) fun _ h => h

/-- What comes before the draining. -/
theorem drained_bind {δ : Type} {x : Prog (Run (World p ω β) ι τ α) Exc γ}
    {f : γ → Prog (Run (World p ω β) ι τ α) Exc δ} (hx : Keeps Sound x)
    (hf : ∀ a, Spec (fun s => Sound s.world) (f a) drained) :
    Spec (fun s => Sound s.world) (x >>= f) drained :=
  Spec.bind _ hx hf

include hhttp

theorem drain_empties {w : World p ω β} (h : Sound w) :
    Empty ((app base serverProtocol environ method).drainRequestBody w).2 := by
  rcases h with h | h
  · exact drainRequestBody_emptied hhttp h
  · obtain ⟨log, hlog⟩ := drainRequestBody_reads serverProtocol w.body
    exact hlog.reads.emptied h

theorem drained_drain :
    Spec (fun s : Run (World p ω β) ι τ α => Sound s.world)
      (await (app base serverProtocol environ method).drainRequestBody) drained :=
  fun _ h => drain_empties base hhttp environ method h

/-- The `except` clauses of `_handle_stream`. -/
theorem drained_recover (st : StreamResponse α) (e : Exc) :
    Spec (fun s => Sound s.world)
      (ConnectStart.recover (app base serverProtocol environ method) st e
        >>= ConnectStart.finish (app base serverProtocol environ method) st) drained := by
  have hsound := kept_sound base serverProtocol environ method
  have hempty := kept_empty base serverProtocol environ method
  have hstart := startKept_empty base serverProtocol environ method
  refine Spec.bind (fun _ s => Empty s.world) ?_ fun begun => drained_of_empty ?_
  · rw [ConnectStart.recover]
    by_cases he : e.isException = true
    · rw [if_pos he]
      refine drained_bind (keeps_endRun hsound _) fun error => ?_
      cases error with
      | none => exact Spec.raise fun _ h => h
      | some error =>
          refine Spec.bind _ (drained_drain base hhttp environ method) fun _ => ?_
          exact drained_of_empty (Invariant.bind (keeps_maybeLogException hempty error) fun _ =>
            Invariant.bind (keeps_sendHeaders hstart st) fun _ => Invariant.pure _)
    · rw [if_neg he]
      exact drained_bind (keeps_endRun hsound _) fun _ => Spec.raise fun _ h => h
  · cases begun with
    | message first => exact Invariant.pure _
    | ending error =>
        exact Invariant.bind (keeps_endResponse hempty st error) fun _ => Invariant.pure _

/-- The one of `__call__`. -/
theorem drained_answer (plan : Plan α) (e : Exc) :
    Spec (fun s => Sound s.world)
      (ConnectStart.answer (app base serverProtocol environ method) plan e) drained := by
  have hempty := kept_empty base serverProtocol environ method
  have hstart := startKept_empty base serverProtocol environ method
  rw [ConnectStart.answer]
  by_cases he : e.isException = true
  · rw [if_pos he]
    refine Spec.bind _ (drained_drain base hhttp environ method) fun _ => ?_
    exact drained_of_empty (Invariant.bind (keeps_maybeLogException hempty e) fun _ =>
      Invariant.bind (keeps_handleError hstart e _ _) fun _ => Invariant.pure _)
  · rw [if_neg he]
    exact Spec.raise fun _ h => h

/-- Those of `_response_stream`, and what follows them. -/
theorem drained_streamExcept (st : StreamResponse α) (e : Exc) :
    Spec (fun s => Sound s.world)
      (Prog.always (streamExcept (app base serverProtocol environ method) e)
          (streamFinally (app base serverProtocol environ method) st)
        >>= fun _ => streamEnd (app base serverProtocol environ method) st) drained := by
  have hsound := kept_sound base serverProtocol environ method
  have hempty := kept_empty base serverProtocol environ method
  refine Spec.bind (fun _ s => Empty s.world) (Spec.always (fun _ s => Empty s.world)
    (fun _ s => Sound s.world) ?_ (fun _ => drained_of_empty (keeps_streamFinally hempty st))
    fun _ => keeps_streamFinally hsound st) fun _ => drained_of_empty (keeps_streamEnd hempty st)
  rw [streamExcept]
  by_cases he : e.isException = true
  · rw [if_pos he]
    exact drained_bind (keeps_modify fun _ => rfl) fun _ =>
      drained_drain base hhttp environ method
  · rw [if_neg he]
    exact drained_bind (keeps_modify fun _ => rfl) fun _ => Spec.raise fun _ h => h

end Drained

/-! ## Where an exception is caught -/

/-- An exception reaches one of the `except` clauses: the one of `__call__`, of
    `_handle_stream` or of `_response_stream`.  The app server takes `k` chunks after the
    first. -/
inductive Excepted (app : App p ω ι τ α) (k : Nat) (s : Run ω ι τ α) : Plan α → Prop where
  | refused (protocol : Option ConnectTrailersWire.ServerProtocol) (hasCtx : Bool) (e : Exc)
      (isException : e.isException = true) :
      Excepted app k s (.refused protocol hasCtx e isException)
  | unary {u : UnaryResponse α} {e : Exc} {s' : Run ω ι τ α}
      (h : handleUnary app u s = (.raise e, s')) : Excepted app k s (.unary u)
  | opening {st : StreamResponse α} {e : Exc} {s' : Run ω ι τ α}
      (h : streamBody app st s = (.raise e, s')) : Excepted app k s (.stream st)
  | streaming {st st' : StreamResponse α} {first : α} {e : Exc} {s' s'' : Run ω ι τ α}
      (h : streamBody app st s = (.ret (.generator st' first), s'))
      (h' : streamTry app st' first k s' = (.raise e, s'')) : Excepted app k s (.stream st)

/-- A request, up to what `_response_stream` does after an exception or without one. -/
theorem handleRequest_raise {app : App p ω ι τ α} {st : StreamResponse α} {k : Nat}
    {s s' : Run ω ι τ α} {e : Exc} (h : streamBody app st s = (.raise e, s')) :
    handleRequest app (.stream st) k s
      = (Prog.rescue (ConnectStart.recover app st e >>= ConnectStart.finish app st)
          (ConnectStart.answer app (.stream st)) >>= consume app k) s' := by
  rw [handleRequest, ConnectStart.call_eq, ConnectStart.serve, ConnectStart.handleStream_eq,
    ← ConnectStart.streamBody_eq]
  exact Prog.bind_congr (Prog.rescue_congr (Prog.rescue_raise h))

theorem handleRequest_ret {app : App p ω ι τ α} {st : StreamResponse α} {k : Nat}
    {s s' : Run ω ι τ α} {response : Response α}
    (h : streamBody app st s = (.ret response, s')) :
    handleRequest app (.stream st) k s = consume app k response s' :=
  Prog.bind_ret (Prog.rescue_ret (Prog.rescue_ret h))

theorem handleRequest_unary_raise {app : App p ω ι τ α} {u : UnaryResponse α} {k : Nat}
    {s s' : Run ω ι τ α} {e : Exc} (h : handleUnary app u s = (.raise e, s')) :
    handleRequest app (.unary u) k s
      = (ConnectStart.answer app (.unary u) e >>= consume app k) s' := by
  rw [handleRequest, ConnectStart.call_eq]
  exact Prog.bind_congr (Prog.rescue_raise h)

theorem handleRequest_unary_ret {app : App p ω ι τ α} {u : UnaryResponse α} {k : Nat}
    {s s' : Run ω ι τ α} {response : Response α}
    (h : handleUnary app u s = (.ret response, s')) :
    handleRequest app (.unary u) k s = consume app k response s' :=
  Prog.bind_ret (Prog.rescue_ret h)

section Excepted

variable (base : App p ω ι τ α) {serverProtocol : String}
  (hhttp : serverProtocol.startsWith "HTTP/1" = true) (environ : Environ)
  (method : Method p ω β α) {plan : Plan α} {k : Nat}
  {s s' : Run (World p ω β) ι τ α}

include hhttp

/-- **An exception that is caught drains the body.** -/
theorem empty_of_excepted (hs : Sound s.world)
    (h : Excepted (app base serverProtocol environ method) k s plan)
    (hrun : handleRequest (app base serverProtocol environ method) plan (k + 1) s = (.ret (), s')) :
    Empty s'.world := by
  have hsound := kept_sound base serverProtocol environ method
  have hstart := startKept_sound base serverProtocol environ method
  have hconsume : ∀ response, Spec (fun s => Empty s.world)
      (consume (app base serverProtocol environ method) (k + 1) response) drained :=
    fun response => drained_of_empty (keeps_consume (kept_empty base serverProtocol environ method)
      (fun w hw => drain_empties base hhttp environ method (show Sound w from Or.inr hw))
      (k + 1) response)
  -- The program that is left after the exception, and the state that it is left in.
  suffices hleft : ∃ (x : Prog (Run (World p ω β) ι τ α) Exc Unit) (t : Run (World p ω β) ι τ α),
      handleRequest (app base serverProtocol environ method) plan (k + 1) s = x t
        ∧ Sound t.world ∧ Spec (fun s => Sound s.world) x drained by
    obtain ⟨x, t, heq, ht, hx⟩ := hleft
    have hend := hx t ht
    rw [← heq, hrun] at hend
    exact hend
  cases h with
  | refused protocol hasCtx e isException =>
      exact ⟨_, s, rfl, hs, Spec.bind _ (drained_answer base hhttp environ method
        (.refused protocol hasCtx e isException) e) hconsume⟩
  | @unary u e t h =>
      have ht := keeps_handleUnary hsound hstart u s hs
      rw [h] at ht
      exact ⟨_, t, handleRequest_unary_raise h, ht,
        Spec.bind _ (drained_answer base hhttp environ method _ e) hconsume⟩
  | @opening st e t h =>
      have ht := keeps_streamBody hsound hstart st s hs
      rw [h] at ht
      exact ⟨_, t, handleRequest_raise h, ht, Spec.bind _ (Spec.rescue _
        (drained_recover base hhttp environ method st e)
          fun e => drained_answer base hhttp environ method _ e) hconsume⟩
  | @streaming st st' first e t t' h h' =>
      have ht := keeps_streamBody hsound hstart st s hs
      rw [h] at ht
      have ht' := keeps_streamTry hsound st' first k t ht
      rw [h'] at ht'
      refine ⟨_, t', (handleRequest_ret h).trans ?_, ht',
        drained_streamExcept base hhttp environ method st' e⟩
      exact Prog.bind_congr (Prog.always_congr (Prog.rescue_raise h'))

end Excepted

/-! ## Where none is -/

section Unexcepted

variable {app : App p ω ι τ α} {k : Nat} {s s' : Run ω ι τ α}

/-- A unary request that returns without an exception. -/
theorem unary_returns {u : UnaryResponse α} (hnot : ¬ Excepted app k s (.unary u))
    (hrun : handleRequest app (.unary u) (k + 1) s = (.ret (), s')) :
    ∃ response t, handleUnary app u s = (.ret response, t)
      ∧ consume app (k + 1) response t = (.ret (), s') := by
  cases hr : handleUnary app u s with
  | mk o t =>
      cases o with
      | ret response => exact ⟨response, t, rfl, (handleRequest_unary_ret hr).symm.trans hrun⟩
      | raise e => exact absurd (.unary hr) hnot
      | stuck =>
          have hstuck : handleRequest app (.unary u) (k + 1) s = (.stuck, t) :=
            Prog.bind_stuck (Prog.rescue_stuck hr)
          rw [hstuck] at hrun
          exact nomatch congrArg Prod.fst hrun

/-- A streamed one, up to its response. -/
theorem stream_returns {st : StreamResponse α} (hnot : ¬ Excepted app k s (.stream st))
    (hrun : handleRequest app (.stream st) (k + 1) s = (.ret (), s')) :
    ∃ response t, streamBody app st s = (.ret response, t)
      ∧ consume app (k + 1) response t = (.ret (), s') := by
  cases hr : streamBody app st s with
  | mk o t =>
      cases o with
      | ret response => exact ⟨response, t, rfl, (handleRequest_ret hr).symm.trans hrun⟩
      | raise e => exact absurd (.opening hr) hnot
      | stuck =>
          have hstuck : handleRequest app (.stream st) (k + 1) s = (.stuck, t) :=
            Prog.bind_stuck (Prog.rescue_stuck (Prog.rescue_stuck hr))
          rw [hstuck] at hrun
          exact nomatch congrArg Prod.fst hrun

/-- And its response. -/
theorem response_returns {st : StreamResponse α} {first : α}
    (hnot : ∀ e t, streamTry app st first k s ≠ (.raise e, t))
    (hrun : consume app (k + 1) (.generator st first) s = (.ret (), s')) :
    ∃ t, streamTry app st first k s = (.ret (), t)
      ∧ (streamFinally app st >>= fun _ => streamEnd app st) t = (.ret (), s') := by
  have heq : consume app (k + 1) (.generator st first) s
      = (Prog.always (Prog.rescue (streamTry app st first k) (streamExcept app))
          (streamFinally app st) >>= fun _ => streamEnd app st) s := rfl
  rw [heq] at hrun
  cases hr : streamTry app st first k s with
  | mk o t =>
      cases o with
      | ret u =>
          exact ⟨t, rfl, (Prog.bind_congr (Prog.always_ret (Prog.rescue_ret hr))).symm.trans hrun⟩
      | raise e => exact absurd hr (hnot e t)
      | stuck =>
          have hstuck : Prog.always (Prog.rescue (streamTry app st first k) (streamExcept app))
              (streamFinally app st) s = (.stuck, t) := by
            rw [Prog.always, Prog.rescue_stuck hr]
          rw [Prog.bind_stuck hstuck] at hrun
          cases hrun

/-- What all parts keep but draining, such a request keeps. -/
theorem stream_keeps {K : ω → Prop} (hkept : Kept K app) (hstart : StartKept K app)
    {st : StreamResponse α} (hnot : ¬ Excepted app k s (.stream st)) (hs : K s.world)
    (hrun : handleRequest app (.stream st) (k + 1) s = (.ret (), s')) : K s'.world := by
  obtain ⟨response, t, hbody, hconsume⟩ := stream_returns hnot hrun
  have ht := keeps_streamBody hkept hstart st s hs
  rw [hbody] at ht
  cases response with
  | list body =>
      have hworld : t.world = s'.world := congrArg (fun r => r.2.world) hconsume
      rw [← hworld]
      exact ht
  | generator st' first =>
      obtain ⟨t', htry, hend⟩ := response_returns
        (fun e t' h => hnot (.streaming hbody h)) hconsume
      have ht' := keeps_streamTry hkept st' first k t ht
      rw [htry] at ht'
      have hs' := Invariant.bind (keeps_streamFinally hkept st')
        (fun _ => keeps_streamEnd hkept st') t' ht'
      rw [hend] at hs'
      exact hs'

end Unexcepted

theorem request_empties {take : RequestBody → Except Exc β × RequestBody}
    {function : β → Prog ω Exc γ} {w w' : World p ω β} {a : γ}
    (htake : ∀ m, (take w.body).1 = .ok m → Emptied (take w.body).2)
    (h : (readRequest take >>= fun request => beside (function request)) w = (.ret a, w')) :
    Empty w' := by
  rw [Prog.bind_apply, readRequest] at h
  cases hm : (take w.body).1 with
  | error e =>
      rw [hm] at h
      exact nomatch congrArg Prod.fst h
  | ok m =>
      rw [hm] at h
      have hbody : (take w.body).2 = w'.body := congrArg (fun r => r.2.body) h
      rw [Empty, ← hbody]
      exact htake m hm

section Method

variable (base : App p ω ι τ α) {serverProtocol : String}
  (hhttp : serverProtocol.startsWith "HTTP/1" = true) {environ : Environ}
  {method : Method p ω β α} {k : Nat} {s s' : Run (World p ω β) ι τ α}

include hhttp

theorem empty_of_consume {response : Response α} (hs : Empty s.world)
    (hrun : consume (app base serverProtocol environ method) k response s = (.ret (), s')) :
    Empty s'.world := by
  have hconsume := keeps_consume (kept_empty base serverProtocol environ method)
    (fun w hw => drain_empties base hhttp environ method (show Sound w from Or.inr hw))
    k response s hs
  rw [hrun] at hconsume
  exact hconsume

/-- A method that takes one request has read all of the body once it has it. -/
theorem empty_of_stream {st : StreamResponse α} (hs : Intact s.world)
    (hsingle : st.endpoint.returnsOne = true → ∀ w, Intact w → ∀ a w',
      method.callSingle w = (.ret a, w') → Empty w')
    (hopen : st.endpoint.returnsOne = false → ∀ w, Intact w → ∀ a w',
      method.openStream w = (.ret a, w') → Empty w')
    (hnot : ¬ Excepted (app base serverProtocol environ method) k s (.stream st))
    (hrun : handleRequest (app base serverProtocol environ method) (.stream st) (k + 1) s
      = (.ret (), s')) : Empty s'.world := by
  obtain ⟨response, t, hbody, hconsume⟩ := stream_returns hnot hrun
  have ht := returning_streamBody (kept_intact base serverProtocol environ method).onStart
    (kept_empty base serverProtocol environ method)
    (startKept_empty base serverProtocol environ method) st hsingle hopen s hs
  rw [hbody] at ht
  exact empty_of_consume base hhttp ht hconsume

/-- A POST request has read all of a body of the declared length. -/
theorem empty_of_post {server : Server β} {function : β → Prog ω Exc α} {u : UnaryResponse α}
    (hs : s.world.body = .fromEnviron environ) (hhonest : (RequestBody.fromEnviron environ).Honest)
    (hlength : declaredLength environ
      = .ok ((RequestBody.fromEnviron environ).stream.data.length : Int))
    (hnot : ¬ Excepted (app base serverProtocol environ (.post server function)) k s (.unary u))
    (hrun : handleRequest (app base serverProtocol environ (.post server function)) (.unary u)
      (k + 1) s = (.ret (), s')) : Empty s'.world := by
  obtain ⟨response, t, hbody, hconsume⟩ := unary_returns hnot hrun
  have hcall : ∀ w : World p ω β, w.body = .fromEnviron environ → ∀ a w',
      (Method.post server function).callUnary environ w = (.ret a, w') → Empty w' := by
    intro w hw a w' h
    refine request_empties (fun m hm => ?_) h
    rw [hw] at hm ⊢
    exact takePost_emptied hhonest hlength hm
  have ht := returning_handleUnary (K := fun w => w.body = .fromEnviron environ)
    (show ∀ i w, w.body = RequestBody.fromEnviron environ →
      ((app base serverProtocol environ (.post server function)).onStart i w).2.body
        = .fromEnviron environ from fun _ _ h => h)
    (kept_empty base serverProtocol environ _) (startKept_empty base serverProtocol environ _) u
    hcall s hs
  rw [hbody] at ht
  exact empty_of_consume base hhttp ht.2 hconsume

end Method

/-- A GET request leaves the body where it was. -/
theorem body_of_get (base : App p ω ι τ α) {serverProtocol : String} {environ : Environ}
    {server : Server β} {params : Multimap String String} {function : β → Prog ω Exc α}
    {u : UnaryResponse α} {k : Nat} {s s' : Run (World p ω β) ι τ α}
    (hnot : ¬ Excepted (app base serverProtocol environ (.get server params function)) k s
      (.unary u))
    (hrun : handleRequest (app base serverProtocol environ (.get server params function))
      (.unary u) (k + 1) s = (.ret (), s')) : s'.world.body = s.world.body := by
  obtain ⟨response, t, hbody, hconsume⟩ := unary_returns hnot hrun
  have hkept := kept_get base serverProtocol environ server params function s.world.body
  have ht := returning_handleUnary hkept.onStart hkept (fun _ _ _ h => h) u
    (fun w hw a w' h => by
      have hw' := hkept.callUnary w hw
      rw [h] at hw'
      exact hw') s rfl
  rw [hbody] at ht
  obtain ⟨⟨body, rfl⟩, ht⟩ := ht
  have hworld : t.world = s'.world := congrArg (fun r => r.2.world) hconsume
  rw [← hworld]
  exact ht

/-- What a method takes where no exception is caught.  With the request stream it depends
    on how often its handler called `next`; a GET takes nothing. -/
def Method.TakesAll (b : RequestBody) (pulls : Nat) : Method p ω β α → Prop
  | .get _ _ _ => Emptied b
  | .post _ _ => True
  | .unary _ _ => True
  | .clientStream cfg _ => ReachLast p cfg (bodyChunks b) pulls
  | .serverStream _ _ _ => True
  | .bidiStream cfg _ _ => ReachLast p cfg (bodyChunks b) pulls

section Exact

variable (base : App p ω ι τ α) {serverProtocol : String}
  (hhttp : serverProtocol.startsWith "HTTP/1" = true) {environ : Environ}
  (hhonest : (RequestBody.fromEnviron environ).Honest)
  (hlength : declaredLength environ = .ok (environ.wsgiInput.data.length : Int))
  {method : Method p ω β α} {plan : Plan α} (hfits : Fits method plan) {k : Nat} {rest : ω}
  {s' : Run (World p ω β) ι τ α}
  (hnot : ¬ Excepted (app base serverProtocol environ method) k (Run.new (World.new p β environ rest))
    plan)
  (hrun : handleRequest (app base serverProtocol environ method) plan (k + 1)
    (Run.new (World.new p β environ rest)) = (.ret (), s'))

include hhttp hhonest hlength hfits hnot hrun

/-- **Without an exception** the body is empty where all of it was taken. -/
theorem empty_iff_takesAll :
    Empty s'.world ↔ method.TakesAll (.fromEnviron environ) s'.world.pulls := by
  have hnew : Intact (World.new p β environ rest) := hhonest
  -- A method that takes one message empties the body with it.
  have hsingle : ∀ {γ : Type} (cfg : ReaderConfig β) (function : β → Prog ω Exc γ)
      (w : World p ω β), Intact w → ∀ a w',
      (readRequest (takeSingle p cfg) >>= fun request => beside (function request)) w
        = (.ret a, w') → Empty w' :=
    fun cfg function w hw a w' h => request_empties (fun m hm => takeSingle_emptied hw hm) h
  -- For any other the calls of `next` count, and nothing else reads.
  have hstreamed : ∀ (st : StreamResponse α) (cfg : ReaderConfig β), plan = .stream st →
      Moves (Pulled cfg) environ method →
      (Empty s'.world ↔ ReachLast p cfg (bodyChunks (.fromEnviron environ)) s'.world.pulls) := by
    rintro st cfg rfl hmoves
    obtain ⟨stream, hpulls, -⟩ := stream_keeps
      (kept_pulling base serverProtocol environ hmoves (.fromEnviron environ))
      (startKept_pulling base serverProtocol environ hmoves (.fromEnviron environ)) hnot
      ⟨.new p β, rfl, Or.inl rfl⟩ hrun
    rw [← pulls_emptied_iff_reachLast hhonest, hpulls]
    exact Iff.rfl
  cases hfits with
  | refused protocol hasCtx e isException =>
      exact absurd (.refused protocol hasCtx e isException) hnot
  | get server params function u =>
      rw [Empty, body_of_get base hnot hrun]
      exact Iff.rfl
  | post server function u =>
      refine iff_of_true (empty_of_post base hhttp rfl hhonest ?_ hnot hrun) trivial
      rw [fromEnviron_stream, hlength]
  | unary cfg function h =>
      have htakes : ∀ w, Intact w → ∀ a w',
          (Method.unary cfg function).callSingle w = (.ret a, w') → Empty w' :=
        hsingle cfg function
      refine iff_of_true (empty_of_stream base hhttp hnew (fun _ => htakes) (fun hopen => ?_)
        hnot hrun) trivial
      rw [h] at hopen
      exact nomatch hopen
  | serverStream cfg function responses h =>
      have htakes : ∀ w, Intact w → ∀ a w',
          (Method.serverStream cfg function responses).openStream w = (.ret a, w') → Empty w' :=
        hsingle cfg function
      refine iff_of_true (empty_of_stream base hhttp hnew (fun hone => ?_) (fun _ => htakes)
        hnot hrun) trivial
      rw [h] at hone
      exact nomatch hone
  | clientStream handler h => exact hstreamed _ _ rfl (moves_clientStream environ handler)
  | bidiStream handler answering h =>
      exact hstreamed _ _ rfl (moves_bidiStream environ handler answering)

end Exact

/-- **WHAT IS LEFT OF A REQUEST BODY.**  On HTTP/1, when the response of a request has been
    exhausted, all of its body has been read exactly where an exception was caught, or one
    request was read from it, or nothing was sent with a GET, or the handler that has the
    request stream asked for more messages than end before the last chunk. -/
theorem body_emptied_iff (base : App p ω ι τ α) {serverProtocol : String}
    (hhttp : serverProtocol.startsWith "HTTP/1" = true) {environ : Environ} {text : String}
    {length : Nat} (hlength : environ.contentLength = some text)
    (hint : int text = .ok (length : Int)) (hinput : environ.wsgiInput.data.length = length)
    {method : Method p ω β α} {plan : Plan α} (hfits : Fits method plan) {k : Nat} {rest : ω}
    {s' : Run (World p ω β) ι τ α}
    (hrun : handleRequest (app base serverProtocol environ method) plan (k + 1)
      (Run.new (World.new p β environ rest)) = (.ret (), s')) :
    s'.world.body.stream.data = []
      ↔ Excepted (app base serverProtocol environ method) k (Run.new (World.new p β environ rest)) plan
        ∨ method.TakesAll (.fromEnviron environ) s'.world.pulls := by
  have htruthful : Truthful environ.contentLength environ.wsgiInput.data := by
    intro t ht
    rw [hlength] at ht
    rw [← Option.some.inj ht, hint, hinput]
    exact Or.inr rfl
  have hhonest := (fromEnviron_honest htruthful).1
  have hdeclared : declaredLength environ = .ok (environ.wsgiInput.data.length : Int) := by
    rw [hinput]
    exact declaredLength_of_int hlength hint
  have hnew : Sound (World.new p β environ rest) := Or.inl hhonest
  by_cases hexcepted : Excepted (app base serverProtocol environ method) k
      (Run.new (World.new p β environ rest)) plan
  · exact iff_of_true (empty_of_excepted base hhttp environ method hnew hexcepted hrun)
      (Or.inl hexcepted)
  · exact (empty_iff_takesAll base hhttp hhonest hdeclared hfits hexcepted hrun).trans
      (or_iff_right hexcepted).symm

/-- Five bytes of a body. -/
def fiveBytes : Environ := ⟨some "5", none, [1, 2, 3, 4, 5], fun _ => 0⟩

/-- A handler that returns without having looked at its request stream. -/
def unreading : Method Platform.plain Unit Bytes Bytes :=
  .clientStream ⟨Codec.raw, .identity, none⟩ ⟨pure [7], .refl⟩

/-- Its responses. -/
def connectStream : Plan Bytes := .stream ⟨.connect, Codec.raw, .identity, .clientStream, .ok ()⟩

/-- The request for it, as it arrives. -/
def arrived : Run (World Platform.plain Unit Bytes) Unit Unit Bytes :=
  Run.new (World.new Platform.plain Bytes fiveBytes ())

/-- A request for it, and what becomes of it: two chunks are the whole response. -/
theorem unreading_leaves :
    Fits unreading connectStream
    ∧ ∃ s', handleRequest (app (ConnectStart.emptyStream false) "HTTP/1.1" fiveBytes unreading)
        connectStream 3 arrived = (.ret (), s')
      ∧ s'.chunks.length = 2 ∧ s'.world.body.stream.data = [1, 2, 3, 4, 5] :=
  ⟨.clientStream _ rfl, _, rfl, rfl, rfl⟩

/-- No exception was caught, and no message was asked for. -/
theorem body_emptied_unreading :
    ¬ (Excepted (app (ConnectStart.emptyStream false) "HTTP/1.1" fiveBytes unreading) 2 arrived
        connectStream
      ∨ unreading.TakesAll (.fromEnviron fiveBytes) 0) := by
  intro h
  have hhttp : "HTTP/1.1".startsWith "HTTP/1" = true := String.startsWith_string_iff.mpr (by decide)
  have hlength : fiveBytes.contentLength = some "5" := rfl
  have hint : int "5" = .ok ((5 : Nat) : Int) := by decide
  have hfits : Fits unreading connectStream := .clientStream _ rfl
  have hrun : handleRequest (app (ConnectStart.emptyStream false) "HTTP/1.1" fiveBytes unreading)
      connectStream 3 arrived = (.ret (), _) := rfl
  have hempty := (body_emptied_iff (ConnectStart.emptyStream false) hhttp hlength hint rfl hfits
    hrun).mpr h
  exact nomatch hempty

end ConnectDrain
