import ConnectPy.WsgiRequestProofs

/-! # What a WSGI request keeps of the world around it

    A request changes the state of its environment only by calling it.  So what every
    call keeps the whole request keeps (`Kept`), however it ends.  There is one lemma a
    function.  `start_response` and draining are left out of `Kept`: some of what is
    kept otherwise these two change, so the functions that call them ask for them. -/

namespace ConnectWsgiWorld

open Utf8 (Bytes)
open Effect
open ConnectErrors ConnectPlatform ConnectTrailersWire
open ConnectAsgi (Plan StreamResponse UnaryResponse)
open ConnectWsgi

variable {p : Platform} {ω ι τ α β : Type}

/-- However the program ends, `K` still holds of the world. -/
abbrev Keeps (K : ω → Prop) (x : Prog (Run ω ι τ α) Exc β) : Prop :=
  Invariant (fun s => K s.world) (fun _ => True) x

/-- Every call but `start_response` and draining keeps `K`. -/
structure Kept (K : ω → Prop) (app : App p ω ι τ α) : Prop where
  onStart      : ∀ i w, K w → K (app.onStart i w).2
  onEnd        : ∀ i token error w, K w → K (app.onEnd i token error w).2
  callUnary    : ∀ w, K w → K (app.callUnary w).2
  callSingle   : ∀ w, K w → K (app.callSingle w).2
  openStream   : ∀ w, K w → K (app.openStream w).2
  resume       : ∀ thrown w, K w → K (app.responses.resume thrown w).2
  close        : ∀ w, K w → K (app.responses.close w).2
  sendTrailers : ∀ trailers w, K w → K (app.sendTrailers trailers w).2
  writeError   : ∀ e w, K w → K (app.writeError e w).2

/-- So does `start_response`. -/
def StartKept (K : ω → Prop) (app : App p ω ι τ α) : Prop :=
  ∀ status headers w, K w → K (app.startResponse status headers w).2

variable {K : ω → Prop} {app : App p ω ι τ α}

/-- What a call keeps, awaiting it keeps. -/
theorem keeps_await {x : Prog ω Exc β} (h : ∀ w, K w → K (x w).2) :
    Keeps K (await x : Prog (Run ω ι τ α) Exc β) :=
  Invariant.of_state (fun s => h s.world) fun _ _ => trivial

/-- A change of the run beside the world. -/
theorem keeps_modify {f : Run ω ι τ α → Run ω ι τ α} (h : ∀ s, (f s).world = s.world) :
    Keeps K (Prog.modify f : Prog (Run ω ι τ α) Exc Unit) :=
  Invariant.modify fun s hs => (h s).symm ▸ hs

/-- Leaving the iterator forgets it and touches nothing else. -/
theorem leave_world (kind : Kind) (s : Run ω ι τ α) : (leave kind s).world = s.world := by
  cases kind <;> rfl

/-! ## Up to the response -/

/-- The interceptors that start, up to the one that raises. -/
theorem keeps_startRun (h : ∀ i w, K w → K (app.onStart i w).2) : Keeps K (startRun app) := by
  rw [startRun]
  induction app.interceptors with
  | nil => exact Invariant.pure ()
  | cons i is ih =>
      exact Invariant.bind (keeps_await (h i)) fun _ =>
        Invariant.bind (keeps_modify fun _ => rfl) fun _ => ih

section Kept

variable (h : Kept K app) (st : StreamResponse α)

include h

/-- What `end` raises is no exception. -/
theorem spec_endLoop (stack : List (ι × τ)) (error : Option Exc) :
    Spec (fun s => K s.world) (endLoop app stack error)
      ⟨fun _ s => K s.world, fun e s => e.isException = false ∧ K s.world, fun _ => True⟩ := by
  induction stack generalizing error with
  | nil => exact Spec.pure fun _ hs => hs
  | cons hook stack ih =>
      obtain ⟨i, token⟩ := hook
      refine Spec.bind (fun _ s => K s.world) (Spec.modify fun _ hs => hs) fun _ => ?_
      refine Spec.bind (fun _ s => K s.world) (Spec.attempt ((keeps_await
        (h.onEnd i token error)).weaken (fun _ hs => hs) (fun _ _ hs => hs) (fun _ _ hs => hs)
          fun _ hs => hs)) fun outcome => ?_
      cases outcome with
      | ok u => exact ih error
      | error e =>
          by_cases he : e.isException = true
          · dsimp only
            rw [if_pos he]
            exact ih (some e)
          · dsimp only
            rw [if_neg he]
            exact Spec.raise fun _ hs => ⟨Bool.eq_false_iff.mpr he, hs⟩

/-- Nor is what ending the run raises; a run that was ended is left alone. -/
theorem spec_endRun (error : Option Exc) :
    Spec (fun s => K s.world) (endRun app error)
      ⟨fun _ s => K s.world, fun e s => e.isException = false ∧ K s.world, fun _ => True⟩ := by
  refine Spec.get fun s => ?_
  by_cases hended : s.ended = true
  · rw [if_pos hended]
    exact Spec.pure fun _ ht => ht.2
  · rw [if_neg hended]
    exact Spec.bind (fun _ s => K s.world) (Spec.modify fun _ ht => ht.2) fun _ =>
      spec_endLoop h _ error

/-- Ending a run, whatever its interceptors raise. -/
theorem keeps_endRun (error : Option Exc) : Keeps K (endRun app error) :=
  (spec_endRun h error).weaken (fun _ hs => hs) (fun _ _ hs => hs) (fun _ _ hs => hs.2)
    fun _ hs => hs

/-- A step of the handler's iterator. -/
theorem keeps_resume (thrown : Option Exc) : Keeps K (resume app thrown) :=
  Invariant.of_state (fun s => h.resume thrown s.world) fun _ _ => trivial

/-- The next message, also where the iterator ends or raises. -/
theorem keeps_nextMessage : Keeps K (nextMessage app st) := by
  refine Invariant.get fun s => Invariant.ite ?_ (Invariant.ite ?_ (Invariant.pure none))
  · exact Invariant.bind (keeps_modify fun _ => rfl) fun _ => Invariant.pure _
  · refine Invariant.bind (keeps_resume h none) fun resumed => ?_
    cases resumed with
    | yielded message => exact Invariant.pure _
    | returned => exact Invariant.bind (keeps_modify (leave_world _)) fun _ => Invariant.pure _
    | raised e same =>
        exact Invariant.bind (keeps_modify (leave_world _)) fun _ => Invariant.raise _
    | pending => exact Spec.stuck fun _ _ => trivial

/-- The message that is waited for before the response starts. -/
theorem keeps_firstResponse : Keeps K (firstResponse app st) := by
  refine Invariant.bind (keeps_nextMessage h st) fun message => ?_
  cases message with
  | none => exact Invariant.pure _
  | some message => exact Invariant.pure _

/-- The end of the response: data, or trailers that are sent. -/
theorem keeps_endResponse (error : Option Exc) : Keeps K (endResponse app st error) := by
  refine Invariant.get fun s => Invariant.bind (Invariant.ofExcept _) fun message => ?_
  cases message with
  | inl data => exact Invariant.pure _
  | inr trailers =>
      exact Invariant.bind (keeps_await (h.sendTrailers _)) fun _ => Invariant.pure _

/-- An exception is written to the error stream, or not at all. -/
theorem keeps_maybeLogException (e : Exc) :
    Keeps K (maybeLogException app e : Prog (Run ω ι τ α) Exc Unit) :=
  Invariant.ite (Invariant.pure _) (keeps_await (h.writeError e))

/-- A handler that returns one message, or the iterator of many. -/
theorem keeps_openResponses : Keeps K (openResponses app st) := by
  refine Invariant.ite ?_ ?_
  · refine Invariant.bind (keeps_await h.callSingle) fun response => ?_
    refine Invariant.bind (keeps_endRun h none) fun endError => ?_
    cases endError with
    | none => exact keeps_modify fun _ => rfl
    | some e => exact Invariant.raise e
  · exact Invariant.bind (keeps_await h.openStream) fun _ => keeps_modify fun _ => rfl

/-- A generator that is closed runs on, and may yield again. -/
theorem keeps_closeGenerator : Keeps K (closeGenerator app) := by
  refine Invariant.get fun s => Invariant.ite ?_ (Invariant.pure ())
  refine Invariant.bind (keeps_resume h (some generatorExit)) fun resumed => ?_
  cases resumed with
  | yielded message => exact Invariant.raise _
  | returned => exact keeps_modify fun _ => rfl
  | raised e same =>
      exact Invariant.bind (keeps_modify fun _ => rfl) fun _ =>
        Invariant.ite (Invariant.pure ()) (Invariant.raise e)
  | pending => exact Spec.stuck fun _ _ => trivial

/-- `close` of a generator, of another iterator, or of nothing. -/
theorem keeps_closeStream : Keeps K (closeStream app) := by
  unfold closeStream
  split
  · exact keeps_closeGenerator h
  · exact Invariant.bind (keeps_await h.close) fun _ => keeps_modify fun _ => rfl
  · exact Invariant.pure ()

/-- An exception thrown into a generator, which may handle it. -/
theorem keeps_throwInto (error : Exc) : Keeps K (throwInto app error) := by
  refine Invariant.get fun s => Invariant.ite ?_ (Invariant.pure true)
  refine Invariant.bind (keeps_resume h (some error)) fun resumed => ?_
  cases resumed with
  | yielded message => exact Invariant.pure false
  | returned => exact Invariant.bind (keeps_modify fun _ => rfl) fun _ => Invariant.pure true
  | raised e same =>
      exact Invariant.bind (keeps_modify fun _ => rfl) fun _ =>
        Invariant.ite (Invariant.pure true) (Invariant.raise e)
  | pending => exact Spec.stuck fun _ _ => trivial

/-- The stream is left, with an exception to throw into it or with none. -/
theorem keeps_endStream (error : Option Exc) : Keeps K (endStream app st error) := by
  refine Invariant.ite (Invariant.pure ()) ?_
  split
  · exact Invariant.bind (keeps_throwInto h _) fun ended =>
      Invariant.ite (Invariant.pure ()) (keeps_closeStream h)
  · exact keeps_closeStream h

/-- The server may leave the loop after any number of messages. -/
theorem keeps_streamLoop (k : Nat) : Keeps K (streamLoop app st k) := by
  induction k with
  | zero => exact Invariant.raise generatorExit
  | succ k ih =>
      refine Invariant.bind (keeps_nextMessage h st) fun message => ?_
      cases message with
      | none => exact Invariant.pure ()
      | some message =>
          exact Invariant.bind (Invariant.ofExcept _) fun _ =>
            Invariant.bind (keeps_modify fun _ => rfl) fun _ => ih

end Kept

/-! ## Starting a response -/

section Start

variable (hstart : StartKept K app)

include hstart

/-- `start_response` itself. -/
theorem keeps_startResponse (status : Nat) (headers : List (String × String)) :
    Keeps K (startResponse app status headers) :=
  keeps_await (hstart status headers)

/-- The headers of a stream. -/
theorem keeps_sendHeaders (st : StreamResponse α) : Keeps K (sendHeaders app st) :=
  Invariant.get fun _ => keeps_startResponse hstart 200 _

/-- The response to an error, on every way through it. -/
theorem keeps_handleError (exc : Exc) (hasCtx : Bool) (protocol : Option ServerProtocol) :
    Keeps K (handleError app exc hasCtx protocol) := by
  have hreply : ∀ (status : Nat) (headers : List (String × String)) (body : List Bytes),
      Keeps K (startResponse app status headers >>= fun _ => pure body) :=
    fun status headers body => Invariant.bind (keeps_startResponse hstart status headers)
      fun _ => Invariant.pure body
  refine Invariant.get fun s => ?_
  dsimp only
  split
  · exact hreply _ _ _
  · exact hreply _ _ _
  · exact hreply _ _ _

end Start

/-! ## The response -/

/-- The `try` of `_handle_unary`, which keeps an exception. -/
def unaryTry (app : App p ω ι τ α) : Prog (Run ω ι τ α) Exc (Option α) :=
  Prog.rescue
    (do
      startRun app
      let response ← await app.callUnary
      pure (some response))
    fun e =>
      if e.isException then do
        Prog.modify fun s => { s with error := some e }
        pure none
      else do
        Prog.modify fun s => { s with error := some interrupted }
        Prog.raise e

/-- Its `finally` block. -/
def unaryFinally (app : App p ω ι τ α) : Prog (Run ω ι τ α) Exc Unit := do
  let s ← Prog.get
  let error ← endRun app s.error
  Prog.modify fun s => { s with error := error }

/-- What comes after them. -/
def unaryRespond (app : App p ω ι τ α) (u : UnaryResponse α) (response : Option α) :
    Prog (Run ω ι τ α) Exc (Response α) := do
  let s ← Prog.get
  match s.error, response with
  | some e, _ => Prog.raise e
  | none, none => Prog.raise assertionError
  | none, some response =>
      if app.isNone response then Prog.raise assertionError
      else do
        let data ← Prog.ofExcept (u.codec.encode response)
        let resBytes ← Prog.ofExcept (u.compression.compress data)
        let s ← Prog.get
        startResponse app 200 (unaryHeaders u.codec.name u.compression.name
          (app.ctx s.world).responseHeaders (app.ctx s.world).responseTrailers)
        pure (.list [resBytes])

/-- `_handle_unary` by its parts: the `try`, its `finally`, and the response. -/
theorem handleUnary_eq (app : App p ω ι τ α) (u : UnaryResponse α) :
    handleUnary app u = Prog.always (unaryTry app) (unaryFinally app) >>= unaryRespond app u := rfl

/-- The `try` of `_response_stream`. -/
def streamTry (app : App p ω ι τ α) (st : StreamResponse α) (first : α) (k : Nat) :
    Prog (Run ω ι τ α) Exc Unit := do
  let body ← Prog.ofExcept (st.writer.write first)
  deliver body
  streamLoop app st k

/-- Its `except` clauses. -/
def streamExcept (app : App p ω ι τ α) (e : Exc) : Prog (Run ω ι τ α) Exc Unit :=
  if e.isException then do
    Prog.modify fun s => { s with error := some e }
    await app.drainRequestBody
  else do
    Prog.modify fun s => { s with error := some (if isGeneratorExit e
      then .connect .canceled "Client disconnected" else interrupted) }
    Prog.raise e

/-- Its `finally` block. -/
def streamFinally (app : App p ω ι τ α) (st : StreamResponse α) :
    Prog (Run ω ι τ α) Exc Unit := do
  let s ← Prog.get
  endStream app st s.error
  let error ← endRun app s.error
  Prog.modify fun s => { s with error := error }

/-- The end of the response. -/
def streamEnd (app : App p ω ι τ α) (st : StreamResponse α) : Prog (Run ω ι τ α) Exc Unit := do
  let s ← Prog.get
  let chunk ← endResponse app st s.error
  deliver chunk

/-- The generator of a stream by its parts. -/
theorem responseStream_eq (app : App p ω ι τ α) (st : StreamResponse α) (first : α) (k : Nat) :
    responseStream app st first k
      = Prog.always (Prog.rescue (streamTry app st first k) (streamExcept app))
          (streamFinally app st) >>= fun _ => streamEnd app st := rfl

/-- The response to a unary call. -/
theorem keeps_unaryRespond (hstart : StartKept K app) (u : UnaryResponse α) (response : Option α) :
    Keeps K (unaryRespond app u response) := by
  refine Invariant.get fun s => ?_
  cases s.error with
  | some e => exact Invariant.raise e
  | none =>
      cases response with
      | none => exact Invariant.raise _
      | some response =>
          refine Invariant.ite (Invariant.raise _) (Invariant.bind (Invariant.ofExcept _) fun _ =>
            Invariant.bind (Invariant.ofExcept _) fun _ => Invariant.get fun _ =>
              Invariant.bind (keeps_startResponse hstart _ _) fun _ => Invariant.pure _)

section Response

variable (h : Kept K app) (hstart : StartKept K app) (st : StreamResponse α)

include h

/-- The `finally` of a unary call. -/
theorem keeps_unaryFinally : Keeps K (unaryFinally app) :=
  Invariant.get fun _ => Invariant.bind (keeps_endRun h _) fun _ => keeps_modify fun _ => rfl

/-- The `try` of a unary call. -/
theorem keeps_unaryTry : Keeps K (unaryTry app) :=
  Invariant.rescue (Invariant.bind (keeps_startRun h.onStart) fun _ =>
    Invariant.bind (keeps_await h.callUnary) fun _ => Invariant.pure _) fun e =>
      Invariant.ite (Invariant.bind (keeps_modify fun _ => rfl) fun _ => Invariant.pure none)
        (Invariant.bind (keeps_modify fun _ => rfl) fun _ => Invariant.raise e)

/-- The messages of a stream. -/
theorem keeps_streamTry (first : α) (k : Nat) : Keeps K (streamTry app st first k) :=
  Invariant.bind (Invariant.ofExcept _) fun _ =>
    Invariant.bind (keeps_modify fun _ => rfl) fun _ => keeps_streamLoop h st k

/-- The `finally` of a stream. -/
theorem keeps_streamFinally : Keeps K (streamFinally app st) :=
  Invariant.get fun _ => Invariant.bind (keeps_endStream h st _) fun _ =>
    Invariant.bind (keeps_endRun h _) fun _ => keeps_modify fun _ => rfl

/-- What follows the messages of a stream. -/
theorem keeps_streamEnd : Keeps K (streamEnd app st) :=
  Invariant.get fun _ => Invariant.bind (keeps_endResponse h st _) fun _ =>
    keeps_modify fun _ => rfl

/-- What draining keeps too, all of the response keeps. -/
theorem keeps_consume (hdrain : ∀ w, K w → K (app.drainRequestBody w).2) (k : Nat)
    (response : Response α) : Keeps K (consume app k response) := by
  cases response with
  | list body => exact keeps_modify fun _ => rfl
  | generator st first =>
      cases k with
      | zero => exact Invariant.pure ()
      | succ k =>
          have hexcept : ∀ e, Keeps K (streamExcept app e) := fun e =>
            Invariant.ite (Invariant.bind (keeps_modify fun _ => rfl) fun _ =>
              keeps_await hdrain)
              (Invariant.bind (keeps_modify fun _ => rfl) fun _ => Invariant.raise e)
          show Keeps K (responseStream app st first k)
          rw [responseStream_eq]
          exact Invariant.bind (Spec.always (fun _ s => K s.world) (fun _ s => K s.world)
            (Invariant.rescue (keeps_streamTry h st first k) hexcept)
            (fun _ => keeps_streamFinally h st) fun _ => keeps_streamFinally h st)
            fun _ => keeps_streamEnd h st

include hstart

/-- A unary call as a whole. -/
theorem keeps_handleUnary (u : UnaryResponse α) : Keeps K (handleUnary app u) := by
  rw [handleUnary_eq]
  exact Invariant.bind (Spec.always (fun _ s => K s.world) (fun _ s => K s.world)
    (keeps_unaryTry h) (fun _ => keeps_unaryFinally h) fun _ => keeps_unaryFinally h)
    fun response => keeps_unaryRespond hstart u response

/-- A stream as a whole, up to the generator that is returned. -/
theorem keeps_streamBody : Keeps K (streamBody app st) := by
  refine Invariant.bind (keeps_startRun h.onStart) fun _ => ?_
  refine Invariant.bind (Invariant.ofExcept _) fun _ => ?_
  refine Invariant.bind (keeps_openResponses h st) fun _ => ?_
  refine Invariant.bind (keeps_firstResponse h st) fun first => ?_
  refine Invariant.bind (keeps_sendHeaders hstart st) fun _ => ?_
  cases first with
  | none =>
      exact Invariant.bind (keeps_endRun h none) fun error =>
        Invariant.bind (keeps_endResponse h st error) fun _ => Invariant.pure _
  | some first => exact Invariant.pure _

end Response

/-! ## What calling the handler makes of the world -/

/-- Where the program returns, `K` holds of the world. -/
def returning (K : ω → Prop) : Post (Run ω ι τ α) Exc β :=
  ⟨fun _ s => K s.world, fun _ _ => True, fun _ => True⟩

/-- What is kept however a program ends is kept where it returns. -/
theorem Keeps.returning {x : Prog (Run ω ι τ α) Exc β} (h : Keeps K x) :
    Spec (fun s => K s.world) x (returning K) :=
  Spec.weaken h (fun _ hs => hs) (fun _ _ hs => hs) (fun _ _ _ => trivial) fun _ _ => trivial

/-- A call that establishes more where it returns. -/
theorem returning_await {K' : ω → Prop} {x : Prog ω Exc β}
    (h : ∀ w, K w → ∀ a w', x w = (.ret a, w') → K' w') :
    Spec (fun s : Run ω ι τ α => K s.world) (await x) (returning K') := by
  intro s hs
  have hw := h s.world hs
  show (returning K').at (x s.world).1 { s with world := (x s.world).2 }
  cases ho : x s.world with
  | mk o w' =>
      cases o with
      | ret a => exact hw a w' ho
      | raise e => exact trivial
      | stuck => exact trivial

section Call

variable {K' : ω → Prop}

/-- What the handler establishes holds from where it was called. -/
theorem returning_openResponses (h' : Kept K' app) (st : StreamResponse α)
    (hsingle : st.endpoint.returnsOne = true → ∀ w, K w → ∀ a w',
      app.callSingle w = (.ret a, w') → K' w')
    (hopen : st.endpoint.returnsOne = false → ∀ w, K w → ∀ a w',
      app.openStream w = (.ret a, w') → K' w') :
    Spec (fun s => K s.world) (openResponses app st) (returning K') := by
  rw [openResponses]
  by_cases hone : st.endpoint.returnsOne = true
  · rw [if_pos hone]
    refine Spec.bind _ (returning_await (hsingle hone)) fun response => ?_
    refine Spec.bind _ (Keeps.returning (keeps_endRun h' none)) fun endError => ?_
    cases endError with
    | none => exact Spec.modify fun _ hs => hs
    | some e => exact Spec.raise fun _ _ => trivial
  · rw [if_neg hone]
    exact Spec.bind _ (returning_await (hopen (Bool.eq_false_iff.mpr hone))) fun _ =>
      Spec.modify fun _ hs => hs

/-- And so it holds of a stream whose response has started. -/
theorem returning_streamBody (hstart : ∀ i w, K w → K (app.onStart i w).2) (h' : Kept K' app)
    (hstart' : StartKept K' app) (st : StreamResponse α)
    (hsingle : st.endpoint.returnsOne = true → ∀ w, K w → ∀ a w',
      app.callSingle w = (.ret a, w') → K' w')
    (hopen : st.endpoint.returnsOne = false → ∀ w, K w → ∀ a w',
      app.openStream w = (.ret a, w') → K' w') :
    Spec (fun s => K s.world) (streamBody app st) (returning K') := by
  refine Spec.bind _ (Keeps.returning (keeps_startRun hstart)) fun _ => ?_
  refine Spec.bind _ (Keeps.returning (Invariant.ofExcept _)) fun _ => ?_
  refine Spec.bind _ (returning_openResponses h' st hsingle hopen) fun _ => ?_
  refine Spec.bind _ (Keeps.returning (keeps_firstResponse h' st)) fun first => ?_
  refine Spec.bind _ (Keeps.returning (keeps_sendHeaders hstart' st)) fun _ => ?_
  cases first with
  | none =>
      refine Spec.bind _ (Keeps.returning (keeps_endRun h' none)) fun error => ?_
      exact Spec.bind _ (Keeps.returning (keeps_endResponse h' st error)) fun _ =>
        Spec.pure fun _ hs => hs
  | some first => exact Spec.pure fun _ hs => hs

/-- The response that a unary method has, if it has one. -/
theorem returning_unaryTry (hstart : ∀ i w, K w → K (app.onStart i w).2)
    (hcall : ∀ w, K w → ∀ a w', app.callUnary w = (.ret a, w') → K' w') :
    Spec (fun s => K s.world) (unaryTry app)
      ⟨fun response s => response ≠ none → K' s.world, fun _ _ => True, fun _ => True⟩ := by
  refine Spec.rescue (fun _ _ => True) ?_ fun e => ?_
  · refine Spec.bind _ (Keeps.returning (keeps_startRun hstart)) fun _ => ?_
    exact Spec.bind _ (returning_await hcall) fun _ => Spec.pure fun _ hs _ => hs
  · by_cases he : e.isException = true
    · rw [if_pos he]
      exact Spec.bind (fun _ _ => True) (Spec.modify fun _ _ => trivial) fun _ =>
        Spec.pure fun _ _ hne => absurd rfl hne
    · rw [if_neg he]
      exact Spec.bind (fun _ _ => True) (Spec.modify fun _ _ => trivial) fun _ =>
        Spec.raise fun _ _ => trivial

/-- Ending the run of a call that has a response keeps what the handler did. -/
theorem returning_unaryFinally (h' : Kept K' app) (response : Option α) :
    Spec (fun s => response ≠ none → K' s.world) (unaryFinally app)
      ⟨fun _ s => response ≠ none → K' s.world, fun _ _ => True, fun _ => True⟩ := by
  cases response with
  | none =>
      exact (Spec.ends (fun _ => True) (unaryFinally app)).weaken (fun _ _ => trivial)
        (fun _ _ _ hne => absurd rfl hne) (fun _ _ h => h) fun _ h => h
  | some response =>
      exact (Keeps.returning (keeps_unaryFinally h')).weaken (fun _ hs => hs (by simp))
        (fun _ _ hs _ => hs) (fun _ _ h => h) fun _ h => h

/-- A unary call with a response ends in a list, and with what the handler did. -/
theorem returning_unaryRespond (hstart' : StartKept K' app) (u : UnaryResponse α)
    (response : Option α) :
    Spec (fun s => response ≠ none → K' s.world) (unaryRespond app u response)
      ⟨fun r s => (∃ body, r = .list body) ∧ K' s.world, fun _ _ => True, fun _ => True⟩ := by
  refine Spec.get fun s => ?_
  cases s.error with
  | some e => exact Spec.raise fun _ _ => trivial
  | none =>
      cases response with
      | none => exact Spec.raise fun _ _ => trivial
      | some response =>
          refine Spec.pre ?_ fun t (ht : t = s ∧ _) => ht.2 (by simp)
          dsimp only
          split
          · exact Spec.raise fun _ _ => trivial
          · refine Spec.bind _ (Keeps.returning (Invariant.ofExcept _)) fun data => ?_
            refine Spec.bind _ (Keeps.returning (Invariant.ofExcept _)) fun resBytes => ?_
            refine Spec.get fun t => Spec.pre ?_ fun _ (hs : _ ∧ K' _) => hs.2
            exact Spec.bind _ (Keeps.returning (keeps_startResponse hstart' _ _)) fun _ =>
              Spec.pure fun _ hs => ⟨⟨_, rfl⟩, hs⟩

/-- A unary method returns when its handler did, and then a list. -/
theorem returning_handleUnary (hstart : ∀ i w, K w → K (app.onStart i w).2) (h' : Kept K' app)
    (hstart' : StartKept K' app) (u : UnaryResponse α)
    (hcall : ∀ w, K w → ∀ a w', app.callUnary w = (.ret a, w') → K' w') :
    Spec (fun s => K s.world) (handleUnary app u)
      ⟨fun r s => (∃ body, r = .list body) ∧ K' s.world, fun _ _ => True, fun _ => True⟩ := by
  rw [handleUnary_eq]
  exact Spec.bind _ (Spec.always _ (fun _ _ => True) (returning_unaryTry hstart hcall)
    (returning_unaryFinally h') fun _ => Spec.ends _ _) (returning_unaryRespond hstart' u)

end Call

end ConnectWsgiWorld
