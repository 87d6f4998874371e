import ConnectPy.AsgiRequestProofs

/-! # What a request leaves behind

    Each function of `_handle_request` is given the states it may start from and
    those it may leave, for the response and for the interceptor run at once.  The
    `finally` block finds a response that has not begun, or is streamed, or was
    spoiled, and makes the best of it (`Finished`).

    Put together, whatever the handler, the interceptors and the app server do, the
    server takes the beginning of a response, and all of one unless something kept
    it from becoming whole (`response_well_formed`); and the interceptors that were
    started are ended before the response is (`interceptors_ended`). -/

namespace ConnectAsgi

open Utf8 (Bytes)
open Effect
open ConnectErrors ConnectPlatform ConnectHeaders ConnectTrailersWire

variable {p : Platform} {ω ι τ α β : Type}

/-! ## Between the sends -/

/-- Returning in `R`, raising in `E`, and leaving the beginning of a response where
    it is being waited for something. -/
def post (R : β → Core ι τ → Prop) (E : Core ι τ → Prop) : Post (Run ω ι τ α) Exc β :=
  ⟨fun a s => R a s.toCore, fun _ s => E s.toCore, fun s => Over s.toCore⟩

/-- `x` keeps the core in `P` however it ends. -/
def Keeps (P : Core ι τ → Prop) (x : Prog (Run ω ι τ α) Exc β) : Prop :=
  Invariant (fun s => P s.toCore) (fun s => Over s.toCore) x

section Steps

variable {P E : Core ι τ → Prop} {R : β → Core ι τ → Prop}

/-- Awaiting a call sends nothing and starts no interceptor. -/
theorem keeps_await (hP : ∀ c, P c → Over c) (x : Prog ω Exc β) :
    Keeps P (await x : Prog (Run ω ι τ α) Exc β) :=
  Invariant.zoom x (fun _ _ h => h) fun s h => hP s.toCore h

/-- What is suppressed leaves the state as the program left it. -/
theorem spec_suppress {x : Prog (Run ω ι τ α) Exc Unit} {Q : Run ω ι τ α → Prop}
    (h : Spec Q x (post (fun _ => P) P)) : Spec Q (suppress x) (post (fun _ => P) P) := by
  refine Spec.rescue (fun _ s => P s.toCore) h ?_
  intro e
  by_cases he : e.isException = true
  · rw [if_pos he]
    exact Spec.pure fun _ h => h
  · rw [if_neg he]
    exact Spec.raise fun _ h => h

/-- So does a cleanup, whatever becomes of it. -/
theorem spec_asyncCleanup (env : Env p ω ι τ α) {x : Prog (Run ω ι τ α) Exc Unit}
    {Q : Run ω ι τ α → Prop} (h : Spec Q x (post (fun _ => P) P)) :
    Spec Q (asyncCleanup env x) (post (fun _ => P) P) := by
  refine Spec.rescue (fun _ s => P s.toCore) h ?_
  intro e
  refine Spec.get fun s => ?_
  cases env.cleanupExit e s.world with
  | none => exact Spec.pure fun _ h => h.2
  | some e' => exact Spec.raise fun _ h => h.2

/-- Building a part of the response sends nothing, and a failure leaves its mark. -/
theorem spec_build {K X : Core ι τ → Prop} (hK : AboutHooks K) (hX : AboutSends X)
    (r : Except Exc β) :
    Spec (fun s : Run ω ι τ α => K s.toCore ∧ X s.toCore) (build r)
      (post (fun a c => r = .ok a ∧ K c ∧ X c) fun c => K c ∧ X c ∧ c.Troubled) := by
  cases r with
  | ok a => exact Spec.pure fun _ h => ⟨rfl, h⟩
  | error e =>
      refine Spec.bind (fun _ s => K s.toCore ∧ X s.toCore ∧ s.toCore.Troubled) ?_
        fun _ => Spec.raise fun _ h => h
      refine Spec.modify ?_
      rintro s ⟨hk, hx⟩
      refine ⟨hK.build _ hk, hX _ _ (sameSends_log s.toCore _ ?_ s.toCore.hooks) hx, ?_⟩
      · intro x hx
        obtain rfl := List.mem_singleton.mp hx
        rfl
      · exact ⟨.buildRaised, List.mem_append_right _ List.mem_cons_self, rfl⟩

/-! The four kinds of messages. -/

variable {K : Core ι τ → Prop}

/-- The start of a response is sent, or nothing is, or the response is over. -/
theorem spec_sendStart (hK : AboutHooks K) (env : Env p ω ι τ α) (inScope : Bool)
    (status : Nat) (headers : List (Bytes × Bytes)) (trailers : Bool) :
    Spec (fun s => K s.toCore ∧ Idle s.toCore) (send env inScope (.start status headers trailers))
      (post (fun _ c => K c ∧ Streaming trailers c)
        fun c => K c ∧ ((Idle c ∧ (inScope = false → c.Troubled)) ∨ Failed c)) :=
  spec_send (fun _ _ _ hk hs => hK.sent rfl hk hs) fun _ _ _ h hs => Idle.start h hs

/-- A part of the body is sent, or the response is over. -/
theorem spec_sendBody (hK : AboutHooks K) (env : Env p ω ι τ α) (inScope trailers : Bool)
    (b : Bytes) :
    Spec (fun s => K s.toCore ∧ Streaming trailers s.toCore) (send env inScope (.body b true))
      (post (fun _ c => K c ∧ Streaming trailers c)
        fun c => K c ∧ (Streaming trailers c ∨ Failed c)) :=
  spec_send (fun _ _ _ hk hs => hK.sent rfl hk hs) fun _ _ _ h hs => Streaming.body h hs

/-- The last part of the body leaves the trailers to send, or nothing. -/
theorem spec_sendLast (env : Env p ω ι τ α) (inScope streaming trailers : Bool) (b : Bytes) :
    Spec (fun s => Ended env streaming s.toCore ∧ Streaming trailers s.toCore)
      (send env inScope (.body b false))
      (post (fun _ c => Ended env streaming c ∧ Closing trailers c)
        fun c => Ended env streaming c ∧ Spent c) :=
  spec_send (fun _ _ _ hk hs => hk.sent hs) fun _ _ _ h hs => Streaming.last h hs

/-- The trailers complete a response. -/
theorem spec_sendTrailers (env : Env p ω ι τ α) (inScope streaming : Bool)
    (ts : List (Bytes × Bytes)) :
    Spec (fun s => Ended env streaming s.toCore ∧ Closing true s.toCore)
      (send env inScope (.trailers ts))
      (post (fun _ c => Ended env streaming c ∧ Complete c)
        fun c => Ended env streaming c ∧ (Over c ∧ c.Troubled)) :=
  spec_send (fun _ _ _ hk hs => hk.sent hs) fun _ _ _ h hs => Closing.trailers h hs

end Steps

/-! ## The unary response -/

/-- A unary response is sent whole once its interceptors have ended. -/
theorem spec_unarySend (env : Env p ω ι τ α) (u : UnaryResponse α) (responseData : α) :
    Spec (fun s => Ended env false s.toCore ∧ Idle s.toCore) (unarySend env u responseData)
      (post (fun _ c => Ended env false c ∧ Complete c)
        fun c => Ended env false c ∧ (Idle c ∨ Spent c)) := by
  have hK := aboutHooks_ended env false
  -- Encoding and building fail before anything was sent.
  refine Spec.bind (fun _ s => Ended env false s.toCore ∧ Idle s.toCore)
    (Spec.ofExcept (fun _ _ _ h => h) fun _ _ _ h => ⟨h.1, Or.inl h.2⟩) fun data => ?_
  refine Spec.bind (fun _ s => Ended env false s.toCore ∧ Idle s.toCore)
    (Spec.ofExcept (fun _ _ _ h => h) fun _ _ _ h => ⟨h.1, Or.inl h.2⟩) fun resBytes => ?_
  refine Spec.get fun s => ?_
  refine Spec.bind (fun _ s => Ended env false s.toCore ∧ Idle s.toCore)
    ((spec_build hK aboutSends_idle _).weaken (fun _ h => h.2) (fun _ _ h => h.2)
      (fun _ _ h => ⟨h.1, Or.inl h.2.1⟩) fun _ h => h) fun headers => ?_
  -- A start that did not come through can be replaced by an error.
  refine Spec.bind (fun _ s => Ended env false s.toCore ∧ Streaming false s.toCore)
    ((spec_sendStart hK env true 200 headers false).weaken (fun _ h => h) (fun _ _ h => h)
      (fun _ _ h => ⟨h.1, h.2.imp And.left Failed.spent⟩) fun _ h => h) fun _ => ?_
  exact (spec_sendLast env true false false resBytes).weaken (fun _ h => h)
    (fun _ _ h => ⟨h.1, h.2.complete⟩) (fun _ _ h => ⟨h.1, Or.inr h.2⟩)
    fun _ h => h

/-! ## The stream -/

/-- The response has not begun, or goes on. -/
def Going (trailers : Bool) (c : Core ι τ) : Prop := Idle c ∨ Streaming trailers c

/-- The response has not begun, or goes on, or a send has failed. -/
def Stopped (trailers : Bool) (c : Core ι τ) : Prop := Going trailers c ∨ Failed c

/-- In either case only the beginning of a response was taken. -/
theorem Going.over {trailers : Bool} {c : Core ι τ} (h : Going trailers c) : Over c :=
  h.elim Idle.over Streaming.over

theorem Stopped.over {trailers : Bool} {c : Core ι τ} (h : Stopped trailers c) : Over c :=
  h.elim Going.over Failed.toOver

/-- Whether a response goes on is a matter of what was sent. -/
theorem aboutSends_going (trailers : Bool) : AboutSends (Going trailers : Core ι τ → Prop) :=
  aboutSends_idle.or (aboutSends_streaming trailers)

/-- And so is whether it has stopped. -/
theorem aboutSends_stopped (trailers : Bool) : AboutSends (Stopped trailers : Core ι τ → Prop) :=
  (aboutSends_going trailers).or aboutSends_failed

section Stream

variable {K : Core ι τ → Prop}

/-- The headers of a stream start its response. -/
theorem spec_sendHeaders (hK : AboutHooks K) (env : Env p ω ι τ α) (inScope : Bool)
    (st : StreamResponse α) :
    Spec (fun s => K s.toCore ∧ Idle s.toCore) (sendHeaders env inScope st)
      (post (fun _ c => K c ∧ Streaming (usesTrailers st.protocol) c)
        fun c => K c ∧ ((Idle c ∧ (inScope = false → c.Troubled)) ∨ Failed c)) := by
  refine Spec.get fun s => ?_
  refine Spec.bind (fun _ s => K s.toCore ∧ Idle s.toCore)
    ((spec_build hK aboutSends_idle _).weaken (fun _ h => h.2) (fun _ _ h => h.2)
      (fun _ _ h => ⟨h.1, Or.inl ⟨h.2.1, fun _ => h.2.2⟩⟩) fun _ h => h) fun headers => ?_
  exact spec_sendStart hK env inScope 200 headers (usesTrailers st.protocol)

/-- A message of a stream starts the response or goes on with it. -/
theorem spec_writeMessage (hK : AboutHooks K) (env : Env p ω ι τ α) (st : StreamResponse α)
    (message : α) :
    Spec (fun s => K s.toCore ∧ Streaming (usesTrailers st.protocol) s.toCore)
      (writeMessage env st message)
      (post (fun _ c => K c ∧ Going (usesTrailers st.protocol) c)
        fun c => K c ∧ Stopped (usesTrailers st.protocol) c) := by
  refine Spec.bind (fun _ s => K s.toCore ∧ Streaming (usesTrailers st.protocol) s.toCore)
    (Spec.ofExcept (fun _ _ _ h => h) fun _ _ _ h => ⟨h.1, Or.inl (Or.inr h.2)⟩) fun body => ?_
  refine Spec.bind (fun _ s => K s.toCore ∧ Streaming (usesTrailers st.protocol) s.toCore)
    ((spec_sendBody hK env true (usesTrailers st.protocol) body).weaken (fun _ h => h)
      (fun _ _ h => h) (fun _ _ h => ⟨h.1, h.2.imp Or.inr id⟩) fun _ h => h) fun _ => ?_
  exact Spec.pure fun _ h => ⟨h.1, Or.inr h.2⟩

/-- To ask the handler for a message sends nothing. -/
theorem keeps_nextResponse {P : Core ι τ → Prop} (hP : ∀ c, P c → Over c)
    (env : Env p ω ι τ α) (st : StreamResponse α) : Keeps P (nextResponse env st) := by
  refine Invariant.ite (Invariant.get fun s => ?_) (keeps_await hP env.nextResponse)
  exact Invariant.bind (Invariant.modify fun _ h => h) fun _ => Invariant.pure s.response

/-- One message of the handler goes out, or the reason why not comes in. -/
theorem spec_streamRound (hK : AboutHooks K) (env : Env p ω ι τ α) (st : StreamResponse α) :
    Spec (fun s => K s.toCore ∧ Going (usesTrailers st.protocol) s.toCore) (streamRound env st)
      (post (fun _ c => K c ∧ Going (usesTrailers st.protocol) c)
        fun c => K c ∧ Stopped (usesTrailers st.protocol) c) := by
  refine Spec.bind (fun _ s => K s.toCore ∧ Going (usesTrailers st.protocol) s.toCore)
    ((keeps_nextResponse (P := fun c => K c ∧ Going (usesTrailers st.protocol) c)
      (fun _ h => h.2.over) env st).weaken (fun _ h => h) (fun _ _ h => h)
      (fun _ _ h => ⟨h.1, Or.inl h.2⟩) fun _ h => h) ?_
  intro message
  cases message with
  | none => exact Spec.pure fun _ h => h
  | some message =>
      refine Spec.get fun s => ?_
      by_cases hd : env.disconnected s.world = true
      · rw [if_pos hd]
        exact Spec.raise fun _ h => ⟨h.2.1, Or.inl h.2.2⟩
      · rw [if_neg hd]
        by_cases hs : s.started = true
        · rw [if_pos hs]
          refine (spec_writeMessage hK env st message).pre ?_
          -- A response that has started is no longer idle, so `Going` says it is streaming.
          rintro t ⟨rfl, hk, hg⟩
          refine ⟨hk, hg.resolve_left ?_⟩
          intro hidle
          rw [hidle.started] at hs
          exact nomatch hs
        · rw [if_neg hs]
          -- The first message brings the headers with it.
          refine Spec.bind (fun _ s => K s.toCore ∧ Streaming (usesTrailers st.protocol) s.toCore)
            ((spec_sendHeaders hK env true st).weaken ?_ (fun _ _ h => h)
              (fun _ _ h => ⟨h.1, h.2.imp (fun hi => Or.inl hi.1) id⟩) fun _ h => h)
            fun _ => spec_writeMessage hK env st message
          rintro t ⟨rfl, hk, hg⟩
          exact ⟨hk, hg.resolve_right fun hstreaming => hs hstreaming.started⟩

/-- Nor does closing its stream. -/
theorem keeps_closeResponseStream {P : Core ι τ → Prop} (hP : ∀ c, P c → Over c)
    (env : Env p ω ι τ α) (st : StreamResponse α) (error : Option Exc) :
    Keeps P (closeResponseStream env st error) := by
  rw [closeResponseStream.eq_def]
  refine Invariant.ite (Invariant.pure ()) ?_
  cases error with
  | none => exact keeps_await hP env.aclose
  | some e =>
      exact Invariant.ite
        (spec_asyncCleanup env (spec_suppress (keeps_await hP (env.throwInto e))))
        (keeps_await hP (env.throwInto e))

end Stream

/-- Where there is one response, the run is ended before it is written. -/
theorem keeps_openResponses {X : Core ι τ → Prop} (hX : AboutSends X) (hO : ∀ c, X c → Over c)
    (env : Env p ω ι τ α) (st : StreamResponse α) :
    Keeps (fun c => Hooked env true c ∧ X c) (openResponses env st) := by
  rw [openResponses]
  by_cases h : st.endpoint.returnsOne = true
  · rw [if_pos h]
    refine Spec.bind (fun _ s => Hooked env true s.toCore ∧ X s.toCore)
      (keeps_await (P := fun c => Hooked env true c ∧ X c) (fun _ h => hO _ h.2) env.callSingle)
      fun response => ?_
    refine Spec.bind (fun _ s => Hooked env true s.toCore ∧ X s.toCore)
      ((spec_endRun env true true hX none).weaken (fun _ h => ⟨h.2, h.1⟩)
        (fun _ _ h => ⟨h.1.2.hooked, h.1.1⟩) (fun _ _ h => ⟨h.1.2.hooked, h.1.1⟩)
        fun _ h => hO _ h) fun endError => ?_
    cases endError with
    | none => exact Spec.modify fun _ h => h
    | some e => exact Spec.raise fun _ h => h
  · rw [if_neg h]
    exact keeps_await (P := fun c => Hooked env true c ∧ X c) (fun _ h => hO _ h.2) env.openStream

/-- **The stream.**  It ends between two messages, or by a send that failed. -/
theorem spec_callStream (env : Env p ω ι τ α) (st : StreamResponse α) (n : Nat) :
    Spec (fun s => Hooked env true s.toCore ∧ Idle s.toCore) (callStream env st n)
      (post (fun _ c => Hooked env true c ∧ Stopped (usesTrailers st.protocol) c)
        fun c => Hooked env true c ∧ Stopped (usesTrailers st.protocol) c) := by
  have hK := aboutHooks_hooked env
  have hstreaming : Spec (fun s => Hooked env true s.toCore ∧ Idle s.toCore)
      (streamResponses env st n)
      (post (fun _ c => Hooked env true c ∧ Stopped (usesTrailers st.protocol) c)
        fun c => Hooked env true c ∧ Stopped (usesTrailers st.protocol) c) := by
    refine Spec.bind (fun _ s => Hooked env true s.toCore
      ∧ Going (usesTrailers st.protocol) s.toCore)
      ((keeps_openResponses aboutSends_idle (fun _ h => h.over) env st).weaken (fun _ h => h)
        (fun _ _ h => ⟨h.1, Or.inl h.2⟩) (fun _ _ h => ⟨h.1, Or.inl (Or.inl h.2)⟩)
        fun _ h => h) fun _ => ?_
    refine Spec.bind (fun _ s => Hooked env true s.toCore
      ∧ Stopped (usesTrailers st.protocol) s.toCore) ?_
      fun _ => keeps_closeResponseStream (P := fun c => Hooked env true c
        ∧ Stopped (usesTrailers st.protocol) c) (fun _ h => h.2.over) env st none
    -- Whatever ends the loop, the response stream is closed before it goes on.
    refine Spec.rescue (fun _ s => Hooked env true s.toCore
      ∧ Stopped (usesTrailers st.protocol) s.toCore) ?_ ?_
    · -- The invariant of the loop: between two messages.
      refine (Spec.loop (P := fun s => Hooked env true s.toCore
        ∧ Going (usesTrailers st.protocol) s.toCore)
        (Q := post (fun _ c => Hooked env true c ∧ Going (usesTrailers st.protocol) c)
          fun c => Hooked env true c ∧ Stopped (usesTrailers st.protocol) c) ?_
        (fun _ h => Going.over h.2) n).weaken (fun _ h => h) (fun _ _ h => ⟨h.1, Or.inl h.2⟩)
          (fun _ _ h => h) fun _ h => h
      refine (spec_streamRound hK env st).weaken (fun _ h => h) ?_ (fun _ _ h => h) fun _ h => h
      intro again s h
      cases again <;> exact h
    · intro e
      exact Invariant.bind (keeps_closeResponseStream (P := fun c => Hooked env true c
        ∧ Stopped (usesTrailers st.protocol) c) (fun _ h => h.2.over) env st (some e))
        fun _ => Invariant.raise e
  refine Spec.bind (fun _ s => Hooked env true s.toCore ∧ Idle s.toCore)
    (Spec.modify fun _ h => h) fun _ => ?_
  refine Spec.bind (fun _ s => Hooked env true s.toCore ∧ Idle s.toCore)
    ((keeps_await (P := fun c => Hooked env true c ∧ Idle c) (fun _ h => h.2.over)
      env.watchEnter).weaken (fun _ h => h) (fun _ _ h => h)
      (fun _ _ h => ⟨h.1, Or.inl (Or.inl h.2)⟩) fun _ h => h) fun _ => ?_
  -- The watch for a disconnect is left in both cases, and sends nothing.
  have hexit := keeps_await (α := α) (P := fun c => Hooked env true c
    ∧ Stopped (usesTrailers st.protocol) c) (fun _ h => h.2.over) env.watchExit
  exact Spec.always _ _ hstreaming (fun _ => hexit) fun _ => hexit

/-! ## The status -/

/-- The response is whole, or something kept it from becoming so. -/
def Finished (c : Core ι τ) : Prop := Complete c ∨ (Over c ∧ c.Troubled)

theorem Finished.over {c : Core ι τ} (h : Finished c) : Over c := h.elim Complete.over And.left

/-- A response that cannot be replaced is finished. -/
theorem Spent.finished {c : Core ι τ} (h : Spent c) : Finished c := Or.inr ⟨h.toOver, h.troubled⟩

/-- An end message that is data is not a set of trailers. -/
theorem isRight_of_map_inl {r : Except Exc Bytes} {m : Bytes ⊕ Headers p}
    (h : r.map Sum.inl = .ok m) : m.isRight = false := by
  cases r with
  | error e => exact nomatch h
  | ok b =>
      obtain rfl := Except.ok.inj h
      rfl

/-- There is an end message for the last body message, or there are trailers, as
    announced. -/
theorem writerEnd_isRight {st : StreamResponse α} {userTrailers : Headers p}
    {error : Option ConnectWireErrors.ConnectWireError} {m : Bytes ⊕ Headers p}
    (h : st.writerEnd userTrailers error = .ok m) : m.isRight = usesTrailers st.protocol := by
  rw [StreamResponse.writerEnd.eq_def] at h
  cases hp : st.protocol with
  | connect =>
      rw [hp] at h
      exact isRight_of_map_inl h
  | grpc =>
      rw [hp] at h
      obtain rfl := Except.ok.inj h
      rfl
  | grpcWeb =>
      rw [hp] at h
      exact isRight_of_map_inl h

section Status

variable {streaming : Bool}

/-- The end of a stream finishes the response, as data or as trailers. -/
theorem spec_sendEnd (env : Env p ω ι τ α) (st : StreamResponse α) (error : Option Exc) :
    Spec (fun s => Ended env streaming s.toCore ∧ Streaming (usesTrailers st.protocol) s.toCore)
      (sendEnd env st error)
      (post (fun _ c => Ended env streaming c ∧ Finished c)
        fun c => Ended env streaming c ∧ Finished c) := by
  have hK := aboutHooks_ended env streaming
  refine Spec.get fun s => ?_
  refine Spec.bind (fun m s => m.isRight = usesTrailers st.protocol
      ∧ Ended env streaming s.toCore ∧ Streaming (usesTrailers st.protocol) s.toCore)
    ((spec_build hK (aboutSends_streaming _) _).weaken (fun _ h => h.2)
      (fun _ _ h => ⟨writerEnd_isRight h.1, h.2⟩)
      (fun _ _ h => ⟨h.1, Or.inr ⟨h.2.1.over, h.2.2⟩⟩) fun _ h => h)
    fun m => Spec.assume fun hm => ?_
  -- Only the protocol that announced trailers comes back with trailers to send.
  rw [← hm]
  cases m with
  | inl data =>
      refine Spec.bind (fun _ s => Ended env streaming s.toCore ∧ Complete s.toCore)
        ((spec_sendLast env false streaming false data).weaken (fun _ h => h)
          (fun _ _ h => ⟨h.1, h.2.complete⟩) (fun _ _ h => ⟨h.1, h.2.finished⟩)
          fun _ h => h) fun _ => ?_
      exact Spec.pure fun _ h => ⟨h.1, Or.inl h.2⟩
  | inr trailers =>
      refine Spec.bind (fun _ s => Ended env streaming s.toCore ∧ Closing true s.toCore)
        ((spec_sendLast env false streaming true []).weaken (fun _ h => h) (fun _ _ h => h)
          (fun _ _ h => ⟨h.1, h.2.finished⟩) fun _ h => h) fun _ => ?_
      refine Spec.bind (fun _ s => Ended env streaming s.toCore ∧ Closing true s.toCore)
        ((spec_build hK (aboutSends_closing true) _).weaken (fun _ h => h) (fun _ _ h => h.2)
          (fun _ _ h => ⟨h.1, Or.inr ⟨h.2.1.over, h.2.2⟩⟩) fun _ h => h) fun headers => ?_
      refine Spec.bind (fun _ s => Ended env streaming s.toCore ∧ Complete s.toCore)
        ((spec_sendTrailers env false streaming headers).weaken (fun _ h => h) (fun _ _ h => h)
          (fun _ _ h => ⟨h.1, Or.inr h.2⟩) fun _ h => h) fun _ => ?_
      exact Spec.pure fun _ h => ⟨h.1, Or.inl h.2⟩

/-- **The end of a stream**, however it was left. -/
theorem spec_streamEnd (env : Env p ω ι τ α) (st : StreamResponse α) (error : Option Exc) :
    Spec (fun s => Ended env streaming s.toCore ∧ Stopped (usesTrailers st.protocol) s.toCore)
      (streamEnd env st error)
      (post (fun _ c => Ended env streaming c ∧ Finished c)
        fun c => Ended env streaming c ∧ Finished c) := by
  refine Spec.get fun s => ?_
  by_cases hf : s.failed = true
  · rw [if_pos hf]
    -- A send failed: nothing follows it, and the trouble is on record.
    refine Spec.pure ?_
    rintro t ⟨rfl, he, hstopped⟩
    refine ⟨he, ?_⟩
    rcases hstopped with (hidle | hgoing) | hfailed
    · rw [hidle.failed] at hf
      exact nomatch hf
    · rw [hgoing.failed] at hf
      exact nomatch hf
    · exact hfailed.spent.finished
  · rw [if_neg hf]
    by_cases hs : s.started = true
    · -- The body is open: the end message or the trailers close it.
      rw [if_pos hs]
      refine (spec_sendEnd env st error).pre ?_
      rintro t ⟨rfl, he, hstopped⟩
      refine ⟨he, ?_⟩
      rcases hstopped with (hidle | hgoing) | hfailed
      · rw [hidle.started] at hs
        exact nomatch hs
      · exact hgoing
      · exact absurd hfailed.failed hf
    · rw [if_neg hs]
      -- No message was sent, so the end has to send the headers first.
      refine Spec.bind (fun _ s => Ended env streaming s.toCore
        ∧ Streaming (usesTrailers st.protocol) s.toCore)
        ((spec_sendHeaders (aboutHooks_ended env streaming) env false st).weaken ?_
          (fun _ _ h => h) ?_ fun _ h => h) fun _ => spec_sendEnd env st error
      · rintro t ⟨rfl, he, hstopped⟩
        refine ⟨he, ?_⟩
        rcases hstopped with (hidle | hgoing) | hfailed
        · exact hidle
        · exact absurd hgoing.started hs
        · exact absurd hfailed.failed hf
      · rintro e t ⟨he, hspoiled⟩
        refine ⟨he, hspoiled.elim (fun hi => ?_) fun hfailed => hfailed.spent.finished⟩
        exact Or.inr ⟨hi.1.over, hi.2 rfl⟩

/-- **The error response**, unless another response stands in its way. -/
theorem spec_handleError (env : Env p ω ι τ α) (exc : Exc) (hasCtx : Bool)
    (protocol : Option ServerProtocol) :
    Spec (fun s => Ended env streaming s.toCore
        ∧ (Complete s.toCore ∨ Idle s.toCore ∨ Spent s.toCore))
      (handleError env exc hasCtx protocol)
      (post (fun _ c => Ended env streaming c ∧ Finished c)
        fun c => Ended env streaming c ∧ Finished c) := by
  have hK := aboutHooks_ended env streaming
  refine Spec.get fun s => ?_
  by_cases hs : (s.started || s.failed) = true
  · rw [if_pos hs]
    -- A start went out or was lost: the response can no longer be replaced.
    refine Spec.pure ?_
    rintro t ⟨rfl, he, hc | hi | hspent⟩
    · exact ⟨he, Or.inl hc⟩
    · rw [hi.started, hi.failed] at hs
      exact nomatch hs
    · exact ⟨he, hspent.finished⟩
  · rw [if_neg hs]
    refine Spec.bind (fun _ s => Ended env streaming s.toCore ∧ Idle s.toCore)
      ((spec_build hK aboutSends_idle _).weaken ?_ (fun _ _ h => h.2)
        (fun _ _ h => ⟨h.1, Or.inr ⟨h.2.1.over, h.2.2⟩⟩) fun _ h => h) fun reply => ?_
    · rintro t ⟨rfl, he, hc | hi | hspent⟩
      · rw [hc.started] at hs
        exact absurd rfl hs
      · exact ⟨he, hi⟩
      · rw [Bool.or_eq_true] at hs
        exact absurd hspent.blocked hs
    refine Spec.bind (fun _ s => Ended env streaming s.toCore ∧ Streaming false s.toCore)
      ((spec_sendStart hK env false reply.1 reply.2.1 false).weaken (fun _ h => h)
        (fun _ _ h => h) ?_ fun _ h => h) fun _ => ?_
    · -- A start that fails while the run is being ended spoils the response.
      rintro e t ⟨he, hspoiled⟩
      refine ⟨he, hspoiled.elim (fun hi => ?_) fun hfailed => hfailed.spent.finished⟩
      exact Or.inr ⟨hi.1.over, hi.2 rfl⟩
    refine Spec.bind (fun _ s => Ended env streaming s.toCore ∧ Complete s.toCore)
      ((spec_sendLast env false streaming false reply.2.2).weaken (fun _ h => h)
        (fun _ _ h => ⟨h.1, h.2.complete⟩) (fun _ _ h => ⟨h.1, h.2.finished⟩)
        fun _ h => h) fun _ => ?_
    exact Spec.pure fun _ h => ⟨h.1, Or.inl h.2⟩

end Status

/-! ## The request -/

/-- The run of the interceptors may have been ended; without one there is none to
    end. -/
def Held (env : Env p ω ι τ α) (plan : Plan α) (c : Core ι τ) : Prop :=
  Hooked env plan.streaming c ∧ (plan.hasRun = false → Ended env plan.streaming c)

/-- With the interceptors ended there is nothing left to end. -/
theorem Ended.held {env : Env p ω ι τ α} {plan : Plan α} {c : Core ι τ}
    (h : Ended env plan.streaming c) : Held env plan c := ⟨h.hooked, fun _ => h⟩

/-- And a run that is still open can be ended. -/
theorem Open.held {env : Env p ω ι τ α} {plan : Plan α} {c : Core ι τ}
    (h : Open env plan.streaming c) (hrun : plan.hasRun = true) : Held env plan c :=
  ⟨fun _ => Or.inl h, fun hnone => nomatch hrun.symm.trans hnone⟩

/-- Before the request. -/
structure Fresh (env : Env p ω ι τ α) (streaming : Bool) (c : Core ι τ) : Prop
    extends Open env streaming c, Idle c where
  noStarts : c.starts = []
  noHooks  : c.hooks = []

/-- A request begins with nothing sent and no interceptor started. -/
theorem fresh_new (env : Env p ω ι τ α) (streaming : Bool) (w : ω) :
    Fresh env streaming (Run.new w : Run ω ι τ α).toCore where
  order := List.nil_prefix
  stack := rfl
  chain := List.IsChain.nil
  early := fun _ hx => absurd hx List.not_mem_nil
  noEnds := rfl
  quiet := ⟨List.Pairwise.nil, fun _ _ hx => absurd hx List.not_mem_nil⟩
  messages := rfl
  started := rfl
  failed := rfl
  noStarts := rfl
  noHooks := rfl

/-- After the handler: a stream may be in progress, any other response has not
    begun. -/
def Served : Plan α → Core ι τ → Prop
  | .stream st => Stopped (usesTrailers st.protocol)
  | .unary _ => Idle
  | .refused _ _ _ _ => Idle

/-- After the timeout scope was left by an exception. -/
def Left : Plan α → Core ι τ → Prop
  | .stream st => Stopped (usesTrailers st.protocol)
  | .unary _ => fun c => Idle c ∨ Spent c
  | .refused _ _ _ _ => fun c => Idle c ∨ Spent c

/-- Before the status is written: what is not a stream is whole, or there is an
    error to write. -/
def Ready (plan : Plan α) (s : Run ω ι τ α) : Prop :=
  (plan.streaming = false ∧ Complete s.toCore)
    ∨ ((plan.streaming = false → s.error ≠ none) ∧ Left plan s.toCore)

/-- An exception after the handler leaves the response as the handler left it. -/
theorem Served.left {plan : Plan α} {c : Core ι τ} (h : Served plan c) : Left plan c := by
  cases plan with
  | stream st => exact h
  | unary u => exact Or.inl h
  | refused protocol hasCtx e he => exact Or.inl h

/-- What serving leaves of the response is a matter of what was sent. -/
theorem aboutSends_served (plan : Plan α) : AboutSends (Served plan : Core ι τ → Prop) := by
  cases plan with
  | stream st => exact aboutSends_stopped _
  | unary u => exact aboutSends_idle
  | refused protocol hasCtx e he => exact aboutSends_idle

/-- And so is what the scope leaves. -/
theorem aboutSends_left (plan : Plan α) : AboutSends (Left plan : Core ι τ → Prop) := by
  cases plan with
  | stream st => exact aboutSends_stopped _
  | unary u => exact aboutSends_idle.or aboutSends_spent
  | refused protocol hasCtx e he => exact aboutSends_idle.or aboutSends_spent

theorem Left.over {plan : Plan α} {c : Core ι τ} (h : Left plan c) : Over c := by
  cases plan with
  | stream st => exact Stopped.over h
  | unary u => exact h.elim Idle.over Spent.toOver
  | refused protocol hasCtx e he => exact h.elim Idle.over Spent.toOver

theorem Served.over {plan : Plan α} {c : Core ι τ} (h : Served plan c) : Over c := h.left.over

/-- There is something to write besides an error. -/
def Plan.answered : Plan α → Option α → Bool
  | .stream _, _ => true
  | .unary _, some _ => true
  | _, _ => false

/-- Serving a plan, up to the response or the exception. -/
theorem spec_serve (env : Env p ω ι τ α) (plan : Plan α) (n : Nat) :
    Spec (fun s => Fresh env plan.streaming s.toCore) (serve env plan n)
      (post (fun data c => plan.answered data = true ∧ Held env plan c ∧ Served plan c)
        fun c => Held env plan c ∧ Served plan c) := by
  cases plan with
  | refused protocol hasCtx e he =>
      -- No run was started, so there is none to end.
      refine Spec.raise ?_
      intro s h
      exact ⟨Ended.held fun _ => h.toUnwinding.closed h.noHooks, h.toIdle⟩
  | unary u =>
      refine Spec.bind (fun _ s => Held env (.unary u) s.toCore ∧ Idle s.toCore)
        ((spec_startRun env false aboutSends_idle).weaken
          (fun _ h => ⟨h.toIdle, h.toOpen, h.noStarts⟩)
          (fun _ _ h => ⟨h.2.held rfl, h.1⟩) (fun _ _ h => ⟨h.2.held rfl, h.1⟩)
          fun _ h => h.over) fun _ => ?_
      refine Spec.bind (fun _ s => Held env (.unary u) s.toCore ∧ Idle s.toCore)
        (keeps_await (P := fun c => Held env (.unary u) c ∧ Idle c) (fun _ h => h.2.over)
          env.callUnary) fun response => ?_
      exact Spec.pure fun _ h => ⟨rfl, h⟩
  | stream st =>
      have hheld : ∀ c : Core ι τ, Hooked env true c → Held env (.stream st) c :=
        fun c h => ⟨h, nofun⟩
      refine Spec.bind (fun _ s => Hooked env true s.toCore ∧ Idle s.toCore)
        ((spec_startRun env true aboutSends_idle).weaken
          (fun _ h => ⟨h.toIdle, h.toOpen, h.noStarts⟩)
          (fun _ _ h => ⟨fun _ => Or.inl h.2, h.1⟩)
          (fun _ _ h => ⟨h.2.held rfl, Or.inl (Or.inl h.1)⟩) fun _ h => h.over) fun _ => ?_
      -- An unknown request compression is refused before anything is sent.
      refine Spec.bind (fun _ s => Hooked env true s.toCore ∧ Idle s.toCore)
        (Spec.ofExcept (fun _ _ _ h => h)
          fun _ _ _ h => ⟨hheld _ h.1, Or.inl (Or.inl h.2)⟩) fun _ => ?_
      refine Spec.bind (fun _ s => Hooked env true s.toCore
        ∧ Stopped (usesTrailers st.protocol) s.toCore)
        ((spec_callStream env st n).weaken (fun _ h => h) (fun _ _ h => h)
          (fun _ _ h => ⟨hheld _ h.1, h.2⟩) fun _ h => h) fun _ => ?_
      exact Spec.pure fun _ h => ⟨rfl, hheld _ h.1, h.2⟩

/-- An exception becomes the error of the request. -/
theorem spec_keepError {x : Prog (Run ω ι τ α) Exc (Option α)} {P : Run ω ι τ α → Prop}
    {R : Option α → Core ι τ → Prop} {E : Core ι τ → Prop} (h : Spec P x (post R E)) :
    Spec P (keepError x)
      ⟨fun data s => R data s.toCore ∨ (data = none ∧ s.error ≠ none ∧ E s.toCore),
        fun _ s => E s.toCore, fun s => Over s.toCore⟩ := by
  refine Spec.rescue (fun _ s => E s.toCore) (h.weaken (fun _ h => h) (fun _ _ h => Or.inl h)
    (fun _ _ h => h) fun _ h => h) ?_
  intro e
  by_cases he : e.isException = true
  · rw [if_pos he]
    refine Spec.bind (fun _ s => s.error ≠ none ∧ E s.toCore) ?_
      fun _ => Spec.pure fun _ h => Or.inr ⟨rfl, h⟩
    exact Spec.modify fun _ h => ⟨nofun, h⟩
  · rw [if_neg he]
    exact Spec.raise fun _ h => h

/-- Ending the run loses no error. -/
theorem spec_endMetadataRun (env : Env p ω ι τ α) (inScope : Bool) (plan : Plan α)
    {X : Core ι τ → Prop} (hX : AboutSends X) (hO : ∀ c, X c → Over c) (A : Prop) :
    Spec (fun s => (Held env plan s.toCore ∧ X s.toCore) ∧ (A → s.error ≠ none))
      (endMetadataRun env inScope plan)
      ⟨fun _ s => (Ended env plan.streaming s.toCore ∧ X s.toCore) ∧ (A → s.error ≠ none),
        fun _ s => (Ended env plan.streaming s.toCore ∧ X s.toCore)
          ∧ (inScope = false → s.toCore.Troubled),
        fun s => Over s.toCore⟩ := by
  rw [endMetadataRun]
  by_cases hrun : plan.hasRun = true
  · rw [if_pos hrun]
    refine Spec.get fun s => ?_
    -- The error kept so far goes into the run and none the less comes out of it.
    refine Spec.pre (Spec.assume (A := A → s.error ≠ none)
      (P := fun t => X t.toCore ∧ Hooked env plan.streaming t.toCore) fun hA => ?_) ?_
    · refine Spec.bind (fun error t => (X t.toCore ∧ Ended env plan.streaming t.toCore)
        ∧ (error = none → s.error = none))
        ((spec_endRun env inScope plan.streaming hX s.error).weaken (fun _ h => h)
          (fun _ _ h => h) (fun _ _ h => ⟨⟨h.1.2, h.1.1⟩, h.2⟩) fun _ h => hO _ h)
        fun error => ?_
      refine Spec.modify ?_
      rintro t ⟨⟨hx, he⟩, hnone⟩
      exact ⟨⟨he, hx⟩, fun ha hn => hA ha (hnone hn)⟩
    · rintro t ⟨rfl, ⟨hheld, hx⟩, hA⟩
      exact ⟨hA, hx, hheld.1⟩
  · -- Without a run nothing is open.
    rw [if_neg hrun]
    refine Spec.pure ?_
    rintro s ⟨⟨hheld, hx⟩, hA⟩
    exact ⟨⟨hheld.2 (Bool.eq_false_iff.mpr hrun), hx⟩, hA⟩

/-- The unary response, if the plan was answered. -/
theorem spec_sendUnary (env : Env p ω ι τ α) (plan : Plan α) (responseData : Option α) :
    Spec (fun s => (Ended env plan.streaming s.toCore ∧ Served plan s.toCore)
        ∧ (plan.answered responseData = false → s.error ≠ none))
      (sendUnary env plan responseData)
      ⟨fun _ s => Ended env plan.streaming s.toCore ∧ Ready plan s,
        fun _ s => Ended env plan.streaming s.toCore ∧ Left plan s.toCore,
        fun s => Over s.toCore⟩ := by
  refine Spec.get fun s => ?_
  -- An error, or a stream: nothing is written here.
  have hskip : (plan.streaming = false → s.error ≠ none) →
      Spec (fun t => t = s ∧ (Ended env plan.streaming t.toCore ∧ Served plan t.toCore)
          ∧ (plan.answered responseData = false → t.error ≠ none))
        (pure () : Prog (Run ω ι τ α) Exc Unit)
        ⟨fun _ s => Ended env plan.streaming s.toCore ∧ Ready plan s,
          fun _ s => Ended env plan.streaming s.toCore ∧ Left plan s.toCore,
          fun s => Over s.toCore⟩ := by
    intro herror
    refine Spec.pure ?_
    rintro t ⟨rfl, ⟨he, hserved⟩, -⟩
    exact ⟨he, Or.inr ⟨herror, hserved.left⟩⟩
  cases plan with
  | stream st =>
      cases s.error <;> cases responseData <;> exact hskip nofun
  | refused protocol hasCtx e he =>
      cases herror : s.error with
      | some e' =>
          rw [herror] at hskip
          cases responseData <;> exact hskip fun _ => nofun
      | none =>
          intro t ht
          exact absurd (ht.1 ▸ herror) (ht.2.2 rfl)
  | unary u =>
      cases herror : s.error with
      | some e =>
          rw [herror] at hskip
          cases responseData <;> exact hskip fun _ => nofun
      | none =>
          cases responseData with
          | none =>
              intro t ht
              exact absurd (ht.1 ▸ herror) (ht.2.2 rfl)
          | some response =>
              have hsend : Spec (fun s : Run ω ι τ α => Ended env false s.toCore ∧ Idle s.toCore)
                  (unarySend env u response >>= fun _ => pure none)
                  (post (fun (_ : Option α) c => Ended env false c ∧ Complete c)
                    fun c => Ended env false c ∧ (Idle c ∨ Spent c)) :=
                Spec.bind _ (spec_unarySend env u response) fun _ => Spec.pure fun _ h => h
              -- A failed send is kept as the error, with what it left of the response.
              refine Spec.bind (fun _ s => Ended env false s.toCore ∧ Ready (.unary u) s)
                ((spec_keepError hsend).weaken (fun _ h => h.2.1) ?_ (fun _ _ h => h)
                  fun _ h => h) fun _ => Spec.pure fun _ h => h
              rintro data t (⟨he, hc⟩ | ⟨-, hsome, he, hleft⟩)
              · exact ⟨he, Or.inl ⟨rfl, hc⟩⟩
              · exact ⟨he, Or.inr ⟨fun _ => hsome, hleft⟩⟩

/-- The body of the scope: what the deadline may cut off. -/
theorem spec_scopeBody (env : Env p ω ι τ α) (plan : Plan α) (n : Nat) :
    Spec (fun s => Fresh env plan.streaming s.toCore) (scopeBody env plan n)
      ⟨fun _ s => Held env plan s.toCore ∧ Ready plan s,
        fun _ s => Held env plan s.toCore ∧ Left plan s.toCore, fun s => Over s.toCore⟩ := by
  refine Spec.bind (fun data s => (Held env plan s.toCore ∧ Served plan s.toCore)
    ∧ (plan.answered data = false → s.error ≠ none))
    ((spec_keepError (spec_serve env plan n)).weaken (fun _ h => h) ?_
      (fun _ _ h => ⟨h.1, h.2.left⟩) fun _ h => h) fun data => ?_
  · rintro data s (⟨hdata, hserved⟩ | ⟨-, hsome, hserved⟩)
    · exact ⟨hserved, fun hn => nomatch hdata.symm.trans hn⟩
    · exact ⟨hserved, fun _ => hsome⟩
  refine Spec.bind _ ((spec_endMetadataRun env true plan (aboutSends_served plan)
    (fun _ h => h.over) (plan.answered data = false)).weaken (fun _ h => h) (fun _ _ h => h)
      (fun _ _ h => ⟨h.1.1.held, h.1.2.left⟩) fun _ h => h) fun _ => ?_
  exact (spec_sendUnary env plan data).weaken (fun _ h => h) (fun _ _ h => ⟨h.1.held, h.2⟩)
    (fun _ _ h => ⟨h.1.held, h.2⟩) fun _ h => h

/-- Whatever left the scope, there is an error afterwards. -/
theorem spec_exceptClauses (env : Env p ω ι τ α) (plan : Plan α) (e : Exc) :
    Spec (fun s => Held env plan s.toCore ∧ Left plan s.toCore) (exceptClauses env e)
      ⟨fun _ s => Held env plan s.toCore ∧ Ready plan s,
        fun _ s => Held env plan s.toCore ∧ Ready plan s, fun s => Over s.toCore⟩ := by
  rw [exceptClauses]
  by_cases ht : e.isTimeoutError = true
  · rw [if_pos ht]
    refine Spec.modify ?_
    rintro s ⟨hheld, hleft⟩
    by_cases hs : s.error.isNone = true
    · rw [if_pos hs]
      exact ⟨hheld, Or.inr ⟨fun _ => nofun, hleft⟩⟩
    · rw [if_neg hs]
      exact ⟨hheld, Or.inr ⟨fun _ hn => hs (Option.isNone_iff_eq_none.mpr hn), hleft⟩⟩
  · rw [if_neg ht]
    refine Spec.bind (fun _ s => Held env plan s.toCore ∧ Ready plan s) ?_
      fun _ => Spec.raise fun _ h => h
    refine Spec.modify ?_
    rintro s ⟨hheld, hleft⟩
    by_cases hc : e.isCancellation = true
    · rw [if_pos hc]
      exact ⟨hheld, Or.inr ⟨fun _ => nofun, hleft⟩⟩
    · rw [if_neg hc]
      exact ⟨hheld, Or.inr ⟨fun _ => nofun, hleft⟩⟩

/-- **The status** makes the response whole, or something kept it from that. -/
theorem spec_respond (env : Env p ω ι τ α) (plan : Plan α) (error : Option Exc) :
    Spec (fun s => s.error = error ∧ Ended env plan.streaming s.toCore ∧ Ready plan s)
      (respond env plan error)
      (post (fun _ c => Ended env plan.streaming c ∧ Finished c)
        fun c => Ended env plan.streaming c ∧ Finished c) := by
  -- Without an error what is not a stream is whole.
  have hnone : plan.streaming = false → error = none →
      Spec (fun s => s.error = error ∧ Ended env plan.streaming s.toCore ∧ Ready plan s)
        (pure true : Prog (Run ω ι τ α) Exc Bool)
        (post (fun _ c => Ended env plan.streaming c ∧ Finished c)
          fun c => Ended env plan.streaming c ∧ Finished c) := by
    rintro hplan rfl
    refine Spec.pure ?_
    rintro s ⟨herror, he, ⟨-, hc⟩ | ⟨hsome, -⟩⟩
    · exact ⟨he, Or.inl hc⟩
    · exact absurd herror (hsome hplan)
  cases plan with
  | stream st =>
      refine (spec_streamEnd env st error).pre ?_
      rintro s ⟨-, he, ⟨hplan, -⟩ | ⟨-, hstopped⟩⟩
      · exact nomatch hplan
      · exact ⟨he, hstopped⟩
  | unary u =>
      cases error with
      | none => exact hnone rfl rfl
      | some e =>
          refine (spec_handleError env e true (some .connect)).pre ?_
          -- The error may be one of the interceptors, after a whole response.
          rintro s ⟨-, he, ⟨-, hc⟩ | ⟨-, hleft⟩⟩
          · exact ⟨he, Or.inl hc⟩
          · exact ⟨he, Or.inr hleft⟩
  | refused protocol hasCtx e he =>
      cases error with
      | none => exact hnone rfl rfl
      | some e =>
          refine (spec_handleError env e hasCtx protocol).pre ?_
          rintro s ⟨-, he, ⟨-, hc⟩ | ⟨-, hleft⟩⟩
          · exact ⟨he, Or.inl hc⟩
          · exact ⟨he, Or.inr hleft⟩

/-- The interceptors are ended before the status, which spoils nothing. -/
theorem spec_endBeforeStatus (env : Env p ω ι τ α) (plan : Plan α) :
    Spec (fun s => Held env plan s.toCore ∧ Ready plan s) (endMetadataRun env false plan)
      ⟨fun _ s => Ended env plan.streaming s.toCore ∧ Ready plan s,
        fun _ s => Ended env plan.streaming s.toCore ∧ Finished s.toCore,
        fun s => Over s.toCore⟩ := by
  have hwhole : Spec (fun s : Run ω ι τ α => plan.streaming = false ∧ Held env plan s.toCore
        ∧ Complete s.toCore) (endMetadataRun env false plan)
      ⟨fun _ s => Ended env plan.streaming s.toCore ∧ Ready plan s,
        fun _ s => Ended env plan.streaming s.toCore ∧ Finished s.toCore,
        fun s => Over s.toCore⟩ :=
    Spec.assume fun hplan => (spec_endMetadataRun env false plan aboutSends_complete
      (fun _ h => h.over) False).weaken (fun _ h => ⟨h, nofun⟩)
      (fun _ _ h => ⟨h.1.1, Or.inl ⟨hplan, h.1.2⟩⟩) (fun _ _ h => ⟨h.1.1, Or.inl h.1.2⟩)
      fun _ h => h
  have hleft : Spec (fun s : Run ω ι τ α => (Held env plan s.toCore ∧ Left plan s.toCore)
        ∧ (plan.streaming = false → s.error ≠ none)) (endMetadataRun env false plan)
      ⟨fun _ s => Ended env plan.streaming s.toCore ∧ Ready plan s,
        fun _ s => Ended env plan.streaming s.toCore ∧ Finished s.toCore,
        fun s => Over s.toCore⟩ :=
    (spec_endMetadataRun env false plan (aboutSends_left plan) (fun _ h => h.over)
      (plan.streaming = false)).weaken (fun _ h => h)
      (fun _ _ h => ⟨h.1.1, Or.inr ⟨h.2, h.1.2⟩⟩)
      (fun _ _ h => ⟨h.1.1, Or.inr ⟨h.1.2.over, h.2 rfl⟩⟩) fun _ h => h
  refine (Spec.or hwhole hleft).pre ?_
  rintro s ⟨hheld, ⟨hplan, hc⟩ | ⟨hsome, hl⟩⟩
  · exact Or.inl ⟨hplan, hheld, hc⟩
  · exact Or.inr ⟨⟨hheld, hl⟩, hsome⟩

/-- The response to an error, or the end of a stream. -/
theorem spec_writeStatus (env : Env p ω ι τ α) (plan : Plan α) :
    Spec (fun s => Held env plan s.toCore ∧ Ready plan s) (writeStatus env plan)
      (post (fun _ c => Ended env plan.streaming c ∧ Finished c)
        fun c => Ended env plan.streaming c ∧ Finished c) := by
  refine Spec.bind (fun _ s => Ended env plan.streaming s.toCore ∧ Ready plan s)
    (spec_endBeforeStatus env plan) fun _ => Spec.get fun s => ?_
  have hwrite : Spec (fun t => t = s ∧ Ended env plan.streaming t.toCore ∧ Ready plan t)
      (respond env plan s.error >>= fun responded =>
        Prog.modify fun s => { s with responded := responded })
      (post (fun _ c => Ended env plan.streaming c ∧ Finished c)
        fun c => Ended env plan.streaming c ∧ Finished c) := by
    refine Spec.bind _ ((spec_respond env plan s.error).pre ?_) fun _ => Spec.modify fun _ h => h
    rintro t ⟨rfl, h⟩
    exact ⟨rfl, h⟩
  by_cases hc : s.cancelled = true
  · dsimp only
    rw [if_pos hc]
    exact spec_suppress hwrite
  · dsimp only
    rw [if_neg hc]
    exact hwrite

/-- What follows the scope. -/
theorem spec_finish (env : Env p ω ι τ α) (plan : Plan α) :
    Spec (fun s => Held env plan s.toCore ∧ Ready plan s) (finish env plan)
      (post (fun _ c => Ended env plan.streaming c ∧ Finished c)
        fun c => Ended env plan.streaming c ∧ Finished c) := by
  have hclose : Keeps (fun c => Ended env plan.streaming c ∧ Finished c)
      (Prog.get >>= fun s : Run ω ι τ α =>
        if s.requestStream then await env.acloseRequest else pure ()) := by
    exact Invariant.get fun s => Invariant.ite
      (keeps_await (P := fun c => Ended env plan.streaming c ∧ Finished c)
        (fun _ h => h.2.over) env.acloseRequest)
      (Invariant.pure ())
  refine Spec.get fun s => ?_
  have hstatus : Spec (fun t => t = s ∧ Held env plan t.toCore ∧ Ready plan t)
      (writeStatus env plan)
      (post (fun _ c => Ended env plan.streaming c ∧ Finished c)
        fun c => Ended env plan.streaming c ∧ Finished c) :=
    (spec_writeStatus env plan).pre fun _ h => h.2
  refine Spec.always (fun _ s => Ended env plan.streaming s.toCore ∧ Finished s.toCore)
    (fun _ s => Ended env plan.streaming s.toCore ∧ Finished s.toCore) ?_ (fun _ => hclose)
    fun _ => hclose
  by_cases hc : s.cancelled = true
  · rw [if_pos hc]
    exact spec_asyncCleanup env hstatus
  · rw [if_neg hc]
    exact hstatus

/-- **A request** ends its interceptors, and then its response. -/
theorem spec_handleRequest (env : Env p ω ι τ α) (plan : Plan α) (n : Nat) :
    Spec (fun s => Fresh env plan.streaming s.toCore) (handleRequest env plan n)
      (post (fun _ c => Ended env plan.streaming c ∧ Finished c)
        fun c => Ended env plan.streaming c ∧ Finished c) := by
  have hscope : Spec (fun s => Fresh env plan.streaming s.toCore)
      (Prog.rescue (inTimeoutScope env (scopeBody env plan n)) (exceptClauses env))
      ⟨fun _ s => Held env plan s.toCore ∧ Ready plan s,
        fun _ s => Held env plan s.toCore ∧ Ready plan s, fun s => Over s.toCore⟩ := by
    refine Spec.rescue (fun _ s => Held env plan s.toCore ∧ Left plan s.toCore) ?_
      (spec_exceptClauses env plan)
    refine Spec.rescue (fun _ s => Held env plan s.toCore ∧ Left plan s.toCore)
      (spec_scopeBody env plan n) fun e => ?_
    exact Spec.get fun s => Spec.raise fun _ h => h.2
  refine Spec.bind (fun _ s => Ended env plan.streaming s.toCore ∧ Finished s.toCore)
    (Spec.always _ _ hscope (fun _ => spec_finish env plan) fun _ => spec_finish env plan)
    fun _ => Invariant.get fun s => ?_
  cases s.error with
  | none => exact Invariant.pure ()
  | some e => exact Invariant.ite (Invariant.raise e) (Invariant.pure ())

/-- A run that came to its end. -/
theorem handleRequest_ended (env : Env p ω ι τ α) (plan : Plan α) (n : Nat) (w : ω)
    (h : (handleRequest env plan n (Run.new w)).1 ≠ .stuck) :
    Ended env plan.streaming (handleRequest env plan n (Run.new w)).2.toCore
      ∧ Finished (handleRequest env plan n (Run.new w)).2.toCore := by
  have hspec := spec_handleRequest env plan n (Run.new w) (fresh_new env plan.streaming w)
  cases ho : (handleRequest env plan n (Run.new w)).1 with
  | ret a =>
      rw [ho] at hspec
      exact hspec
  | raise e =>
      rw [ho] at hspec
      exact hspec
  | stuck => exact absurd ho h

/-- **THE RESPONSE IS WELL FORMED.**  Whatever the handler, the interceptors and the
    app server do, the server takes the beginning of a response; nothing is sent
    after a send that raised; and at its end the request leaves a whole response,
    unless a send failed or was cut short, or something could not be built. -/
theorem response_well_formed (env : Env p ω ι τ α) (plan : Plan α) (n : Nat) (w : ω) :
    Fits (handleRequest env plan n (Run.new w)).2.messages
      ∧ ((handleRequest env plan n (Run.new w)).2.trace.Pairwise
          fun x y => x.isRaised = true → y.isSending = false)
      ∧ ((handleRequest env plan n (Run.new w)).1 ≠ .stuck →
          (∀ x ∈ (handleRequest env plan n (Run.new w)).2.trace, x.isTrouble = false) →
          IsResponse (handleRequest env plan n (Run.new w)).2.messages) := by
  have hover : Over (handleRequest env plan n (Run.new w)).2.toCore := by
    have hspec := spec_handleRequest env plan n (Run.new w) (fresh_new env plan.streaming w)
    cases ho : (handleRequest env plan n (Run.new w)).1 with
    | ret a => exact (handleRequest_ended env plan n w (by rw [ho]; nofun)).2.over
    | raise e => exact (handleRequest_ended env plan n w (by rw [ho]; nofun)).2.over
    | stuck =>
        rw [ho] at hspec
        exact hspec
  refine ⟨hover.fits, hover.quiet.order, ?_⟩
  intro hend hcalm
  rcases (handleRequest_ended env plan n w hend).2 with hc | ⟨-, x, hx, ht⟩
  · exact hc.response
  · rw [hcalm x hx] at ht
    exact nomatch ht

/-- A client that does not read: the deadline comes while the body of the response is
    sent, and the app server did not take it. -/
def unreadBody : Env Platform.plain Unit Unit Unit Bytes where
  interceptors := []
  ctx := fun _ => ⟨.empty _, .empty _⟩
  onStart := fun _ => pure ()
  onEnd := fun _ _ _ _ => pure ()
  callUnary := pure [7]
  callSingle := pure [7]
  openStream := pure ()
  nextResponse := pure none
  disconnected := fun _ => false
  aclose := pure ()
  throwInto := Prog.raise
  watchEnter := pure ()
  watchExit := pure ()
  acloseRequest := pure ()
  scopeExit := fun e _ => match e with
    | .cancelled .scope => .exception .timeoutError ""
    | e => e
  cleanupExit := fun e _ => some e
  expired := fun _ => true
  disconnectedFirst := fun _ => false
  send := fun inScope m w => (if inScope && !m.isStart then .cut .scope false else .sent, w)
  send_start_cut := by
    intro inScope m w origin taken h hstart
    have hsent : (if inScope && !m.isStart then SendOutcome.cut .scope false else .sent)
        = .sent := if_neg (by rw [hstart]; simp)
    cases hsent.symm.trans h
  send_after_scope := by
    rintro m w taken ⟨⟩
  encodeText := fun t => .ok (Utf8.encode t)

/-- No send failed and nobody but the request itself cancelled anything, and the
    response stays without its body. -/
theorem deadline_cuts_body :
    (handleRequest unreadBody (.unary ⟨Codec.raw, .identity⟩) 0 (Run.new ())).1
        = .raise (.connect .deadlineExceeded "Request timed out")
      ∧ (∀ x ∈ (handleRequest unreadBody (.unary ⟨Codec.raw, .identity⟩) 0 (Run.new ())).2.trace,
        x.isOfSend = true ∧ x.isRaised = false ∧ ∀ m origin, x = .sendCut m origin →
          origin = .scope)
      ∧ ¬ IsResponse
        (handleRequest unreadBody (.unary ⟨Codec.raw, .identity⟩) 0 (Run.new ())).2.messages := by
  obtain ⟨headers, body, htrace⟩ : ∃ headers body,
      (handleRequest unreadBody (.unary ⟨Codec.raw, .identity⟩) 0 (Run.new ())).2.trace
        = [.sending (.start 200 headers false), .taken (.start 200 headers false),
          .sending (.body body false), .sendCut (.body body false) .scope] := ⟨_, _, rfl⟩
  refine ⟨rfl, ?_, ?_⟩
  · intro x hx
    rw [htrace] at hx
    simp only [List.mem_cons, List.not_mem_nil, or_false] at hx
    rcases hx with rfl | rfl | rfl | rfl
    · exact ⟨rfl, rfl, by rintro m origin ⟨⟩⟩
    · exact ⟨rfl, rfl, by rintro m origin ⟨⟩⟩
    · exact ⟨rfl, rfl, by rintro m origin ⟨⟩⟩
    · exact ⟨rfl, rfl, by rintro m origin ⟨⟩; rfl⟩
  · intro hresponse
    have hmessages : (handleRequest unreadBody (.unary ⟨Codec.raw, .identity⟩) 0
        (Run.new ())).2.messages = [.start 200 headers false] := by
      rw [Core.messages, htrace]
      rfl
    rw [hmessages] at hresponse
    -- A whole response has at least two messages.
    have htwo : ∀ ms, IsResponse ms → 2 ≤ ms.length := by
      intro ms h
      cases h <;> simp [opening]
    exact absurd (htwo _ hresponse) (by simp)

/-- **THE INTERCEPTORS ARE ENDED**, each that was started once, in reverse order,
    with its token and the error left by the one before, and before anything is
    sent that has to wait for it. -/
theorem interceptors_ended (env : Env p ω ι τ α) (hends : EndsOk env) (plan : Plan α) (n : Nat)
    (w : ω) (hend : (handleRequest env plan n (Run.new w)).1 ≠ .stuck) :
    Closed env plan.streaming (handleRequest env plan n (Run.new w)).2.toCore :=
  (handleRequest_ended env plan n w hend).1 hends

/-- Two interceptors, the second of which is cancelled by the app server while it
    ends. -/
def cancelledEnd : Env Platform.plain Unit Nat Nat Bytes where
  interceptors := [0, 1]
  ctx := fun _ => ⟨.empty _, .empty _⟩
  onStart := fun i => pure (i + 10)
  onEnd := fun _ i _ _ => if i = 1 then Prog.raise (.cancelled .appServer) else pure ()
  callUnary := pure [7]
  callSingle := pure [7]
  openStream := pure ()
  nextResponse := pure none
  disconnected := fun _ => false
  aclose := pure ()
  throwInto := Prog.raise
  watchEnter := pure ()
  watchExit := pure ()
  acloseRequest := pure ()
  scopeExit := fun e _ => e
  cleanupExit := fun e _ => some e
  expired := fun _ => false
  disconnectedFirst := fun _ => false
  send := fun _ _ w => (.sent, w)
  send_start_cut := fun _ _ _ _ _ h => nomatch h
  send_after_scope := fun _ _ _ h => nomatch h
  encodeText := fun t => .ok (Utf8.encode t)

/-- The hooks of the example end as they should. -/
theorem cancelledEnd_ends : EndsOk cancelledEnd := by
  intro inScope i token error w e he
  by_cases hi : i = 1
  · have hraise : cancelledEnd.onEnd inScope i token error = Prog.raise (.cancelled .appServer) :=
      if_pos hi
    rw [hraise] at he
    obtain rfl := Outcome.raise.inj he
    exact Or.inr rfl
  · have hpure : cancelledEnd.onEnd inScope i token error = pure () := if_neg hi
    rw [hpure] at he
    exact nomatch he

/-- A run that is cancelled while its interceptors end. -/
theorem interceptors_ended_cancelledEnd :
    Closed cancelledEnd false (handleRequest cancelledEnd (.unary ⟨Codec.raw, .identity⟩) 0
      (Run.new ())).2.toCore :=
  interceptors_ended cancelledEnd cancelledEnd_ends (.unary ⟨Codec.raw, .identity⟩) 0 () nofun

end ConnectAsgi
