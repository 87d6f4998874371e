/-! # Programs with a state, exceptions and waiting

    A program runs from a state and returns, raises, or gets stuck, that is waits
    for something that does not come.  The state it leaves is kept in all three
    cases, so what happened before an exception can be talked about; a program
    that gets stuck runs no cleanup.

    `Spec P x Q` says that from every state in `P` the program `x` ends in `Q`,
    which has a part for each way to end.  There is one rule for each way to put
    programs together, and `Spec.weaken` between them. -/

namespace Effect

variable {σ τ ε α β : Type}

/-! ## Programs -/

/-- How a program ends. -/
inductive Outcome (ε α : Type) where
  | ret (a : α)
  | raise (e : ε)
  | stuck

/-- A program with state `σ`, exceptions `ε` and result `α`. -/
def Prog (σ ε α : Type) : Type := σ → Outcome ε α × σ

namespace Prog

protected def pure (a : α) : Prog σ ε α := fun s => (.ret a, s)

protected def bind (x : Prog σ ε α) (f : α → Prog σ ε β) : Prog σ ε β := fun s =>
  match x s with
  | (.ret a, s) => f a s
  | (.raise e, s) => (.raise e, s)
  | (.stuck, s) => (.stuck, s)

instance : Monad (Prog σ ε) where
  pure := Prog.pure
  bind := Prog.bind

/-- Raise an exception. -/
def raise (e : ε) : Prog σ ε α := fun s => (.raise e, s)

/-- Wait for ever. -/
def stuck : Prog σ ε α := fun s => (.stuck, s)

def get : Prog σ ε σ := fun s => (.ret s, s)

def modify (f : σ → σ) : Prog σ ε Unit := fun s => (.ret (), f s)

/-- Return the result of a computation without effects, or raise its error. -/
def ofExcept : Except ε α → Prog σ ε α
  | .ok a => Prog.pure a
  | .error e => raise e

/-- `try: x except e: h e`. -/
def rescue (x : Prog σ ε α) (h : ε → Prog σ ε α) : Prog σ ε α := fun s =>
  match x s with
  | (.raise e, s) => h e s
  | r => r

/-- `try: x finally: fin`.  An exception of `fin` replaces how `x` ended. -/
def always (x : Prog σ ε α) (fin : Prog σ ε Unit) : Prog σ ε α := fun s =>
  match x s with
  | (.stuck, s) => (.stuck, s)
  | (o, s) =>
      match fin s with
      | (.ret _, s) => (o, s)
      | (.raise e, s) => (.raise e, s)
      | (.stuck, s) => (.stuck, s)

/-- Run a program and return how it ended. -/
def attempt (x : Prog σ ε α) : Prog σ ε (Except ε α) := fun s =>
  match x s with
  | (.ret a, s) => (.ret (.ok a), s)
  | (.raise e, s) => (.ret (.error e), s)
  | (.stuck, s) => (.stuck, s)

/-- Repeat the body as long as it says so; after `n` rounds the next one is
    still being waited for. -/
def loop : Nat → Prog σ ε Bool → Prog σ ε Unit
  | 0, _ => stuck
  | n + 1, body => body >>= fun again => if again then loop n body else pure ()

/-- Run a program on a part of the state. -/
def zoom (view : σ → τ) (put : τ → σ → σ) (x : Prog τ ε α) : Prog σ ε α := fun s =>
  let r := x (view s)
  (r.1, put r.2 s)

end Prog

open Prog

/-! ## Specifications -/

/-- What holds at the end: after a return, after an exception, while stuck. -/
structure Post (σ ε α : Type) where
  ret   : α → σ → Prop
  raise : ε → σ → Prop
  stuck : σ → Prop

/-- The part of a postcondition for one way to end. -/
def Post.at (Q : Post σ ε α) : Outcome ε α → σ → Prop
  | .ret a => Q.ret a
  | .raise e => Q.raise e
  | .stuck => Q.stuck

/-- From every state in `P` the program ends in `Q`. -/
def Spec (P : σ → Prop) (x : Prog σ ε α) (Q : Post σ ε α) : Prop :=
  ∀ s, P s → Q.at (x s).1 (x s).2

variable {P P' : σ → Prop} {Q : Post σ ε α}

/-- **Consequence.** -/
theorem Spec.weaken {Q' : Post σ ε α} {x : Prog σ ε α} (hx : Spec P x Q)
    (hP : ∀ s, P' s → P s) (hret : ∀ a s, Q.ret a s → Q'.ret a s)
    (hraise : ∀ e s, Q.raise e s → Q'.raise e s) (hstuck : ∀ s, Q.stuck s → Q'.stuck s) :
    Spec P' x Q' := by
  intro s hs
  have h := hx s (hP s hs)
  cases ho : (x s).1 with
  | ret a =>
      rw [ho] at h
      exact hret a _ h
  | raise e =>
      rw [ho] at h
      exact hraise e _ h
  | stuck =>
      rw [ho] at h
      exact hstuck _ h

/-- A stronger precondition. -/
theorem Spec.pre {x : Prog σ ε α} (hx : Spec P x Q) (hP : ∀ s, P' s → P s) : Spec P' x Q :=
  fun s hs => hx s (hP s hs)

/-- Returning in this way, and nothing else. -/
def Post.returns (R : α → σ → Prop) : Post σ ε α := ⟨R, fun _ _ => False, fun _ => False⟩

theorem Post.of_returns {R : α → σ → Prop} {o : Outcome ε α} {s : σ}
    (h : (Post.returns R).at o s) : ∃ a, o = .ret a ∧ R a s := by
  cases o with
  | ret a => exact ⟨a, rfl, h⟩
  | raise _ => exact h.elim
  | stuck => exact h.elim

/-- What returns meets any other condition on its exceptions. -/
theorem Spec.returns_raise {R : α → σ → Prop} {x : Prog σ ε α} (hx : Spec P x (.returns R))
    (E : ε → σ → Prop) (S : σ → Prop) : Spec P x ⟨R, E, S⟩ :=
  hx.weaken (fun _ h => h) (fun _ _ h => h) (fun _ _ h => h.elim) fun _ h => h.elim

/-- Case distinction on the precondition. -/
theorem Spec.or {x : Prog σ ε α} (h : Spec P x Q) (h' : Spec P' x Q) :
    Spec (fun s => P s ∨ P' s) x Q :=
  fun s hs => hs.elim (h s) (h' s)

/-- A precondition that does not speak about the state. -/
theorem Spec.assume {A : Prop} {x : Prog σ ε α} (h : A → Spec P x Q) :
    Spec (fun s => A ∧ P s) x Q :=
  fun s hs => h hs.1 s hs.2

/-- A precondition with a parameter. -/
theorem Spec.exists {γ : Type} {P : γ → σ → Prop} {x : Prog σ ε α} (h : ∀ c, Spec (P c) x Q) :
    Spec (fun s => ∃ c, P c s) x Q := by
  intro s hs
  obtain ⟨c, hc⟩ := hs
  exact h c s hc

theorem Spec.pure {a : α} (h : ∀ s, P s → Q.ret a s) : Spec P (pure a : Prog σ ε α) Q := h

theorem Spec.raise {e : ε} (h : ∀ s, P s → Q.raise e s) :
    Spec P (Prog.raise e : Prog σ ε α) Q := h

theorem Spec.stuck (h : ∀ s, P s → Q.stuck s) : Spec P (Prog.stuck : Prog σ ε α) Q := h

theorem Spec.modify {Q : Post σ ε Unit} {f : σ → σ} (h : ∀ s, P s → Q.ret () (f s)) :
    Spec P (Prog.modify f : Prog σ ε Unit) Q := h

/-- What a program comes to from one state. -/
theorem Spec.run (x : Prog σ ε α) (s : σ) :
    Spec (fun t => t = s) x ⟨fun a t => x s = (.ret a, t), fun e t => x s = (.raise e, t),
      fun t => x s = (.stuck, t)⟩ := by
  rintro t rfl
  cases ho : x t with
  | mk o t' => cases o <;> rfl

/-- However a program ends, it ends. -/
theorem Spec.ends (P : σ → Prop) (x : Prog σ ε α) :
    Spec P x ⟨fun _ _ => True, fun _ _ => True, fun _ => True⟩ := by
  intro s _
  cases (x s).1 with
  | ret a => exact trivial
  | raise e => exact trivial
  | stuck => exact trivial

/-- **Sequence.** -/
theorem Spec.bind {Q : Post σ ε β} {x : Prog σ ε α} {f : α → Prog σ ε β}
    (R : α → σ → Prop) (hx : Spec P x ⟨R, Q.raise, Q.stuck⟩) (hf : ∀ a, Spec (R a) (f a) Q) :
    Spec P (x >>= f) Q := by
  intro s hs
  have h := hx s hs
  show Q.at (Prog.bind x f s).1 (Prog.bind x f s).2
  rw [Prog.bind]
  cases hr : x s with
  | mk o t =>
      rw [hr] at h
      cases o with
      | ret a => exact hf a t h
      | raise e => exact h
      | stuck => exact h

/-- **Reading the state.** -/
theorem Spec.get {Q : Post σ ε β} {f : σ → Prog σ ε β}
    (h : ∀ s, Spec (fun t => t = s ∧ P t) (f s) Q) : Spec P (Prog.get >>= f) Q :=
  fun s hs => h s s ⟨rfl, hs⟩

/-- Only this is used of the state that is read. -/
theorem Spec.get_of {A : σ → Prop} {Q : Post σ ε β} {f : σ → Prog σ ε β}
    (hA : ∀ s, P s → A s) (h : ∀ t, A t → Spec P (f t) Q) : Spec P (Prog.get >>= f) Q :=
  fun s hs => h s (hA s hs) s hs

/-- **Exception handlers.** -/
theorem Spec.rescue {x : Prog σ ε α} {h : ε → Prog σ ε α} (R : ε → σ → Prop)
    (hx : Spec P x ⟨Q.ret, R, Q.stuck⟩) (hh : ∀ e, Spec (R e) (h e) Q) :
    Spec P (Prog.rescue x h) Q := by
  intro s hs
  have hxs := hx s hs
  rw [Prog.rescue]
  cases hr : x s with
  | mk o t =>
      rw [hr] at hxs
      cases o with
      | ret a => exact hxs
      | raise e => exact hh e t hxs
      | stuck => exact hxs

/-- **Attempts.** -/
theorem Spec.attempt {Q : Post σ ε (Except ε α)} {x : Prog σ ε α}
    (hx : Spec P x ⟨fun a => Q.ret (.ok a), fun e => Q.ret (.error e), Q.stuck⟩) :
    Spec P (Prog.attempt x) Q := by
  intro s hs
  have hxs := hx s hs
  rw [Prog.attempt]
  cases hr : x s with
  | mk o t =>
      rw [hr] at hxs
      cases o with
      | ret a => exact hxs
      | raise e => exact hxs
      | stuck => exact hxs

/-- **Cleanup.**  It runs after a return and after an exception. -/
theorem Spec.always {x : Prog σ ε α} {fin : Prog σ ε Unit} (R : α → σ → Prop)
    (S : ε → σ → Prop) (hx : Spec P x ⟨R, S, Q.stuck⟩)
    (hret : ∀ a, Spec (R a) fin ⟨fun _ => Q.ret a, Q.raise, Q.stuck⟩)
    (hraise : ∀ e, Spec (S e) fin ⟨fun _ => Q.raise e, Q.raise, Q.stuck⟩) :
    Spec P (Prog.always x fin) Q := by
  intro s hs
  have hxs := hx s hs
  rw [Prog.always]
  cases hr : x s with
  | mk o t =>
      rw [hr] at hxs
      cases o with
      | ret a =>
          have hfin := hret a t hxs
          dsimp only
          cases hf : fin t with
          | mk o' u =>
              rw [hf] at hfin
              cases o' <;> exact hfin
      | raise e =>
          have hfin := hraise e t hxs
          dsimp only
          cases hf : fin t with
          | mk o' u =>
              rw [hf] at hfin
              cases o' <;> exact hfin
      | stuck => exact hxs

/-- **Loops**, by an invariant that every round that goes on restores. -/
theorem Spec.loop {Q : Post σ ε Unit} {body : Prog σ ε Bool}
    (hbody : Spec P body ⟨fun again s => if again then P s else Q.ret () s, Q.raise, Q.stuck⟩)
    (hstuck : ∀ s, P s → Q.stuck s) : ∀ n, Spec P (Prog.loop n body) Q
  | 0 => Spec.stuck hstuck
  | n + 1 => by
      refine Spec.bind _ hbody ?_
      intro again
      cases again with
      | true => exact Spec.loop hbody hstuck n
      | false => exact fun s hs => hs

/-- **A part of the state**: what does not depend on that part is kept, and an
    exception is one of the program that runs there. -/
theorem Spec.zoom {A : ε → Prop} {view : σ → τ} {put : τ → σ → σ} {x : Prog τ ε α}
    (hP : ∀ t s, P s → P (put t s)) (hx : ∀ t e, (x t).1 = .raise e → A e) :
    Spec P (Prog.zoom view put x) ⟨fun _ => P, fun e s => A e ∧ P s, P⟩ := by
  intro s hs
  have h := hP (x (view s)).2 s hs
  show Post.at _ (x (view s)).1 (put (x (view s)).2 s)
  cases ho : (x (view s)).1 with
  | ret a => exact h
  | raise e => exact ⟨hx _ e ho, h⟩
  | stuck => exact h

theorem Spec.ofExcept {r : Except ε α} (hok : ∀ a s, r = .ok a → P s → Q.ret a s)
    (herror : ∀ e s, r = .error e → P s → Q.raise e s) : Spec P (Prog.ofExcept r) Q := by
  intro s hs
  cases r with
  | ok a => exact hok a s rfl hs
  | error e => exact herror e s rfl hs

/-- A result that is there is used. -/
theorem Spec.ok_bind {Q : Post σ ε β} {a : α} {f : α → Prog σ ε β} (h : Spec P (f a) Q) :
    Spec P (Prog.ofExcept (.ok a) >>= f) Q := h

/-! ## Invariants -/

/-- `P` holds however the program ends, and `S` where it gets stuck. -/
def Invariant (P S : σ → Prop) (x : Prog σ ε α) : Prop :=
  Spec P x ⟨fun _ => P, fun _ => P, S⟩

namespace Invariant

variable {S : σ → Prop}

/-- However the program ends, the state it leaves is all that matters. -/
theorem of_state {x : Prog σ ε α} (h : ∀ s, P s → P (x s).2) (hS : ∀ s, P s → S s) :
    Invariant P S x := by
  intro s hs
  have hx := h s hs
  cases ho : (x s).1 with
  | ret a => exact hx
  | raise e => exact hx
  | stuck => exact hS _ hx

theorem pure (a : α) : Invariant P S (pure a : Prog σ ε α) := Spec.pure fun _ h => h

theorem raise (e : ε) : Invariant P S (Prog.raise e : Prog σ ε α) := Spec.raise fun _ h => h

theorem modify {f : σ → σ} (h : ∀ s, P s → P (f s)) :
    Invariant P S (Prog.modify f : Prog σ ε Unit) := Spec.modify h

theorem ofExcept (r : Except ε α) : Invariant P S (Prog.ofExcept r) :=
  Spec.ofExcept (fun _ _ _ h => h) fun _ _ _ h => h

theorem bind {x : Prog σ ε α} {f : α → Prog σ ε β} (hx : Invariant P S x)
    (hf : ∀ a, Invariant P S (f a)) : Invariant P S (x >>= f) := Spec.bind _ hx hf

/-- What is read does not matter for an invariant. -/
theorem get {f : σ → Prog σ ε β} (h : ∀ s, Invariant P S (f s)) :
    Invariant P S (Prog.get >>= f) := Spec.get fun s => (h s).pre fun _ ht => ht.2

theorem rescue {x : Prog σ ε α} {h : ε → Prog σ ε α} (hx : Invariant P S x)
    (hh : ∀ e, Invariant P S (h e)) : Invariant P S (Prog.rescue x h) := Spec.rescue _ hx hh

theorem ite {c : Prop} [Decidable c] {x y : Prog σ ε α} (hx : Invariant P S x)
    (hy : Invariant P S y) : Invariant P S (if c then x else y) := by
  by_cases h : c
  · rw [if_pos h]
    exact hx
  · rw [if_neg h]
    exact hy

theorem zoom {view : σ → τ} {put : τ → σ → σ} (x : Prog τ ε α) (hP : ∀ t s, P s → P (put t s))
    (hS : ∀ s, P s → S s) : Invariant P S (Prog.zoom view put x) :=
  (Spec.zoom (A := fun _ => True) hP fun _ _ _ => trivial).weaken (fun _ h => h)
    (fun _ _ h => h) (fun _ _ h => h.2) hS

end Invariant

end Effect
