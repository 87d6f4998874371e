import ConnectPy.EffectProofs

/-! # Brackets — nested, and on a stack

    Some parts are entered before a program and left after it, each with the token
    its entry gave and the exception that the program or a part within it ended in.
    They can be nested around the program, one `try … finally` within the other, or
    be entered in a loop that keeps them on a stack and left in a loop that takes
    them off it.

    Both come to the same, whatever raises where (`run_eq_nest`): the stack is the
    part of the nest that is still to be left (`run_eq`). -/

namespace Effect

variable {σ ε ι τ α β : Type}

/-! ## Running programs -/

/-- One program after another, by how the first one ends. -/
theorem Prog.bind_apply (x : Prog σ ε α) (f : α → Prog σ ε β) (s : σ) :
    (x >>= f) s = match x s with
      | (.ret a, s) => f a s
      | (.raise e, s) => (.raise e, s)
      | (.stuck, s) => (.stuck, s) := rfl

/-- A value is passed on. -/
theorem Prog.bind_ret {x : Prog σ ε α} {f : α → Prog σ ε β} {s s' : σ} {a : α}
    (h : x s = (.ret a, s')) : (x >>= f) s = f a s' := by
  rw [Prog.bind_apply, h]

/-- An exception skips the rest. -/
theorem Prog.bind_raise {x : Prog σ ε α} {f : α → Prog σ ε β} {s s' : σ} {e : ε}
    (h : x s = (.raise e, s')) : (x >>= f) s = (.raise e, s') := by
  rw [Prog.bind_apply, h]

/-- What waits for ever never comes to the rest. -/
theorem Prog.bind_stuck {x : Prog σ ε α} {f : α → Prog σ ε β} {s s' : σ}
    (h : x s = (.stuck, s')) : (x >>= f) s = (.stuck, s') := by
  rw [Prog.bind_apply, h]

/-- An attempt returns the value. -/
theorem Prog.attempt_ret {x : Prog σ ε α} {s s' : σ} {a : α} (h : x s = (.ret a, s')) :
    Prog.attempt x s = (.ret (.ok a), s') := by
  rw [Prog.attempt, h]

/-- Or the exception. -/
theorem Prog.attempt_raise {x : Prog σ ε α} {s s' : σ} {e : ε} (h : x s = (.raise e, s')) :
    Prog.attempt x s = (.ret (.error e), s') := by
  rw [Prog.attempt, h]

theorem Prog.attempt_stuck {x : Prog σ ε α} {s s' : σ} (h : x s = (.stuck, s')) :
    Prog.attempt x s = (.stuck, s') := by
  rw [Prog.attempt, h]

/-- A handler is not needed for a value. -/
theorem Prog.rescue_ret {x : Prog σ ε α} {f : ε → Prog σ ε α} {s s' : σ} {a : α}
    (h : x s = (.ret a, s')) : Prog.rescue x f s = (.ret a, s') := by
  rw [Prog.rescue, h]

/-- It is run on an exception, in the state that this left. -/
theorem Prog.rescue_raise {x : Prog σ ε α} {f : ε → Prog σ ε α} {s s' : σ} {e : ε}
    (h : x s = (.raise e, s')) : Prog.rescue x f s = f e s' := by
  rw [Prog.rescue, h]

theorem Prog.rescue_stuck {x : Prog σ ε α} {f : ε → Prog σ ε α} {s s' : σ}
    (h : x s = (.stuck, s')) : Prog.rescue x f s = (.stuck, s') := by
  rw [Prog.rescue, h]

/-- After a return the cleanup is what is left to run. -/
theorem Prog.always_ret {x : Prog σ ε Unit} {fin : Prog σ ε Unit} {s s' : σ}
    (h : x s = (.ret (), s')) : Prog.always x fin s = fin s' := by
  rw [Prog.always, h]
  dsimp only
  cases fin s' with
  | mk o t => cases o <;> rfl

/-- Cleaning up depends on how the program ends only. -/
theorem Prog.always_congr {x y : Prog σ ε α} {fin : Prog σ ε Unit} {s t : σ} (h : x s = y t) :
    Prog.always x fin s = Prog.always y fin t := by
  rw [Prog.always, Prog.always, h]

/-- Programs that come to the same are rescued alike. -/
theorem Prog.rescue_congr {x y : Prog σ ε α} {h : ε → Prog σ ε α} {s t : σ} (heq : x s = y t) :
    Prog.rescue x h s = Prog.rescue y h t := by
  rw [Prog.rescue, Prog.rescue, heq]

theorem Prog.id_map (x : Prog σ ε α) : id <$> x = x := by
  funext s
  show Prog.bind x Prog.pure s = x s
  rw [Prog.bind]
  cases h : x s with
  | mk o s' => cases o <;> rfl

/-- Programs in a row associate. -/
theorem Prog.bind_assoc {γ : Type} (x : Prog σ ε α) (f : α → Prog σ ε β) (g : β → Prog σ ε γ) :
    x >>= f >>= g = x >>= fun a => f a >>= g := by
  funext s
  show Prog.bind (Prog.bind x f) g s = Prog.bind x (fun a => Prog.bind (f a) g) s
  rw [Prog.bind, Prog.bind, Prog.bind]
  cases h : x s with
  | mk o s' => cases o <;> rfl

instance : LawfulMonad (Prog σ ε) :=
  LawfulMonad.mk' _ Prog.id_map (fun _ _ => rfl) Prog.bind_assoc

/-- What follows depends on the result and the state left only. -/
theorem Prog.bind_congr {x y : Prog σ ε α} {f : α → Prog σ ε β} {s t : σ} (h : x s = y t) :
    (x >>= f) s = (y >>= f) t := by
  rw [Prog.bind_apply, Prog.bind_apply, h]

section Followed

variable {x : Prog σ ε α} {h : ε → Prog σ ε α} {f : α → Prog σ ε β} {s : σ}

/-- What follows a `try` and its handler can as well follow within both, unless it raises
    after the `try`. -/
theorem Prog.rescue_bind (hf : ∀ a s', x s = (.ret a, s') → ∀ e, (f a s').1 ≠ .raise e) :
    Prog.rescue (x >>= f) (fun e => h e >>= f) s = (Prog.rescue x h >>= f) s := by
  cases hx : x s with
  | mk o s' =>
      cases o with
      | ret a =>
          rw [Prog.bind_ret (Prog.rescue_ret hx)]
          have hxf : (x >>= f) s = f a s' := Prog.bind_ret hx
          cases hfa : f a s' with
          | mk o' s'' =>
              rw [hfa] at hxf
              cases o' with
              | ret b => exact Prog.rescue_ret hxf
              | raise e => exact absurd (congrArg Prod.fst hfa) (hf a s' hx e)
              | stuck => exact Prog.rescue_stuck hxf
      | raise e =>
          rw [Prog.rescue_raise (Prog.bind_raise hx)]
          exact Prog.bind_congr (Prog.rescue_raise hx).symm
      | stuck =>
          rw [Prog.rescue_stuck (Prog.bind_stuck hx)]
          exact (Prog.bind_stuck (Prog.rescue_stuck hx)).symm

/-- If it does, the handler has the exception, and what follows is run again. -/
theorem Prog.rescue_bind_raise {a : α} {e : ε} {s' s'' : σ} (hx : x s = (.ret a, s'))
    (hf : f a s' = (.raise e, s'')) :
    Prog.rescue (x >>= f) (fun e => h e >>= f) s = (h e >>= f) s'' :=
  Prog.rescue_raise ((Prog.bind_ret hx).trans hf)

end Followed

/-- What is done with the outcome depends on the outcome and the state left only. -/
theorem Prog.attempt_bind_congr {x y : Prog σ ε α} {f : Except ε α → Prog σ ε β} {s t : σ}
    (h : x s = y t) : (Prog.attempt x >>= f) s = (Prog.attempt y >>= f) t := by
  refine Prog.bind_congr ?_
  rw [Prog.attempt, Prog.attempt, h]

/-- What holds after a program, and is kept by what is done with its outcome, holds in
    the end. -/
theorem Prog.attempt_bind_keeps {P : σ → Prop} {x : Prog σ ε α} {f : Except ε α → Prog σ ε β}
    (hf : ∀ o s, P s → P (f o s).2) {s : σ} (h : P (x s).2) : P ((Prog.attempt x >>= f) s).2 := by
  cases hx : x s with
  | mk o s' =>
      rw [hx] at h
      cases o with
      | ret a =>
          rw [Prog.bind_ret (Prog.attempt_ret hx)]
          exact hf (.ok a) s' h
      | raise e =>
          rw [Prog.bind_ret (Prog.attempt_raise hx)]
          exact hf (.error e) s' h
      | stuck =>
          rw [Prog.bind_stuck (Prog.attempt_stuck hx)]
          exact h

/-- Attempting a program and raising again what it raised changes nothing. -/
theorem Prog.attempt_ofExcept (x : Prog σ ε α) :
    (Prog.attempt x >>= Prog.ofExcept) = x := by
  funext s
  cases h : x s with
  | mk o s' =>
      cases o with
      | ret a => exact Prog.bind_ret (Prog.attempt_ret h)
      | raise e => exact Prog.bind_ret (Prog.attempt_raise h)
      | stuck => exact Prog.bind_stuck (Prog.attempt_stuck h)

/-- Every exception of the program is in `A`. -/
def Raises (A : ε → Prop) (x : Prog σ ε α) : Prop := ∀ s e, (x s).1 = .raise e → A e

/-- A weaker bound on what is raised. -/
theorem Raises.mono {A B : ε → Prop} {x : Prog σ ε α} (hx : Raises A x) (h : ∀ e, A e → B e) :
    Raises B x :=
  fun s e he => h e (hx s e he)

/-- A value raises nothing. -/
theorem Raises.pure {A : ε → Prop} (a : α) : Raises A (Prog.pure a : Prog σ ε α) := by
  intro s e he
  cases he

/-- An exception is raised as it is. -/
theorem Raises.raise {A : ε → Prop} {e : ε} (h : A e) : Raises A (Prog.raise e : Prog σ ε α) := by
  rintro s e' ⟨⟩
  exact h

/-- An attempt raises nothing. -/
theorem Raises.attempt {A : ε → Prop} (x : Prog σ ε α) : Raises A (Prog.attempt x) := by
  intro s e he
  rw [Prog.attempt] at he
  cases hx : x s with
  | mk o s' =>
      rw [hx] at he
      cases o <;> cases he

/-- Programs in a row raise what one of them raises. -/
theorem Raises.bind {A : ε → Prop} {x : Prog σ ε α} {f : α → Prog σ ε β} (hx : Raises A x)
    (hf : ∀ a, Raises A (f a)) : Raises A (x >>= f) := by
  intro s e he
  cases h : x s with
  | mk o s' =>
      cases o with
      | ret a =>
          rw [Prog.bind_ret h] at he
          exact hf a s' e he
      | raise e' =>
          rw [Prog.bind_raise h] at he
          injection he with he
          exact hx s e (by rw [h, he])
      | stuck =>
          rw [Prog.bind_stuck h] at he
          exact nomatch he

/-- After an attempt, the outcome is all that is known. -/
theorem Raises.attempt_bind {A : ε → Prop} {x : Prog σ ε α} {f : Except ε α → Prog σ ε β}
    (hx : Raises A x) (hf : ∀ o, (∀ e, o = .error e → A e) → Raises A (f o)) :
    Raises A (Prog.attempt x >>= f) := by
  intro s e he
  cases h : x s with
  | mk o s' =>
      cases o with
      | ret a =>
          rw [Prog.bind_ret (Prog.attempt_ret h)] at he
          exact hf (.ok a) nofun s' e he
      | raise e' =>
          rw [Prog.bind_ret (Prog.attempt_raise h)] at he
          refine hf (.error e') ?_ s' e he
          rintro e'' ⟨⟩
          exact hx s e' (by rw [h])
      | stuck =>
          rw [Prog.bind_stuck (Prog.attempt_stuck h)] at he
          exact nomatch he

/-- A result raises its error. -/
theorem Raises.ofExcept {A : ε → Prop} {o : Except ε α} (h : ∀ e, o = .error e → A e) :
    Raises A (Prog.ofExcept o : Prog σ ε α) := by
  intro s e he
  cases o with
  | ok a => exact nomatch he
  | error e' =>
      injection he with he
      exact h e (congrArg Except.error he)

/-! ## Brackets -/

/-- What is done on entering and on leaving a part, and what a part that is left with
    an exception is told. -/
structure Brackets (σ ε ι τ : Type) where
  enter : ι → Prog σ ε τ
  leave : ι → τ → Option ε → Prog σ ε Unit
  seen  : ε → Option ε

namespace Brackets

variable (b : Brackets σ ε ι τ)

/-- What a part is told about how the program within it ended. -/
def told : Except ε α → Option ε
  | .ok _ => none
  | .error e => b.seen e

/-- A program within a part.  An exception on leaving replaces how it ended. -/
def around (i : ι) (x : Prog σ ε α) : Prog σ ε α := do
  let token ← b.enter i
  let outcome ← Prog.attempt x
  b.leave i token (b.told outcome)
  Prog.ofExcept outcome

/-- A program within all of them, the first outermost. -/
def nest (is : List ι) (x : Prog σ ε α) : Prog σ ε α := is.foldr b.around x

/-- Leave the parts on a stack. -/
def unwind : List (ι × τ) → Except ε α → Prog σ ε α
  | [], outcome => Prog.ofExcept outcome
  | (i, token) :: stack, outcome => do
      let left ← Prog.attempt (b.leave i token (b.told outcome))
      match left with
      | .ok _ => unwind stack outcome
      | .error e => unwind stack (.error e)

/-- Enter the parts, keeping them on a stack, run the program and unwind. -/
def run : List ι → List (ι × τ) → Prog σ ε α → Prog σ ε α
  | [], stack, x => do
      let outcome ← Prog.attempt x
      b.unwind stack outcome
  | i :: is, stack, x => do
      let entered ← Prog.attempt (b.enter i)
      match entered with
      | .ok token => run is ((i, token) :: stack) x
      | .error e => b.unwind stack (.error e)

/-- An exception comes from the program or from a bracket. -/
theorem raises_around {A : ε → Prop} {x : Prog σ ε α} {i : ι} (henter : Raises A (b.enter i))
    (hleave : ∀ token error, Raises A (b.leave i token error)) (hx : Raises A x) :
    Raises A (b.around i x) :=
  henter.bind fun token => hx.attempt_bind fun o ho =>
    (hleave token (b.told o)).bind fun _ => .ofExcept ho

section Step

variable {b} {i : ι} {token : τ} {stack : List (ι × τ)} {outcome : Except ε α} {s s' : σ}

/-- A bracket that returns keeps the outcome. -/
theorem unwind_ret (h : b.leave i token (b.told outcome) s = (.ret (), s')) :
    b.unwind ((i, token) :: stack) outcome s = b.unwind stack outcome s' :=
  Prog.bind_ret (Prog.attempt_ret h)

/-- One that raises changes it for those outside. -/
theorem unwind_raise {e : ε} (h : b.leave i token (b.told outcome) s = (.raise e, s')) :
    b.unwind ((i, token) :: stack) outcome s = b.unwind stack (.error e) s' :=
  Prog.bind_ret (Prog.attempt_raise h)

/-- And one that waits for ever leaves them waiting. -/
theorem unwind_stuck (h : b.leave i token (b.told outcome) s = (.stuck, s')) :
    b.unwind ((i, token) :: stack) outcome s = (.stuck, s') :=
  Prog.bind_stuck (Prog.attempt_stuck h)

end Step

/-- Leaving the innermost part and then the others is unwinding. -/
theorem unwind_around (i : ι) (token : τ) (stack : List (ι × τ)) (outcome : Except ε α) :
    (do
      let o ← Prog.attempt (do
        b.leave i token (b.told outcome)
        Prog.ofExcept outcome)
      b.unwind stack o) = b.unwind ((i, token) :: stack) outcome := by
  funext s
  cases h : b.leave i token (b.told outcome) s with
  | mk o s' =>
      cases o with
      | ret u =>
          rw [unwind_ret h]
          cases outcome with
          | ok a => exact Prog.bind_ret (Prog.attempt_ret (Prog.bind_ret h))
          | error e => exact Prog.bind_ret (Prog.attempt_raise (Prog.bind_ret h))
      | raise e =>
          rw [unwind_raise h]
          exact Prog.bind_ret (Prog.attempt_raise (Prog.bind_raise h))
      | stuck =>
          rw [unwind_stuck h]
          exact Prog.bind_stuck (Prog.attempt_stuck (Prog.bind_stuck h))

/-- **The stack is what is still to be left.**  By induction on the parts still to be
    entered. -/
theorem run_eq (is : List ι) (stack : List (ι × τ)) (x : Prog σ ε α) :
    b.run is stack x = (do
      let outcome ← Prog.attempt (b.nest is x)
      b.unwind stack outcome) := by
  induction is generalizing stack with
  | nil => rfl
  | cons i is ih =>
      funext s
      have hnest : b.nest (i :: is) x = b.around i (b.nest is x) := rfl
      rw [run, hnest, around]
      cases h : b.enter i s with
      | mk o s' =>
          cases o with
          | raise e =>
              rw [Prog.bind_ret (Prog.attempt_raise h)]
              exact (Prog.bind_ret (Prog.attempt_raise (Prog.bind_raise h))).symm
          | stuck =>
              rw [Prog.bind_stuck (Prog.attempt_stuck h)]
              exact (Prog.bind_stuck (Prog.attempt_stuck (Prog.bind_stuck h))).symm
          | ret token =>
              rw [Prog.bind_ret (Prog.attempt_ret h)]
              dsimp only
              rw [ih]
              -- Both sides run the nest of the others; only how it ended matters.
              cases hn : b.nest is x s' with
              | mk o' s'' =>
                  cases o' with
                  | stuck =>
                      rw [Prog.bind_stuck (Prog.attempt_stuck hn)]
                      exact (Prog.bind_stuck (Prog.attempt_stuck ((Prog.bind_ret h).trans
                        (Prog.bind_stuck (Prog.attempt_stuck hn))))).symm
                  | ret a =>
                      rw [Prog.bind_ret (Prog.attempt_ret hn), ← unwind_around]
                      exact (Prog.attempt_bind_congr ((Prog.bind_ret h).trans
                        (Prog.bind_ret (Prog.attempt_ret hn)))).symm
                  | raise e =>
                      rw [Prog.bind_ret (Prog.attempt_raise hn), ← unwind_around]
                      exact (Prog.attempt_bind_congr ((Prog.bind_ret h).trans
                        (Prog.bind_ret (Prog.attempt_raise hn)))).symm

/-- **The loops do what the nest does.** -/
theorem run_eq_nest (is : List ι) (x : Prog σ ε α) : b.run is [] x = b.nest is x :=
  (b.run_eq is [] x).trans (Prog.attempt_ofExcept _)

end Brackets

end Effect
