/-! # Resumable parsers — input in chunks against input in one piece

    A resumable parser owns a state and a buffer of unread symbols.  It is fed
    one chunk at a time: the chunk is appended to the buffer and the parser
    moves until it has to wait for more input or fails.  Two laws are enough
    for the cut points to be invisible:

    * **monotonicity** — a move that is possible on a buffer is the same move
      when more input stands behind that buffer (only waiting may change);
    * **progress** — every move shrinks the buffer or the rank of the state.

    `Parser` carries both laws as fields.  The results are `drain_append`
    (draining a longer buffer continues from where the shorter one stopped) and
    `run_eq_drain` (any chunking against a single chunk). -/

namespace Resumable

variable {β σ ε α : Type}

/-- What a parser does when it looks at its state and its unread symbols. -/
inductive Move (β σ ε α : Type) where
  | wait
  | advance (s : σ) (rest : List β) (out : Option α)
  | fail (s : σ) (rest : List β) (e : ε)

/-- A parser together with the laws that make it resumable. -/
structure Parser (β σ ε α : Type) where
  move : σ → List β → Move β σ ε α
  rank : σ → Nat
  advance_smaller : ∀ {s : σ} {b : List β} {s' : σ} {r : List β} {o : Option α},
    move s b = .advance s' r o → r.length + rank s' < b.length + rank s
  advance_mono : ∀ {s : σ} {b : List β} {s' : σ} {r : List β} {o : Option α},
    move s b = .advance s' r o → ∀ x, move s (b ++ x) = .advance s' (r ++ x) o
  fail_mono : ∀ {s : σ} {b : List β} {s' : σ} {r : List β} {e : ε},
    move s b = .fail s' r e → ∀ x, move s (b ++ x) = .fail s' (r ++ x) e

/-- Where a parser stands after some input: what it put out, its state, the
    unread symbols, and the failure that stopped it, if any. -/
structure Result (β σ ε α : Type) where
  outs  : List α
  state : σ
  rest  : List β
  error : Option ε

/-- Put earlier outputs in front of a result. -/
def Result.prepend (os : List α) (r : Result β σ ε α) : Result β σ ε α :=
  { r with outs := os ++ r.outs }

@[simp] theorem Result.prepend_outs (os : List α) (r : Result β σ ε α) :
    (r.prepend os).outs = os ++ r.outs := rfl

@[simp] theorem Result.prepend_state (os : List α) (r : Result β σ ε α) :
    (r.prepend os).state = r.state := rfl

@[simp] theorem Result.prepend_rest (os : List α) (r : Result β σ ε α) :
    (r.prepend os).rest = r.rest := rfl

@[simp] theorem Result.prepend_error (os : List α) (r : Result β σ ε α) :
    (r.prepend os).error = r.error := rfl

@[simp] theorem Result.prepend_nil (r : Result β σ ε α) : r.prepend [] = r := rfl

@[simp] theorem Result.prepend_prepend (os ps : List α) (r : Result β σ ε α) :
    (r.prepend ps).prepend os = r.prepend (os ++ ps) := by
  simp [Result.prepend, List.append_assoc]

/-- Move until the parser waits or fails. -/
def Parser.drain (p : Parser β σ ε α) (s : σ) (b : List β) : Result β σ ε α :=
  match h : p.move s b with
  | .wait => ⟨[], s, b, none⟩
  | .advance s' r o =>
      have : r.length + p.rank s' < b.length + p.rank s := p.advance_smaller h
      (p.drain s' r).prepend o.toList
  | .fail s' r e => ⟨[], s', r, some e⟩
termination_by b.length + p.rank s

theorem Parser.drain_wait (p : Parser β σ ε α) {s : σ} {b : List β}
    (h : p.move s b = .wait) : p.drain s b = ⟨[], s, b, none⟩ := by
  rw [Parser.drain]
  split
  · rfl
  · next h' => rw [h] at h'; exact nomatch h'
  · next h' => rw [h] at h'; exact nomatch h'

theorem Parser.drain_advance (p : Parser β σ ε α) {s s' : σ} {b r : List β} {o : Option α}
    (h : p.move s b = .advance s' r o) :
    p.drain s b = (p.drain s' r).prepend o.toList := by
  rw [Parser.drain]
  split
  · next h' => rw [h] at h'; exact nomatch h'
  · next h' =>
      rw [h] at h'
      injection h' with h1 h2 h3
      subst h1; subst h2; subst h3
      rfl
  · next h' => rw [h] at h'; exact nomatch h'

theorem Parser.drain_fail (p : Parser β σ ε α) {s s' : σ} {b r : List β} {e : ε}
    (h : p.move s b = .fail s' r e) : p.drain s b = ⟨[], s', r, some e⟩ := by
  rw [Parser.drain]
  split
  · next h' => rw [h] at h'; exact nomatch h'
  · next h' => rw [h] at h'; exact nomatch h'
  · next h' =>
      rw [h] at h'
      injection h' with h1 h2 h3
      subst h1; subst h2; subst h3
      rfl

/-- Induction along the moves of a parser: what holds of waiting and failing
    states, and is carried back over a move, holds of every state. -/
theorem Parser.drain_induct (p : Parser β σ ε α) {P : σ → List β → Prop}
    (wait : ∀ s b, p.move s b = .wait → P s b)
    (advance : ∀ s b s' r o, p.move s b = .advance s' r o → P s' r → P s b)
    (fail : ∀ s b s' r e, p.move s b = .fail s' r e → P s b) :
    ∀ (s : σ) (b : List β), P s b := by
  suffices H : ∀ (n : Nat) (s : σ) (b : List β), b.length + p.rank s ≤ n → P s b by
    intro s b
    exact H _ s b (Nat.le_refl _)
  intro n
  induction n with
  | zero =>
      intro s b hle
      cases hm : p.move s b with
      | wait => exact wait s b hm
      | advance s' r o =>
          have := p.advance_smaller hm
          omega
      | fail s' r e => exact fail s b s' r e hm
  | succ n ih =>
      intro s b hle
      cases hm : p.move s b with
      | wait => exact wait s b hm
      | advance s' r o =>
          have hlt := p.advance_smaller hm
          exact advance s b s' r o hm (ih s' r (by omega))
      | fail s' r e => exact fail s b s' r e hm

/-- **Congruence.**  Two parsers that move alike where an invariant holds, which the
    moves keep, drain alike from there; a drain that did not fail keeps it too. -/
theorem Parser.drain_congr (p q : Parser β σ ε α) {I : σ → Prop}
    (alike : ∀ s b, I s → q.move s b = p.move s b)
    (keeps : ∀ {s b s' r o}, I s → p.move s b = .advance s' r o → I s') :
    ∀ (s : σ) (b : List β), I s →
      q.drain s b = p.drain s b ∧ ((p.drain s b).error = none → I (p.drain s b).state) := by
  refine p.drain_induct ?_ ?_ ?_
  · intro s b hm hs
    rw [p.drain_wait hm, q.drain_wait ((alike s b hs).trans hm)]
    exact ⟨rfl, fun _ => hs⟩
  · intro s b s' r o hm ih hs
    obtain ⟨heq, hkept⟩ := ih (keeps hs hm)
    rw [p.drain_advance hm, q.drain_advance ((alike s b hs).trans hm), heq]
    exact ⟨rfl, hkept⟩
  · intro s b s' r e hm hs
    rw [p.drain_fail hm, q.drain_fail ((alike s b hs).trans hm)]
    exact ⟨rfl, fun h => nomatch h⟩

/-- A drain that did not fail stops at a state that waits. -/
theorem Parser.drain_waits (p : Parser β σ ε α) :
    ∀ (s : σ) (b : List β), (p.drain s b).error = none →
      p.move (p.drain s b).state (p.drain s b).rest = .wait := by
  refine p.drain_induct ?_ ?_ ?_
  · intro s b hm _
    rw [p.drain_wait hm]
    exact hm
  · intro s b s' r o hm ih h
    rw [p.drain_advance hm] at h ⊢
    exact ih h
  · intro s b s' r e hm h
    rw [p.drain_fail hm] at h
    exact nomatch h

/-- **Continuation.**  If the shorter buffer drains without a failure, draining
    the longer one continues from the state and the rest it left. -/
theorem Parser.drain_append (p : Parser β σ ε α) (x : List β) :
    ∀ (s : σ) (b : List β), (p.drain s b).error = none →
      p.drain s (b ++ x) =
        (p.drain (p.drain s b).state ((p.drain s b).rest ++ x)).prepend (p.drain s b).outs := by
  refine p.drain_induct ?_ ?_ ?_
  · intro s b hm _
    rw [p.drain_wait hm]
    rfl
  · intro s b s' r o hm ih h
    rw [p.drain_advance hm] at h ⊢
    rw [p.drain_advance (p.advance_mono hm x), ih h]
    simp
  · intro s b s' r e hm h
    rw [p.drain_fail hm] at h
    exact nomatch h

/-- **Failures are stable.**  More input behind a failure changes nothing but
    the unread symbols. -/
theorem Parser.drain_append_error (p : Parser β σ ε α) (x : List β) :
    ∀ (s : σ) (b : List β), (p.drain s b).error ≠ none →
      p.drain s (b ++ x) = { p.drain s b with rest := (p.drain s b).rest ++ x } := by
  refine p.drain_induct ?_ ?_ ?_
  · intro s b hm h
    rw [p.drain_wait hm] at h
    exact absurd rfl h
  · intro s b s' r o hm ih h
    rw [p.drain_advance hm] at h ⊢
    rw [p.drain_advance (p.advance_mono hm x), ih h]
    rfl
  · intro s b s' r e hm _
    rw [p.drain_fail hm, p.drain_fail (p.fail_mono hm x)]

/-! ## Runs over a list of chunks -/

/-- Feed the chunks one after the other, stopping at the first failure. -/
def Parser.run (p : Parser β σ ε α) (s : σ) (b : List β) : List (List β) → Result β σ ε α
  | [] => ⟨[], s, b, none⟩
  | c :: cs =>
      match (p.drain s (b ++ c)).error with
      | some _ => p.drain s (b ++ c)
      | none =>
          (p.run (p.drain s (b ++ c)).state (p.drain s (b ++ c)).rest cs).prepend
            (p.drain s (b ++ c)).outs

theorem Parser.run_cons_of_error (p : Parser β σ ε α) {s : σ} {b c : List β}
    (cs : List (List β)) (h : (p.drain s (b ++ c)).error ≠ none) :
    p.run s b (c :: cs) = p.drain s (b ++ c) := by
  rw [Parser.run]
  split
  · rfl
  · next h' => exact absurd h' h

theorem Parser.run_cons_of_ok (p : Parser β σ ε α) {s : σ} {b c : List β}
    (cs : List (List β)) (h : (p.drain s (b ++ c)).error = none) :
    p.run s b (c :: cs) =
      (p.run (p.drain s (b ++ c)).state (p.drain s (b ++ c)).rest cs).prepend
        (p.drain s (b ++ c)).outs := by
  rw [Parser.run]
  split
  · next h' => rw [h] at h'; exact nomatch h'
  · rfl

/-- Congruence, over any chunks. -/
theorem Parser.run_congr (p q : Parser β σ ε α) {I : σ → Prop}
    (alike : ∀ s b, I s → q.move s b = p.move s b)
    (keeps : ∀ {s b s' r o}, I s → p.move s b = .advance s' r o → I s') :
    ∀ (cs : List (List β)) (s : σ) (b : List β), I s → q.run s b cs = p.run s b cs := by
  intro cs
  induction cs with
  | nil =>
      intro s b _
      rfl
  | cons c cs ih =>
      intro s b hs
      obtain ⟨heq, hkept⟩ := p.drain_congr q alike keeps s (b ++ c) hs
      by_cases he : (p.drain s (b ++ c)).error = none
      · rw [p.run_cons_of_ok cs he, q.run_cons_of_ok cs (by rw [heq]; exact he), heq,
          ih _ _ (hkept he)]
      · rw [p.run_cons_of_error cs he, q.run_cons_of_error cs (by rw [heq]; exact he), heq]

/-- **Chunking is invisible.**  From a waiting state, a run over any chunks puts
    out what one chunk puts out, fails when it fails, in the same state; and a
    run that did not fail also leaves the same unread symbols. -/
theorem Parser.run_eq_drain (p : Parser β σ ε α) :
    ∀ (cs : List (List β)) (s : σ) (b : List β), p.move s b = .wait →
      (p.run s b cs).outs = (p.drain s (b ++ cs.flatten)).outs
      ∧ (p.run s b cs).error = (p.drain s (b ++ cs.flatten)).error
      ∧ (p.run s b cs).state = (p.drain s (b ++ cs.flatten)).state
      ∧ ((p.run s b cs).error = none →
          (p.run s b cs).rest = (p.drain s (b ++ cs.flatten)).rest) := by
  intro cs
  induction cs with
  | nil =>
      intro s b hw
      rw [List.flatten_nil, List.append_nil, p.drain_wait hw]
      exact ⟨rfl, rfl, rfl, fun _ => rfl⟩
  | cons c cs ih =>
      intro s b _
      rw [List.flatten_cons, ← List.append_assoc]
      by_cases he : (p.drain s (b ++ c)).error = none
      · rw [p.run_cons_of_ok cs he, p.drain_append cs.flatten s (b ++ c) he]
        obtain ⟨h1, h2, h3, h4⟩ :=
          ih (p.drain s (b ++ c)).state (p.drain s (b ++ c)).rest
            (p.drain_waits s (b ++ c) he)
        refine ⟨?_, h2, h3, h4⟩
        simp only [Result.prepend_outs, h1]
      · rw [p.run_cons_of_error cs he, p.drain_append_error cs.flatten s (b ++ c) he]
        exact ⟨rfl, rfl, rfl, fun h => absurd h he⟩

/-- A run that stopped early left the symbols of the remaining chunks unread. -/
theorem Parser.run_rest (p : Parser β σ ε α) :
    ∀ (cs : List (List β)) (s : σ) (b : List β), p.move s b = .wait →
      ∃ x, (p.drain s (b ++ cs.flatten)).rest = (p.run s b cs).rest ++ x := by
  intro cs
  induction cs with
  | nil =>
      intro s b hw
      rw [List.flatten_nil, List.append_nil, p.drain_wait hw]
      exact ⟨[], (List.append_nil b).symm⟩
  | cons c cs ih =>
      intro s b _
      rw [List.flatten_cons, ← List.append_assoc]
      by_cases he : (p.drain s (b ++ c)).error = none
      · rw [p.run_cons_of_ok cs he, p.drain_append cs.flatten s (b ++ c) he]
        exact ih _ _ (p.drain_waits s (b ++ c) he)
      · rw [p.run_cons_of_error cs he, p.drain_append_error cs.flatten s (b ++ c) he]
        exact ⟨cs.flatten, rfl⟩

/-! ## Two runs side by side -/

section Related

variable {R : σ → σ → Prop}

/-- Two moves that differ in their states only, which are related. -/
inductive Move.Related (R : σ → σ → Prop) : Move β σ ε α → Move β σ ε α → Prop where
  | wait : Related R .wait .wait
  | advance {s t : σ} (rest : List β) (out : Option α) (h : R s t) :
      Related R (.advance s rest out) (.advance t rest out)
  | fail {s t : σ} (rest : List β) (e : ε) (h : R s t) :
      Related R (.fail s rest e) (.fail t rest e)

/-- Two results that differ in their states only, which are related. -/
structure Result.Related (R : σ → σ → Prop) (a b : Result β σ ε α) : Prop where
  outs  : a.outs = b.outs
  state : R a.state b.state
  rest  : a.rest = b.rest
  error : a.error = b.error

theorem Result.Related.prepend {a b : Result β σ ε α} (h : a.Related R b) (os : List α) :
    (a.prepend os).Related R (b.prepend os) :=
  ⟨congrArg (os ++ ·) h.outs, h.state, h.rest, h.error⟩

/-- **Related states drain alike**, if their moves are. -/
theorem Parser.drain_related (p : Parser β σ ε α)
    (alike : ∀ {s t : σ}, R s t → ∀ b, (p.move s b).Related R (p.move t b)) :
    ∀ (s : σ) (b : List β) {t : σ}, R s t → (p.drain s b).Related R (p.drain t b) := by
  refine p.drain_induct ?_ ?_ ?_
  · intro s b hm t hst
    have hmove := alike hst b
    rw [hm] at hmove
    generalize hmt : p.move t b = m at hmove
    cases hmove with
    | wait =>
        rw [p.drain_wait hm, p.drain_wait hmt]
        exact ⟨rfl, hst, rfl, rfl⟩
  · intro s b s' r o hm ih t hst
    have hmove := alike hst b
    rw [hm] at hmove
    generalize hmt : p.move t b = m at hmove
    cases hmove with
    | advance rest out h =>
        rw [p.drain_advance hm, p.drain_advance hmt]
        exact (ih h).prepend _
  · intro s b s' r e hm t hst
    have hmove := alike hst b
    rw [hm] at hmove
    generalize hmt : p.move t b = m at hmove
    cases hmove with
    | fail rest e h =>
        rw [p.drain_fail hm, p.drain_fail hmt]
        exact ⟨rfl, h, rfl, rfl⟩

/-- Related states run alike, over any chunks. -/
theorem Parser.run_related (p : Parser β σ ε α)
    (alike : ∀ {s t : σ}, R s t → ∀ b, (p.move s b).Related R (p.move t b)) :
    ∀ (cs : List (List β)) (s : σ) (b : List β) {t : σ}, R s t →
      (p.run s b cs).Related R (p.run t b cs) := by
  intro cs
  induction cs with
  | nil =>
      intro s b t hst
      exact ⟨rfl, hst, rfl, rfl⟩
  | cons c cs ih =>
      intro s b t hst
      have hdrain := p.drain_related alike s (b ++ c) hst
      by_cases he : (p.drain s (b ++ c)).error = none
      · have he' : (p.drain t (b ++ c)).error = none := hdrain.error ▸ he
        rw [p.run_cons_of_ok cs he, p.run_cons_of_ok cs he', hdrain.rest, hdrain.outs]
        exact (ih _ _ hdrain.state).prepend _
      · have he' : (p.drain t (b ++ c)).error ≠ none := hdrain.error ▸ he
        rw [p.run_cons_of_error cs he, p.run_cons_of_error cs he']
        exact hdrain

end Related

end Resumable
