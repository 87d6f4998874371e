import Mathlib.Data.List.Basic

/-! # `str.rpartition` — a text in front of its last separator, and behind it

    The text is cut where nothing behind the cut is a separator, so the cut is the
    only one of its kind (`rsplit?_eq_some_iff`). -/

namespace Partition

variable {α : Type} [DecidableEq α]

/-- A list in front of the last separator and behind it, if there is one. -/
def rsplit? (sep : α) : List α → Option (List α × List α)
  | [] => none
  | c :: rest =>
      match rsplit? sep rest with
      | some (before, behind) => some (c :: before, behind)
      | none => if c = sep then some ([], rest) else none

theorem rsplit?_eq_none_iff {sep : α} {text : List α} : rsplit? sep text = none ↔ sep ∉ text := by
  induction text with
  | nil => simp [rsplit?]
  | cons c rest ih =>
      rw [rsplit?]
      cases h : rsplit? sep rest with
      | some parts =>
          have hmem : sep ∈ rest := by
            by_contra hnot
            rw [ih.mpr hnot] at h
            exact nomatch h
          simp [hmem]
      | none =>
          have hnot := ih.mp h
          by_cases hc : c = sep
          · simp [hc]
          · simp [hc, hnot, Ne.symm hc]

/-- What is behind the last separator has none. -/
theorem rsplit?_eq_some_iff {sep : α} {text before behind : List α} :
    rsplit? sep text = some (before, behind)
      ↔ text = before ++ sep :: behind ∧ sep ∉ behind := by
  constructor
  · intro h
    induction text generalizing before with
    | nil => exact nomatch h
    | cons c rest ih =>
        rw [rsplit?] at h
        cases hrest : rsplit? sep rest with
        | some parts =>
            rw [hrest] at h
            obtain ⟨hbefore, rfl⟩ := Prod.mk.inj (Option.some.inj h)
            obtain ⟨rfl, hnot⟩ := ih hrest
            exact ⟨by rw [← hbefore]; rfl, hnot⟩
        | none =>
            rw [hrest] at h
            dsimp only at h
            by_cases hc : c = sep
            · rw [if_pos hc] at h
              obtain ⟨rfl, rfl⟩ := Prod.mk.inj (Option.some.inj h)
              exact ⟨by rw [hc]; rfl, rsplit?_eq_none_iff.mp hrest⟩
            · rw [if_neg hc] at h
              exact nomatch h
  · rintro ⟨rfl, hnot⟩
    induction before with
    | nil =>
        rw [List.nil_append, rsplit?, rsplit?_eq_none_iff.mpr hnot]
        exact if_pos rfl
    | cons c before ih => rw [List.cons_append, rsplit?, ih]

/-- `text.rpartition(sep)`, without the separator in the middle. -/
def rpartition (sep : Char) (text : String) : String × String :=
  match rsplit? sep text.toList with
  | none => ("", text)
  | some (before, behind) => (String.ofList before, String.ofList behind)

theorem rpartition_append {sep : Char} (before : String) {behind : String}
    (h : sep ∉ behind.toList) :
    rpartition sep (before ++ (String.singleton sep ++ behind)) = (before, behind) := by
  have hlist : (before ++ (String.singleton sep ++ behind)).toList
      = before.toList ++ sep :: behind.toList := by simp
  rw [rpartition, hlist, rsplit?_eq_some_iff.mpr ⟨rfl, h⟩]
  simp

theorem rpartition_none {sep : Char} {text : String} (h : sep ∉ text.toList) :
    rpartition sep text = ("", text) := by
  rw [rpartition, rsplit?_eq_none_iff.mpr h]

/-- Either there is no separator, or the text is put together from its parts. -/
theorem rpartition_cases (sep : Char) (text : String) :
    (sep ∉ text.toList ∧ rpartition sep text = ("", text))
      ∨ ∃ before behind, sep ∉ behind.toList ∧ rpartition sep text = (before, behind)
        ∧ text = before ++ (String.singleton sep ++ behind) := by
  cases h : rsplit? sep text.toList with
  | none =>
      have hnot := rsplit?_eq_none_iff.mp h
      exact Or.inl ⟨hnot, rpartition_none hnot⟩
  | some parts =>
      obtain ⟨before, behind⟩ := parts
      obtain ⟨htext, hnot⟩ := rsplit?_eq_some_iff.mp h
      refine Or.inr ⟨String.ofList before, String.ofList behind, by simpa using hnot, ?_, ?_⟩
      · rw [rpartition, h]
      · rw [← String.toList_inj]
        simp [htext]

end Partition
