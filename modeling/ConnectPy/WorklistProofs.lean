import Mathlib.Data.Fintype.Card
import Mathlib.Data.Finset.Card
import Mathlib.Logic.Relation

/-! # Worklists — exploring a graph with keys that were seen

    A queue of nodes is worked off: a node whose key was seen is dropped, any other is
    yielded, its key is seen from then on, and the nodes it leads to join the queue.
    On a finite graph this ends: a node that is yielded makes one key less unseen.

    Keys that were seen before need not be looked behind if everything they lead to
    was seen too, or is in the queue (`Pending`).  Each turn keeps that, and with an
    empty queue it says that what was seen is closed (`explore_closed`). -/

namespace Worklist

variable {ν κ : Type} [Fintype ν] [DecidableEq κ] (key : ν → κ) (next : ν → List ν)

/-- How many nodes have a key that was not seen. -/
def unseen (seen : Finset κ) : Nat := (Finset.univ.filter fun n => key n ∉ seen).card

theorem unseen_insert {seen : Finset κ} {n : ν} (h : key n ∉ seen) :
    unseen key (insert (key n) seen) < unseen key seen := by
  refine Finset.card_lt_card (Finset.ssubset_iff_of_subset ?_ |>.mpr ⟨n, ?_, ?_⟩)
  · intro m hm
    rw [Finset.mem_filter] at hm ⊢
    exact ⟨hm.1, fun hseen => hm.2 (Finset.mem_insert_of_mem hseen)⟩
  · exact Finset.mem_filter.mpr ⟨Finset.mem_univ n, h⟩
  · intro hn
    exact (Finset.mem_filter.mp hn).2 (Finset.mem_insert_self _ _)

/-- Work off a queue: the nodes that are yielded, and the keys seen then. -/
def explore {ν κ : Type} [Fintype ν] [DecidableEq κ] (key : ν → κ) (next : ν → List ν)
    (seen : Finset κ) : List ν → List ν × Finset κ
  | [] => ([], seen)
  | n :: queue =>
      if _h : key n ∈ seen then explore key next seen queue
      else
        let r := explore key next (insert (key n) seen) (queue ++ next n)
        (n :: r.1, r.2)
termination_by queue => (unseen key seen, queue.length)
decreasing_by
  · exact Prod.Lex.right _ (Nat.lt_succ_self _)
  · exact Prod.Lex.left _ _ (unseen_insert key _h)

section Turns

variable {key next} {seen : Finset κ} {n : ν} {queue : List ν}

@[simp] theorem explore_nil : explore key next seen [] = ([], seen) := by rw [explore]

theorem explore_seen (h : key n ∈ seen) :
    explore key next seen (n :: queue) = explore key next seen queue := by
  rw [explore, dif_pos h]

theorem explore_unseen (h : key n ∉ seen) :
    explore key next seen (n :: queue)
      = (n :: (explore key next (insert (key n) seen) (queue ++ next n)).1,
        (explore key next (insert (key n) seen) (queue ++ next n)).2) := by
  rw [explore, dif_neg h]

end Turns

/-- The keys seen in the end are those seen before and those yielded. -/
theorem mem_explore (seen : Finset κ) (queue : List ν) (k : κ) :
    k ∈ (explore key next seen queue).2
      ↔ k ∈ seen ∨ ∃ n ∈ (explore key next seen queue).1, key n = k := by
  induction seen, queue using explore.induct key next with
  | case1 seen => simp
  | case2 seen n queue h ih => rw [explore_seen h, ih]
  | case3 seen n queue h ih =>
      rw [explore_unseen h]
      dsimp only
      rw [ih, Finset.mem_insert]
      constructor
      · rintro ((rfl | hk) | ⟨m, hm, hk⟩)
        · exact Or.inr ⟨n, List.mem_cons_self, rfl⟩
        · exact Or.inl hk
        · exact Or.inr ⟨m, List.mem_cons_of_mem _ hm, hk⟩
      · rintro (hk | ⟨m, hm, hk⟩)
        · exact Or.inl (Or.inr hk)
        · rcases List.mem_cons.mp hm with rfl | hm
          · exact Or.inl (Or.inl hk.symm)
          · exact Or.inr ⟨m, hm, hk⟩

/-- What is yielded was not seen before, and is yielded once. -/
theorem explore_fresh (seen : Finset κ) (queue : List ν) :
    ((explore key next seen queue).1.map key).Nodup
      ∧ ∀ n ∈ (explore key next seen queue).1, key n ∉ seen := by
  induction seen, queue using explore.induct key next with
  | case1 seen => simp
  | case2 seen n queue h ih => rwa [explore_seen h]
  | case3 seen n queue h ih =>
      obtain ⟨hnodup, hfresh⟩ := ih
      rw [explore_unseen h]
      refine ⟨List.nodup_cons.mpr ⟨?_, hnodup⟩, fun m hm => ?_⟩
      · intro hn
        obtain ⟨m, hm, hkey⟩ := List.mem_map.mp hn
        exact hfresh m hm (hkey ▸ Finset.mem_insert_self _ _)
      · rcases List.mem_cons.mp hm with rfl | hm
        · exact h
        · exact fun hseen => hfresh m hm (Finset.mem_insert_of_mem hseen)

/-! ## Closure -/

/-- What a key that was seen leads to was seen. -/
def Closed (seen : Finset κ) : Prop := ∀ n, key n ∈ seen → ∀ m ∈ next n, key m ∈ seen

/-- It was seen, or is in the queue. -/
def Pending (seen : Finset κ) (queue : List ν) : Prop :=
  ∀ n, key n ∈ seen → ∀ m ∈ next n, key m ∈ seen ∨ m ∈ queue

variable {key next}

/-- **What was seen in the end is closed.** -/
theorem explore_closed (hkey : Function.Injective key) {seen : Finset κ} {queue : List ν}
    (h : Pending key next seen queue) : Closed key next (explore key next seen queue).2 := by
  induction seen, queue using explore.induct key next with
  | case1 seen =>
      rw [explore_nil]
      exact fun n hn m hm => (h n hn m hm).resolve_right List.not_mem_nil
  | case2 seen n queue hn ih =>
      rw [explore_seen hn]
      refine ih fun a ha m hm => ?_
      rcases h a ha m hm with hseen | hmem
      · exact Or.inl hseen
      · rcases List.mem_cons.mp hmem with rfl | hmem
        · exact Or.inl hn
        · exact Or.inr hmem
  | case3 seen n queue hn ih =>
      rw [explore_unseen hn]
      refine ih fun a ha m hm => ?_
      rcases Finset.mem_insert.mp ha with heq | ha
      · -- The node that was taken off the queue: its own are in the queue now.
        obtain rfl := hkey heq
        exact Or.inr (List.mem_append_right _ hm)
      · rcases h a ha m hm with hseen | hmem
        · exact Or.inl (Finset.mem_insert_of_mem hseen)
        · rcases List.mem_cons.mp hmem with rfl | hmem
          · exact Or.inl (Finset.mem_insert_self _ _)
          · exact Or.inr (List.mem_append_left _ hmem)

/-- Some steps of the graph. -/
def Leads (next : ν → List ν) : ν → ν → Prop := Relation.ReflTransGen fun n m => m ∈ next n

omit [Fintype ν] [DecidableEq κ] in
/-- What is closed has all that can be reached from it. -/
theorem Closed.leads {seen : Finset κ} (h : Closed key next seen) {n m : ν}
    (hn : key n ∈ seen) (hleads : Leads next n m) : key m ∈ seen := by
  induction hleads with
  | refl => exact hn
  | tail _ hstep ih => exact h _ ih _ hstep

/-- Nothing is yielded that cannot be reached from the queue. -/
theorem explore_leads (seen : Finset κ) (queue : List ν) :
    ∀ m ∈ (explore key next seen queue).1, ∃ n ∈ queue, Leads next n m := by
  induction seen, queue using explore.induct key next with
  | case1 seen =>
      rw [explore_nil]
      exact fun m hm => nomatch hm
  | case2 seen n queue h ih =>
      rw [explore_seen h]
      intro m hm
      obtain ⟨a, ha, hleads⟩ := ih m hm
      exact ⟨a, List.mem_cons_of_mem _ ha, hleads⟩
  | case3 seen n queue h ih =>
      rw [explore_unseen h]
      intro m hm
      rcases List.mem_cons.mp hm with rfl | hm
      · exact ⟨_, List.mem_cons_self, .refl⟩
      · obtain ⟨a, ha, hleads⟩ := ih m hm
        rcases List.mem_append.mp ha with ha | ha
        · exact ⟨a, List.mem_cons_of_mem _ ha, hleads⟩
        · exact ⟨n, List.mem_cons_self, .head ha hleads⟩

end Worklist
