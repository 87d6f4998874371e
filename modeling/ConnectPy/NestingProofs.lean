import Mathlib.Data.List.Perm.Basic

/-! # Nested calls — a forest, and the log that is its walk

    Calls that are made one after the other and within one another are a forest.  What
    is written down when a call begins and when it ends makes a log; it is the walk of
    the forest when nothing is written out of order.

    From a walk the forest's nodes are read off twice, in the order they began and in
    the order they ended (`filterMap_walk_opening`, `filterMap_walk_closing`), and these
    are the same nodes (`preorder_perm_postorder`). -/

namespace Nesting

variable {ν γ β δ : Type}

/-- Nodes with what is below them, and what comes behind. -/
inductive Forest (ν : Type)
  | nil
  | node (n : ν) (below behind : Forest ν)

namespace Forest

/-- One forest behind another. -/
def append : Forest ν → Forest ν → Forest ν
  | nil, other => other
  | node n below behind, other => node n below (behind.append other)

/-- The nodes as they begin. -/
def preorder : Forest ν → List ν
  | nil => []
  | node n below behind => n :: (below.preorder ++ behind.preorder)

/-- The nodes as they end. -/
def postorder : Forest ν → List ν
  | nil => []
  | node n below behind => below.postorder ++ n :: behind.postorder

/-- **Every node that begins ends**, and no other. -/
theorem preorder_perm_postorder (f : Forest ν) : f.preorder.Perm f.postorder := by
  induction f with
  | nil => exact .refl _
  | node n below behind ihBelow ihBehind =>
      rw [preorder, postorder]
      exact ((ihBelow.append ihBehind).cons n).trans List.perm_middle.symm

variable (opening : γ → ν → List β) (inner : ν → γ) (closing : ν → List β)

/-- What is written of a forest, within some context. -/
def walk : γ → Forest ν → List β
  | _, nil => []
  | c, node n below behind =>
      opening c n ++ (walk (inner n) below ++ (closing n ++ walk c behind))

theorem walk_append (c : γ) (f g : Forest ν) :
    walk opening inner closing c (f.append g)
      = walk opening inner closing c f ++ walk opening inner closing c g := by
  induction f with
  | nil => rfl
  | node n below behind _ ih =>
      rw [append, walk, walk, ih, List.append_assoc, List.append_assoc, List.append_assoc]

section Read

variable {opening closing} {read : β → Option δ} {shown : ν → δ}

/-- What is written once when a node begins, and never when one ends. -/
theorem filterMap_walk_opening (hopen : ∀ c n, (opening c n).filterMap read = [shown n])
    (hclose : ∀ n, (closing n).filterMap read = []) (c : γ) (f : Forest ν) :
    (walk opening inner closing c f).filterMap read = f.preorder.map shown := by
  induction f generalizing c with
  | nil => rfl
  | node n below behind ihBelow ihBehind =>
      rw [walk, List.filterMap_append, List.filterMap_append, List.filterMap_append, hopen,
        hclose, ihBelow, ihBehind, List.nil_append, preorder, List.map_cons, List.map_append]
      rfl

/-- What is written once when a node ends, and never when one begins. -/
theorem filterMap_walk_closing (hopen : ∀ c n, (opening c n).filterMap read = [])
    (hclose : ∀ n, (closing n).filterMap read = [shown n]) (c : γ) (f : Forest ν) :
    (walk opening inner closing c f).filterMap read = f.postorder.map shown := by
  induction f generalizing c with
  | nil => rfl
  | node n below behind ihBelow ihBehind =>
      rw [walk, List.filterMap_append, List.filterMap_append, List.filterMap_append, hopen,
        hclose, ihBelow, ihBehind, List.nil_append, postorder, List.map_append, List.map_cons]
      rfl

end Read

end Forest

end Nesting
