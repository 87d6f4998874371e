import Mathlib.Algebra.GroupWithZero.Nat

/-! # Insertion-ordered dictionaries and multimaps

    `Dict` is a dictionary that remembers the order in which its keys came in:
    updating a present key keeps its place, a new key goes to the end, and a
    removed key leaves no trace.  A list of entries whose keys are distinct is
    the whole representation; the distinctness is a field.

    `Multimap` keeps a nonempty list of values under each key.  `allitems` lists
    its pairs group by group, and reading that list back pair by pair gives the
    multimap again (`ofItems_allitems`). -/

namespace OrderedDict

variable {κ ν : Type} [DecidableEq κ]

/-! ## Entry lists -/

/-- The value under `k`, if any. -/
def lookup (k : κ) : List (κ × ν) → Option ν
  | [] => none
  | (a, b) :: l => if a = k then some b else lookup k l

/-- Update the entry of `k` in place, or open a new last entry with `new`. -/
def upsert (k : κ) (new : ν) (f : ν → ν) : List (κ × ν) → List (κ × ν)
  | [] => [(k, new)]
  | (a, b) :: l => if a = k then (a, f b) :: l else (a, b) :: upsert k new f l

theorem lookup_cons_self (k : κ) (b : ν) (l : List (κ × ν)) :
    lookup k ((k, b) :: l) = some b := if_pos rfl

theorem lookup_cons_ne {k a : κ} (h : a ≠ k) (b : ν) (l : List (κ × ν)) :
    lookup k ((a, b) :: l) = lookup k l := if_neg h

/-- A key without a value is no key. -/
theorem lookup_eq_none_iff (k : κ) (l : List (κ × ν)) :
    lookup k l = none ↔ k ∉ l.map Prod.fst := by
  induction l with
  | nil => simp [lookup]
  | cons hd l ih =>
      obtain ⟨a, b⟩ := hd
      by_cases h : a = k
      · subst h
        rw [lookup_cons_self]
        simp
      · rw [lookup_cons_ne h, ih, List.map_cons, List.mem_cons]
        exact ⟨fun hn hor => hor.elim (fun he => h he.symm) hn, fun hn hm => hn (Or.inr hm)⟩

/-- The first list that has the key decides. -/
theorem lookup_append (k : κ) (l m : List (κ × ν)) :
    lookup k (l ++ m) = (lookup k l).or (lookup k m) := by
  induction l with
  | nil => rfl
  | cons hd l ih =>
      obtain ⟨a, b⟩ := hd
      rw [List.cons_append]
      by_cases h : a = k
      · subst h
        rw [lookup_cons_self, lookup_cons_self]
        rfl
      · rw [lookup_cons_ne h, lookup_cons_ne h, ih]

/-- A key that is there stays in its place. -/
theorem upsert_of_mem {k : κ} (new : ν) (f : ν → ν) {l : List (κ × ν)}
    (h : k ∈ l.map Prod.fst) : (upsert k new f l).map Prod.fst = l.map Prod.fst := by
  induction l with
  | nil => exact nomatch h
  | cons hd l ih =>
      obtain ⟨a, b⟩ := hd
      rw [upsert]
      by_cases ha : a = k
      · rw [if_pos ha]
        rfl
      · rw [if_neg ha, List.map_cons, List.map_cons]
        have hk : k ∈ l.map Prod.fst := by
          rcases List.mem_cons.mp h with he | hm
          · exact absurd he.symm ha
          · exact hm
        rw [ih hk]

/-- A new key comes last. -/
theorem upsert_of_notMem {k : κ} (new : ν) (f : ν → ν) {l : List (κ × ν)}
    (h : k ∉ l.map Prod.fst) : upsert k new f l = l ++ [(k, new)] := by
  induction l with
  | nil => rfl
  | cons hd l ih =>
      obtain ⟨a, b⟩ := hd
      have ha : a ≠ k := fun he => h (by simp [he])
      have hk : k ∉ l.map Prod.fst := fun hm => h (List.mem_cons_of_mem _ hm)
      rw [upsert, if_neg ha, ih hk]
      rfl

/-- Updating a present entry by its own value changes nothing. -/
theorem upsert_id_of_mem {k : κ} (new : ν) {l : List (κ × ν)} (h : k ∈ l.map Prod.fst) :
    upsert k new (fun b => b) l = l := by
  induction l with
  | nil => exact nomatch h
  | cons hd l ih =>
      obtain ⟨a, b⟩ := hd
      rw [upsert]
      by_cases ha : a = k
      · rw [if_pos ha]
      · rw [if_neg ha]
        rcases List.mem_cons.mp h with he | hm
        · exact absurd he.symm ha
        · rw [ih hm]

/-- The value for a new entry does not matter when the key is present. -/
theorem upsert_congr_of_mem {k : κ} (new new' : ν) (f : ν → ν) {l : List (κ × ν)}
    (h : k ∈ l.map Prod.fst) : upsert k new f l = upsert k new' f l := by
  induction l with
  | nil => exact nomatch h
  | cons hd l ih =>
      obtain ⟨a, b⟩ := hd
      rw [upsert, upsert]
      by_cases ha : a = k
      · rw [if_pos ha, if_pos ha]
      · rw [if_neg ha, if_neg ha]
        rcases List.mem_cons.mp h with he | hm
        · exact absurd he.symm ha
        · rw [ih hm]

/-- Updating the key of the last entry, absent before it, touches that entry. -/
theorem upsert_last {k : κ} (new b : ν) (f : ν → ν) {l : List (κ × ν)}
    (h : k ∉ l.map Prod.fst) : upsert k new f (l ++ [(k, b)]) = l ++ [(k, f b)] := by
  induction l with
  | nil => exact if_pos rfl
  | cons hd l ih =>
      obtain ⟨a, c⟩ := hd
      have ha : a ≠ k := fun he => h (by simp [he])
      have hk : k ∉ l.map Prod.fst := fun hm => h (List.mem_cons_of_mem _ hm)
      rw [List.cons_append, upsert, if_neg ha, ih hk]
      rfl

/-- The entries after an update: old ones, and the updated or the new one. -/
theorem mem_upsert {k : κ} {new : ν} {f : ν → ν} {l : List (κ × ν)} {e : κ × ν}
    (h : e ∈ upsert k new f l) : e ∈ l ∨ e = (k, new) ∨ ∃ b, (k, b) ∈ l ∧ e = (k, f b) := by
  induction l with
  | nil => exact Or.inr (Or.inl (by simpa [upsert] using h))
  | cons hd l ih =>
      obtain ⟨a, b⟩ := hd
      rw [upsert] at h
      by_cases ha : a = k
      · subst ha
        rw [if_pos rfl] at h
        rcases List.mem_cons.mp h with rfl | hm
        · exact Or.inr (Or.inr ⟨b, by simp, rfl⟩)
        · exact Or.inl (List.mem_cons_of_mem _ hm)
      · rw [if_neg ha] at h
        rcases List.mem_cons.mp h with rfl | hm
        · exact Or.inl (by simp)
        · rcases ih hm with h1 | h1 | ⟨c, hc, h1⟩
          · exact Or.inl (List.mem_cons_of_mem _ h1)
          · exact Or.inr (Or.inl h1)
          · exact Or.inr (Or.inr ⟨c, List.mem_cons_of_mem _ hc, h1⟩)

/-- No key comes twice. -/
theorem upsert_nodup (k : κ) (new : ν) (f : ν → ν) {l : List (κ × ν)}
    (h : (l.map Prod.fst).Nodup) : ((upsert k new f l).map Prod.fst).Nodup := by
  by_cases hk : k ∈ l.map Prod.fst
  · rw [upsert_of_mem new f hk]
    exact h
  · rw [upsert_of_notMem new f hk, List.map_append]
    refine List.nodup_append.mpr ⟨h, by simp, ?_⟩
    intro a ha b hb hab
    have hbk : b = k := by simpa using hb
    exact hk (hbk ▸ hab ▸ ha)

/-- The value of the key: the new one, or the old one changed. -/
theorem lookup_upsert_self (k : κ) (new : ν) (f : ν → ν) (l : List (κ × ν)) :
    lookup k (upsert k new f l) = some ((lookup k l).elim new f) := by
  induction l with
  | nil => exact lookup_cons_self k new []
  | cons hd l ih =>
      obtain ⟨a, b⟩ := hd
      rw [upsert]
      by_cases ha : a = k
      · subst ha
        rw [if_pos rfl, lookup_cons_self, lookup_cons_self]
        rfl
      · rw [if_neg ha, lookup_cons_ne ha, lookup_cons_ne ha, ih]

/-- Other keys keep their values. -/
theorem lookup_upsert_ne {k k' : κ} (h : k ≠ k') (new : ν) (f : ν → ν) (l : List (κ × ν)) :
    lookup k' (upsert k new f l) = lookup k' l := by
  induction l with
  | nil => exact lookup_cons_ne h new []
  | cons hd l ih =>
      obtain ⟨a, b⟩ := hd
      rw [upsert]
      by_cases ha : a = k
      · subst ha
        rw [if_pos rfl, lookup_cons_ne h, lookup_cons_ne h]
      · rw [if_neg ha]
        by_cases hb : a = k'
        · subst hb
          rw [lookup_cons_self, lookup_cons_self]
        · rw [lookup_cons_ne hb, lookup_cons_ne hb, ih]

/-- Looking up where every value was replaced by one made from its entry. -/
theorem lookup_map {μ : Type} (f : κ → ν → μ) (k : κ) (l : List (κ × ν)) :
    lookup k (l.map fun e => (e.1, f e.1 e.2)) = (lookup k l).map (f k) := by
  induction l with
  | nil => rfl
  | cons e l ih =>
      obtain ⟨a, b⟩ := e
      rw [List.map_cons]
      by_cases ha : a = k
      · subst ha
        rw [lookup_cons_self, lookup_cons_self]
        rfl
      · rw [lookup_cons_ne ha, lookup_cons_ne ha, ih]

omit [DecidableEq κ] in
/-- A sum that grows at one of its places. -/
theorem sum_map_grows {f g : κ → Nat} {k : κ} {n : Nat} (hk : f k = g k + n)
    (hother : ∀ a ≠ k, f a = g a) {keys : List κ} (hnodup : keys.Nodup) (hmem : k ∈ keys) :
    (keys.map f).sum = (keys.map g).sum + n := by
  induction keys with
  | nil => exact nomatch hmem
  | cons a keys ih =>
      rw [List.nodup_cons] at hnodup
      rw [List.map_cons, List.map_cons, List.sum_cons, List.sum_cons]
      rcases List.mem_cons.mp hmem with rfl | htail
      · have hrest : keys.map f = keys.map g :=
          List.map_congr_left fun b hb => hother b fun h => hnodup.1 (h ▸ hb)
        rw [hrest, hk]
        omega
      · have hne : a ≠ k := fun h => hnodup.1 (h ▸ htail)
        rw [ih hnodup.2 htail, hother a hne]
        omega

/-- Summing over the keys of a larger dictionary what a smaller one holds there. -/
theorem sum_lookup {l : List (κ × ν)} (hl : (l.map Prod.fst).Nodup) {keys : List κ}
    (hkeys : keys.Nodup) (hsub : ∀ e ∈ l, e.1 ∈ keys) (f : ν → Nat) :
    (keys.map fun k => ((lookup k l).map f).getD 0).sum = (l.map fun e => f e.2).sum := by
  induction l with
  | nil =>
      refine List.sum_eq_zero_iff_forall_eq_nat.mpr fun n hn => ?_
      obtain ⟨k, -, rfl⟩ := List.mem_map.mp hn
      rfl
  | cons e l ih =>
      obtain ⟨a, b⟩ := e
      rw [List.map_cons, List.nodup_cons] at hl
      have hnone : lookup a l = none := (lookup_eq_none_iff a l).mpr hl.1
      have hgrows := sum_map_grows (f := fun k => ((lookup k ((a, b) :: l)).map f).getD 0)
        (g := fun k => ((lookup k l).map f).getD 0) (k := a) (n := f b)
        (by simp [lookup_cons_self, hnone])
        (fun c hc => by simp [lookup_cons_ne (Ne.symm hc)]) hkeys (hsub (a, b) (by simp))
      rw [hgrows, ih hl.2 fun e he => hsub e (List.mem_cons_of_mem _ he), List.map_cons,
        List.sum_cons]
      exact Nat.add_comm _ _

/-! ## Dictionaries -/

/-- A dictionary in insertion order. -/
structure Dict (κ ν : Type) where
  entries : List (κ × ν)
  nodup   : (entries.map Prod.fst).Nodup

namespace Dict

omit [DecidableEq κ] in
/-- A dictionary is its entries. -/
@[ext] theorem ext {d e : Dict κ ν} (h : d.entries = e.entries) : d = e := by
  cases d; cases e; cases h; rfl

def empty : Dict κ ν := ⟨[], List.nodup_nil⟩

def keys (d : Dict κ ν) : List κ := d.entries.map Prod.fst

def get? (d : Dict κ ν) (k : κ) : Option ν := lookup k d.entries

def contains (d : Dict κ ν) (k : κ) : Bool := (d.get? k).isSome

/-- Update in place or open a new last entry. -/
def upsert (d : Dict κ ν) (k : κ) (new : ν) (f : ν → ν) : Dict κ ν :=
  ⟨OrderedDict.upsert k new f d.entries, upsert_nodup k new f d.nodup⟩

/-- `d[k] = v`. -/
def insert (d : Dict κ ν) (k : κ) (v : ν) : Dict κ ν := d.upsert k v fun _ => v

/-- `del d[k]`, nothing when the key is absent. -/
def erase (d : Dict κ ν) (k : κ) : Dict κ ν :=
  ⟨d.entries.filter fun p => p.1 ≠ k,
    d.nodup.sublist (List.filter_sublist.map Prod.fst)⟩

@[simp] theorem get?_empty (k : κ) : (empty : Dict κ ν).get? k = none := rfl

theorem get?_upsert_self (d : Dict κ ν) (k : κ) (new : ν) (f : ν → ν) :
    (d.upsert k new f).get? k = some ((d.get? k).elim new f) :=
  lookup_upsert_self k new f d.entries

theorem get?_upsert_ne (d : Dict κ ν) {k k' : κ} (h : k ≠ k') (new : ν) (f : ν → ν) :
    (d.upsert k new f).get? k' = d.get? k' :=
  lookup_upsert_ne h new f d.entries

@[simp] theorem get?_insert_self (d : Dict κ ν) (k : κ) (v : ν) :
    (d.insert k v).get? k = some v := by
  rw [insert, get?_upsert_self]
  cases d.get? k <;> rfl

theorem get?_insert_ne (d : Dict κ ν) {k k' : κ} (h : k ≠ k') (v : ν) :
    (d.insert k v).get? k' = d.get? k' :=
  d.get?_upsert_ne h v _

theorem get?_erase_self (d : Dict κ ν) (k : κ) : (d.erase k).get? k = none := by
  refine (lookup_eq_none_iff k _).mpr ?_
  simp [erase]

theorem get?_erase_ne (d : Dict κ ν) {k k' : κ} (h : k ≠ k') :
    (d.erase k).get? k' = d.get? k' := by
  show lookup k' (d.entries.filter fun p => p.1 ≠ k) = lookup k' d.entries
  induction d.entries with
  | nil => rfl
  | cons hd l ih =>
      obtain ⟨a, b⟩ := hd
      by_cases ha : a = k
      · subst ha
        rw [List.filter_cons_of_neg (by simp), lookup_cons_ne h, ih]
      · rw [List.filter_cons_of_pos (by simpa using ha)]
        by_cases hb : a = k'
        · subst hb
          rw [lookup_cons_self, lookup_cons_self]
        · rw [lookup_cons_ne hb, lookup_cons_ne hb, ih]

/-- To contain a key is to have it among the keys. -/
theorem contains_iff (d : Dict κ ν) (k : κ) : d.contains k = true ↔ k ∈ d.keys := by
  have h := lookup_eq_none_iff k d.entries
  rw [contains, get?, keys]
  cases hl : lookup k d.entries with
  | none => simpa using h.mp hl
  | some v =>
      rw [hl] at h
      simpa using h

/-- Without keys there are no entries. -/
theorem eq_empty {d : Dict κ ν} (h : ∀ k, d.contains k = false) : d = empty := by
  have hkeys : d.keys = [] := by
    refine List.eq_nil_iff_forall_not_mem.mpr fun k hk => ?_
    have hc := (d.contains_iff k).mpr hk
    rw [h k] at hc
    exact nomatch hc
  exact ext (List.map_eq_nil_iff.mp hkeys)

/-- A dictionary of values under keys of their own: `{key(v): v for v in values}`. -/
def byKey (key : ν → κ) (values : List ν) : Dict κ ν :=
  values.foldl (fun d v => d.insert (key v) v) empty

/-- A dictionary by a key of its values stays one. -/
theorem key_of_get?_insert {key : ν → κ} {d : Dict κ ν}
    (hd : ∀ k v, d.get? k = some v → key v = k) (w : ν) {k : κ} {v : ν}
    (h : (d.insert (key w) w).get? k = some v) : key v = k := by
  by_cases hk : key w = k
  · rw [← hk, get?_insert_self] at h
    exact Option.some.inj h ▸ hk
  · rw [get?_insert_ne d hk] at h
    exact hd k v h

/-- What is found under a key has that key. -/
theorem key_of_get?_byKey {key : ν → κ} (values : List ν) {k : κ} {v : ν}
    (h : (byKey key values).get? k = some v) : key v = k := by
  have hfold : ∀ (values : List ν) (d : Dict κ ν), (∀ k v, d.get? k = some v → key v = k) →
      ∀ k v, (values.foldl (fun d v => d.insert (key v) v) d).get? k = some v → key v = k := by
    intro values
    induction values with
    | nil => exact fun d hd => hd
    | cons w values ih => exact fun d hd => ih _ fun k v h => key_of_get?_insert hd w h
  exact hfold values empty (fun k v h => nomatch h) k v h

/-- The keys after an insertion. -/
theorem mem_keys_insert (d : Dict κ ν) (k : κ) (v : ν) {a : κ} :
    a ∈ (d.insert k v).keys ↔ a = k ∨ a ∈ d.keys := by
  rw [← contains_iff, ← contains_iff, contains, contains]
  by_cases hk : k = a
  · subst hk
    rw [get?_insert_self]
    exact ⟨fun _ => Or.inl rfl, fun _ => rfl⟩
  · rw [get?_insert_ne d hk]
    exact ⟨Or.inr, fun h => h.resolve_left (Ne.symm hk)⟩

/-- The keys are those of the values. -/
theorem mem_keys_byKey {key : ν → κ} (values : List ν) {k : κ} :
    k ∈ (byKey key values).keys ↔ k ∈ values.map key := by
  have hfold : ∀ (values : List ν) (d : Dict κ ν),
      k ∈ (values.foldl (fun d v => d.insert (key v) v) d).keys
        ↔ k ∈ d.keys ∨ k ∈ values.map key := by
    intro values
    induction values with
    | nil => exact fun d => by simp
    | cons v values ih =>
        intro d
        rw [List.foldl_cons, ih, mem_keys_insert, List.map_cons, List.mem_cons]
        rw [or_comm (a := k = key v), or_assoc]
  rw [byKey, hfold]
  exact ⟨fun h => h.resolve_left List.not_mem_nil, Or.inr⟩

section InsertAll

variable {α : Type} {key : α → κ} {value : α → ν}

/-- Items in their order, each under its key. -/
def insertAll (key : α → κ) (value : α → ν) (d : Dict κ ν) (items : List α) : Dict κ ν :=
  items.foldl (fun d x => d.insert (key x) (value x)) d

/-- Insertions under other keys leave a value alone. -/
theorem get?_insertAll_other {items : List α} {k : κ} (h : ∀ x ∈ items, key x ≠ k)
    (d : Dict κ ν) : (insertAll key value d items).get? k = d.get? k := by
  induction items generalizing d with
  | nil => rfl
  | cons x items ih =>
      rw [insertAll, List.foldl_cons]
      refine (ih (fun y hy => h y (List.mem_cons_of_mem _ hy)) _).trans ?_
      exact get?_insert_ne d (h x List.mem_cons_self) _

/-- Under distinct keys each item keeps its own. -/
theorem get?_insertAll_mem {items : List α} (hkeys : (items.map key).Nodup) {x : α}
    (hx : x ∈ items) (d : Dict κ ν) :
    (insertAll key value d items).get? (key x) = some (value x) := by
  induction items generalizing d with
  | nil => exact nomatch hx
  | cons y items ih =>
      obtain ⟨hy, hkeys⟩ := List.nodup_cons.mp hkeys
      rw [insertAll, List.foldl_cons]
      rcases List.mem_cons.mp hx with rfl | hx
      · refine (get?_insertAll_other (fun z hz heq => hy ?_) _).trans (get?_insert_self d _ _)
        exact heq ▸ List.mem_map_of_mem hz
      · exact ih hkeys hx _

end InsertAll

end Dict

/-! ## Multimaps -/

/-- A dictionary of nonempty value lists: the first value and the others. -/
abbrev Multimap (κ ν : Type) := Dict κ (ν × List ν)

namespace Multimap

/-- Append a value to the group of its key, or open a new last group. -/
def add (m : Multimap κ ν) (k : κ) (v : ν) : Multimap κ ν :=
  m.upsert k (v, []) fun g => (g.1, g.2 ++ [v])

/-- Replace the group of a key by one value, in place. -/
def set (m : Multimap κ ν) (k : κ) (v : ν) : Multimap κ ν := m.insert k (v, [])

/-- Assign the values of a list of pairs one by one. -/
def setAll (m : Multimap κ ν) (l : List (κ × ν)) : Multimap κ ν :=
  l.foldl (fun acc p => set acc p.1 p.2) m

/-- The first value under a key. -/
def first? (m : Multimap κ ν) (k : κ) : Option ν := (m.get? k).map Prod.fst

/-- All values under a key. -/
def getall (m : Multimap κ ν) (k : κ) : List ν := (m.get? k).elim [] fun g => g.1 :: g.2

/-- The pairs of one group. -/
def groupItems (g : κ × ν × List ν) : List (κ × ν) :=
  (g.1, g.2.1) :: g.2.2.map fun v => (g.1, v)

/-- All pairs, group by group. -/
def allitems (m : Multimap κ ν) : List (κ × ν) := m.entries.flatMap groupItems

/-- Add the pairs of a list one by one. -/
def addAll (m : Multimap κ ν) (l : List (κ × ν)) : Multimap κ ν :=
  l.foldl (fun acc p => add acc p.1 p.2) m

/-- The multimap of a list of pairs. -/
def ofItems (l : List (κ × ν)) : Multimap κ ν := addAll Dict.empty l

omit [DecidableEq κ] in
@[simp] theorem allitems_empty : allitems (Dict.empty : Multimap κ ν) = [] := rfl

@[simp] theorem addAll_nil (m : Multimap κ ν) : addAll m [] = m := rfl

@[simp] theorem addAll_cons (m : Multimap κ ν) (p : κ × ν) (l : List (κ × ν)) :
    addAll m (p :: l) = addAll (add m p.1 p.2) l := rfl

/-- Pairs are added in order. -/
theorem addAll_append (m : Multimap κ ν) (l r : List (κ × ν)) :
    addAll m (l ++ r) = addAll (addAll m l) r := List.foldl_append

/-- Adding a value leaves the first one first. -/
theorem first?_add_self (m : Multimap κ ν) (k : κ) (v : ν) :
    first? (add m k v) k = some ((first? m k).getD v) := by
  rw [first?, first?, add, Dict.get?_upsert_self]
  cases m.get? k <;> rfl

/-- And the other keys alone. -/
theorem first?_add_ne (m : Multimap κ ν) {k k' : κ} (h : k ≠ k') (v : ν) :
    first? (add m k v) k' = first? m k' := by
  rw [first?, first?, add, Dict.get?_upsert_ne m h]

/-- Setting a value makes it the first. -/
theorem first?_set_self (m : Multimap κ ν) (k : κ) (v : ν) :
    first? (set m k v) k = some v := by
  rw [first?, set, Dict.get?_insert_self]
  rfl

/-- And leaves the other keys alone. -/
theorem first?_set_ne (m : Multimap κ ν) {k k' : κ} (h : k ≠ k') (v : ν) :
    first? (set m k v) k' = first? m k' := by
  rw [first?, first?, set, Dict.get?_insert_ne m h]

/-- A value that is added comes last. -/
theorem getall_add_self (m : Multimap κ ν) (k : κ) (v : ν) :
    getall (add m k v) k = getall m k ++ [v] := by
  rw [getall, getall, add, Dict.get?_upsert_self]
  cases m.get? k <;> rfl

theorem getall_add_ne (m : Multimap κ ν) {k k' : κ} (h : k ≠ k') (v : ν) :
    getall (add m k v) k' = getall m k' := by
  rw [getall, getall, add, Dict.get?_upsert_ne m h]

/-- A value that is set is the only one. -/
theorem getall_set_self (m : Multimap κ ν) (k : κ) (v : ν) : getall (set m k v) k = [v] := by
  rw [getall, set, Dict.get?_insert_self]
  rfl

theorem getall_set_ne (m : Multimap κ ν) {k k' : κ} (h : k ≠ k') (v : ν) :
    getall (set m k v) k' = getall m k' := by
  rw [getall, getall, set, Dict.get?_insert_ne m h]

/-- An erased key has no values. -/
theorem getall_erase_self (m : Multimap κ ν) (k : κ) : getall (m.erase k) k = [] := by
  rw [getall, Dict.get?_erase_self]
  rfl

theorem getall_erase_ne (m : Multimap κ ν) {k k' : κ} (h : k ≠ k') :
    getall (m.erase k) k' = getall m k' := by
  rw [getall, getall, Dict.get?_erase_ne m h]

/-- The first value under a key is found by scanning the pairs. -/
theorem first?_eq_lookup (m : Multimap κ ν) (k : κ) :
    first? m k = lookup k (allitems m) := by
  show (lookup k m.entries).map Prod.fst = lookup k (m.entries.flatMap groupItems)
  induction m.entries with
  | nil => rfl
  | cons g l ih =>
      obtain ⟨a, v, vs⟩ := g
      rw [List.flatMap_cons, groupItems, List.cons_append]
      by_cases h : a = k
      · subst h
        rw [lookup_cons_self, lookup_cons_self]
        rfl
      · rw [lookup_cons_ne h, lookup_cons_ne h, lookup_append, ih]
        have hn : lookup k (vs.map fun w => (a, w)) = none := by
          refine (lookup_eq_none_iff k _).mpr ?_
          intro hk
          obtain ⟨e, he, hek⟩ := List.mem_map.mp hk
          obtain ⟨w, -, rfl⟩ := List.mem_map.mp he
          exact h hek
        rw [hn]
        rfl

/-- Scanning a list of pairs finds what the multimap read from it has first. -/
theorem first?_addAll (l : List (κ × ν)) (m : Multimap κ ν) (k : κ) :
    first? (addAll m l) k = (first? m k).or (lookup k l) := by
  induction l generalizing m with
  | nil => cases h : first? m k <;> simp [lookup, h]
  | cons p l ih =>
      obtain ⟨a, b⟩ := p
      rw [addAll_cons, ih]
      by_cases h : a = k
      · subst h
        rw [first?_add_self, lookup_cons_self]
        cases first? m a <;> rfl
      · rw [first?_add_ne m h, lookup_cons_ne h]

/-- The first value of a key is the first pair with it. -/
theorem first?_ofItems (l : List (κ × ν)) (k : κ) : first? (ofItems l) k = lookup k l :=
  first?_addAll l Dict.empty k

/-- Adding further values of the last group extends that group. -/
theorem addAll_lastGroup (l : List (κ × ν × List ν)) (k : κ) (v : ν) (vs ws : List ν)
    (h : ((l ++ [(k, v, vs)]).map Prod.fst).Nodup) :
    (addAll ⟨l ++ [(k, v, vs)], h⟩ (ws.map fun w => (k, w))).entries
      = l ++ [(k, v, vs ++ ws)] := by
  induction ws generalizing vs with
  | nil => simp
  | cons w ws ih =>
      have hk : k ∉ l.map Prod.fst := by
        rw [List.map_append] at h
        intro hm
        exact (List.nodup_append.mp h).2.2 k hm k (by simp) rfl
      have hstep : (add (⟨l ++ [(k, v, vs)], h⟩ : Multimap κ ν) k w).entries
          = l ++ [(k, v, vs ++ [w])] := upsert_last _ _ _ hk
      have h' : ((l ++ [(k, v, vs ++ [w])]).map Prod.fst).Nodup := by
        simpa using h
      have heq : add (⟨l ++ [(k, v, vs)], h⟩ : Multimap κ ν) k w
          = ⟨l ++ [(k, v, vs ++ [w])], h'⟩ := Dict.ext hstep
      rw [List.map_cons, addAll_cons, heq, ih (vs ++ [w]) h']
      simp

/-- Adding the pairs of groups with new keys opens those groups at the end. -/
theorem addAll_groups (l r : List (κ × ν × List ν)) (hl : (l.map Prod.fst).Nodup)
    (h : ((l ++ r).map Prod.fst).Nodup) :
    (addAll ⟨l, hl⟩ (r.flatMap groupItems)).entries = l ++ r := by
  induction r generalizing l with
  | nil => simp
  | cons g r ih =>
      obtain ⟨k, v, vs⟩ := g
      have hk : k ∉ l.map Prod.fst := by
        rw [List.map_append] at h
        intro hm
        exact (List.nodup_append.mp h).2.2 k hm k (by simp) rfl
      have h1 : ((l ++ [(k, v, [])]).map Prod.fst).Nodup := by
        have h0 : ((l ++ (k, v, vs) :: r).map Prod.fst).Nodup := h
        rw [List.map_append, List.map_cons] at h0
        rw [List.map_append]
        exact h0.sublist (List.Sublist.append (List.Sublist.refl _) (by simp))
      have h2 : ((l ++ [(k, v, vs)]).map Prod.fst).Nodup := by simpa using h1
      have hopen : add (⟨l, hl⟩ : Multimap κ ν) k v = ⟨l ++ [(k, v, [])], h1⟩ :=
        Dict.ext (upsert_of_notMem _ _ hk)
      have hgroup : addAll (⟨l, hl⟩ : Multimap κ ν) (groupItems (k, v, vs))
          = ⟨l ++ [(k, v, vs)], h2⟩ := by
        refine Dict.ext ?_
        rw [groupItems, addAll_cons, hopen]
        simpa using addAll_lastGroup l k v [] vs h1
      have hassoc : l ++ [(k, v, vs)] ++ r = l ++ (k, v, vs) :: r := by simp
      rw [List.flatMap_cons, addAll_append, hgroup, ih _ h2 (by rw [hassoc]; exact h), hassoc]

/-- **Reading back.**  A multimap is the multimap of its own list of pairs. -/
theorem ofItems_allitems (m : Multimap κ ν) : ofItems (allitems m) = m := by
  refine Dict.ext ?_
  exact addAll_groups [] m.entries List.nodup_nil m.nodup

/-- Setting a key adds one pair and no other. -/
theorem mem_allitems_set {m : Multimap κ ν} {k : κ} {v : ν} {e : κ × ν}
    (h : e ∈ allitems (set m k v)) : e ∈ allitems m ∨ e = (k, v) := by
  obtain ⟨g, hg, heg⟩ := List.mem_flatMap.mp h
  rcases mem_upsert hg with hold | rfl | ⟨b, _, rfl⟩
  · exact Or.inl (List.mem_flatMap.mpr ⟨g, hold, heg⟩)
  · exact Or.inr (by simpa [groupItems] using heg)
  · exact Or.inr (by simpa [groupItems] using heg)

/-- Setting puts no pairs in but those that are set. -/
theorem mem_allitems_setAll {l : List (κ × ν)} {m : Multimap κ ν} {e : κ × ν}
    (h : e ∈ allitems (setAll m l)) : e ∈ allitems m ∨ e ∈ l := by
  induction l generalizing m with
  | nil => exact Or.inl h
  | cons p l ih =>
      rcases ih h with hm | hl
      · rcases mem_allitems_set hm with hold | hnew
        · exact Or.inl hold
        · exact Or.inr (by rw [hnew]; simp)
      · exact Or.inr (List.mem_cons_of_mem _ hl)

/-- Assignments to distinct keys are found there; other keys are untouched. -/
theorem first?_setAll {l : List (κ × ν)} (hl : (l.map Prod.fst).Nodup) (m : Multimap κ ν)
    (k : κ) : first? (setAll m l) k = (lookup k l).or (first? m k) := by
  induction l generalizing m with
  | nil => rfl
  | cons p l ih =>
      obtain ⟨a, b⟩ := p
      rw [List.map_cons, List.nodup_cons] at hl
      show first? (setAll (set m a b) l) k = _
      rw [ih hl.2]
      by_cases h : a = k
      · subst h
        rw [lookup_cons_self, (lookup_eq_none_iff a l).mpr hl.1, first?_set_self]
        rfl
      · rw [lookup_cons_ne h, first?_set_ne m h]

/-- A pair under another key stays in front of all assignments. -/
theorem allitems_setAll_cons {l : List (κ × ν)} {g : κ × ν × List ν}
    {r : List (κ × ν × List ν)} (h : ((g :: r).map Prod.fst).Nodup)
    (hr : (r.map Prod.fst).Nodup) (hl : ∀ p ∈ l, g.1 ≠ p.1) :
    allitems (setAll ⟨g :: r, h⟩ l) = groupItems g ++ allitems (setAll ⟨r, hr⟩ l) := by
  induction l generalizing r with
  | nil => rfl
  | cons p l ih =>
      have hset : (set (⟨g :: r, h⟩ : Multimap κ ν) p.1 p.2).entries
          = g :: (set (⟨r, hr⟩ : Multimap κ ν) p.1 p.2).entries := by
        obtain ⟨k, v⟩ := g
        exact if_neg (hl p (by simp))
      have h' : ((g :: (set (⟨r, hr⟩ : Multimap κ ν) p.1 p.2).entries).map Prod.fst).Nodup := by
        rw [← hset]
        exact (set (⟨g :: r, h⟩ : Multimap κ ν) p.1 p.2).nodup
      have heq : set (⟨g :: r, h⟩ : Multimap κ ν) p.1 p.2
          = ⟨g :: (set (⟨r, hr⟩ : Multimap κ ν) p.1 p.2).entries, h'⟩ := Dict.ext hset
      show allitems (setAll (set ⟨g :: r, h⟩ p.1 p.2) l)
        = groupItems g ++ allitems (setAll (set ⟨r, hr⟩ p.1 p.2) l)
      rw [heq]
      exact ih h' _ fun q hq => hl q (List.mem_cons_of_mem _ hq)

omit [DecidableEq κ] in
/-- The pairs of one group all have its key. -/
theorem key_of_mem_groupItems {g : κ × ν × List ν} {e : κ × ν} (h : e ∈ groupItems g) :
    e.1 = g.1 := by
  rcases List.mem_cons.mp h with rfl | hm
  · rfl
  · obtain ⟨w, _, rfl⟩ := List.mem_map.mp hm
    rfl

omit [DecidableEq κ] in
/-- A key is kept with all of its values, or with none. -/
theorem filter_groupItems (q : κ → Bool) (g : κ × ν × List ν) :
    (groupItems g).filter (fun e => q e.1) = if q g.1 then groupItems g else [] := by
  cases hq : q g.1 with
  | true =>
      rw [if_pos rfl, List.filter_eq_self]
      intro e he
      rw [key_of_mem_groupItems he, hq]
  | false =>
      rw [if_neg Bool.false_ne_true, List.filter_eq_nil_iff]
      intro e he
      rw [key_of_mem_groupItems he, hq]
      exact Bool.false_ne_true

/-- Assigning to a key leaves the pairs under other keys as they are. -/
theorem filter_allitems_set (q : κ → Bool) (m : Multimap κ ν) {k : κ} (hk : q k = false)
    (v : ν) : (allitems (set m k v)).filter (fun e => q e.1)
      = (allitems m).filter fun e => q e.1 := by
  have hgroup : ∀ g : ν × List ν, (groupItems (k, g)).filter (fun e => q e.1) = [] := by
    intro g
    rw [filter_groupItems, hk]
    exact if_neg Bool.false_ne_true
  show ((OrderedDict.upsert k (v, []) (fun _ => (v, [])) m.entries).flatMap groupItems).filter _
    = (m.entries.flatMap groupItems).filter _
  induction m.entries with
  | nil =>
      show (groupItems (k, v, []) ++ []).filter _ = _
      rw [List.append_nil, hgroup]
      rfl
  | cons g l ih =>
      obtain ⟨a, b⟩ := g
      rw [upsert]
      by_cases ha : a = k
      · subst ha
        rw [if_pos rfl, List.flatMap_cons, List.flatMap_cons, List.filter_append,
          List.filter_append, hgroup, hgroup]
      · rw [if_neg ha, List.flatMap_cons, List.flatMap_cons, List.filter_append,
          List.filter_append, ih]

/-- Setting keys that are filtered out changes nothing of the others. -/
theorem filter_allitems_setAll (q : κ → Bool) {l : List (κ × ν)} (hl : ∀ p ∈ l, q p.1 = false)
    (m : Multimap κ ν) : (allitems (setAll m l)).filter (fun e => q e.1)
      = (allitems m).filter fun e => q e.1 := by
  induction l generalizing m with
  | nil => rfl
  | cons p l ih =>
      show (allitems (setAll (set m p.1 p.2) l)).filter _ = _
      rw [ih (fun r hr => hl r (List.mem_cons_of_mem _ hr)),
        filter_allitems_set q m (hl p (by simp))]

/-! ## Selecting and relabelling keys -/

/-- The groups whose key passes a test. -/
def filterKeys (q : κ → Bool) (m : Multimap κ ν) : Multimap κ ν :=
  ⟨m.entries.filter fun g => q g.1, m.nodup.sublist (List.filter_sublist.map Prod.fst)⟩

omit [DecidableEq κ] in
/-- To filter the keys is to filter the pairs. -/
theorem allitems_filterKeys (q : κ → Bool) (m : Multimap κ ν) :
    allitems (filterKeys q m) = (allitems m).filter fun e => q e.1 := by
  show (m.entries.filter fun g => q g.1).flatMap groupItems
    = (m.entries.flatMap groupItems).filter _
  induction m.entries with
  | nil => rfl
  | cons g l ih =>
      rw [List.flatMap_cons, List.filter_append, filter_groupItems, ← ih]
      rw [List.filter_cons]
      cases q g.1 with
      | true => rw [if_pos rfl, if_pos rfl, List.flatMap_cons]
      | false => rw [if_neg Bool.false_ne_true, if_neg Bool.false_ne_true, List.nil_append]

/-- A key that is filtered out leaves no trace in the entries. -/
theorem filter_upsert (q : κ → Bool) (k : κ) (new : ν) (f : ν → ν) (l : List (κ × ν)) :
    (OrderedDict.upsert k new f l).filter (fun e => q e.1)
      = if q k then OrderedDict.upsert k new f (l.filter fun e => q e.1)
        else l.filter fun e => q e.1 := by
  induction l with
  | nil => cases hq : q k <;> simp [OrderedDict.upsert, hq]
  | cons hd l ih =>
      obtain ⟨a, b⟩ := hd
      rw [OrderedDict.upsert]
      by_cases ha : a = k
      · subst ha
        cases hq : q a <;> simp [OrderedDict.upsert, hq]
      · rw [if_neg ha, List.filter_cons, List.filter_cons, ih]
        cases hqa : q a <;> cases hqk : q k <;> simp [OrderedDict.upsert, ha]

/-- Nor does adding under it. -/
theorem filterKeys_add (q : κ → Bool) (m : Multimap κ ν) (k : κ) (v : ν) :
    filterKeys q (add m k v) = if q k then add (filterKeys q m) k v else filterKeys q m := by
  refine Dict.ext ((filter_upsert q k _ _ m.entries).trans ?_)
  cases q k <;> rfl

/-- Nor do any pairs under such keys. -/
theorem filterKeys_addAll (q : κ → Bool) (l : List (κ × ν)) (m : Multimap κ ν) :
    filterKeys q (addAll m l) = addAll (filterKeys q m) (l.filter fun e => q e.1) := by
  induction l generalizing m with
  | nil => rfl
  | cons p l ih =>
      rw [addAll_cons, ih, filterKeys_add, List.filter_cons]
      cases q p.1 with
      | true => rw [if_pos rfl, if_pos rfl, addAll_cons]
      | false => rw [if_neg Bool.false_ne_true, if_neg Bool.false_ne_true]

/-- **Selecting keys** before or after the pairs are collected is the same. -/
theorem filter_allitems_ofItems (q : κ → Bool) (l : List (κ × ν)) :
    (allitems (ofItems l)).filter (fun e => q e.1)
      = allitems (ofItems (l.filter fun e => q e.1)) := by
  rw [← allitems_filterKeys, ofItems, filterKeys_addAll]
  rfl

/-- The groups under relabelled keys. -/
def mapKeys {κ' : Type} (f : κ → κ') (hf : ∀ a b, f a = f b → a = b) (m : Multimap κ ν) :
    Multimap κ' ν :=
  ⟨m.entries.map fun g => (f g.1, g.2), by
    have h := m.nodup
    rw [List.Nodup, List.pairwise_map] at h
    rw [List.Nodup, List.pairwise_map, List.pairwise_map]
    exact h.imp fun hne he => hne (hf _ _ he)⟩

omit [DecidableEq κ] in
/-- Renaming the keys renames the pairs. -/
theorem allitems_mapKeys {κ' : Type} (f : κ → κ') (hf : ∀ a b, f a = f b → a = b)
    (m : Multimap κ ν) : allitems (mapKeys f hf m) = (allitems m).map fun e => (f e.1, e.2) := by
  rw [allitems, mapKeys, List.flatMap_map, allitems, List.map_flatMap]
  congr 1
  funext g
  rw [groupItems, groupItems, List.map_cons, List.map_map]
  rfl

omit [DecidableEq κ] in
/-- **Relabelled pairs** are listed as they come. -/
theorem allitems_ofItems_map {κ' : Type} [DecidableEq κ'] {f : κ → κ'}
    (hf : ∀ a b, f a = f b → a = b) (m : Multimap κ ν) :
    allitems (ofItems ((allitems m).map fun e => (f e.1, e.2)))
      = (allitems m).map fun e => (f e.1, e.2) := by
  rw [← allitems_mapKeys f hf, ofItems_allitems]

/-- Collecting pairs adds no other. -/
theorem mem_allitems_addAll {l : List (κ × ν)} {m : Multimap κ ν} {e : κ × ν}
    (h : e ∈ allitems (addAll m l)) : e ∈ allitems m ∨ e ∈ l := by
  induction l generalizing m with
  | nil => exact Or.inl h
  | cons p l ih =>
      rcases ih h with hm | hl
      · obtain ⟨g, hg, heg⟩ := List.mem_flatMap.mp hm
        rcases mem_upsert hg with hold | rfl | ⟨b, hb, rfl⟩
        · exact Or.inl (List.mem_flatMap.mpr ⟨g, hold, heg⟩)
        · refine Or.inr ?_
          have hp : e = p := by simpa [groupItems] using heg
          rw [hp]
          exact List.mem_cons_self
        · -- The group was extended by the new value.
          rw [groupItems, List.map_append, ← List.cons_append, List.mem_append] at heg
          rcases heg with hold | hnew
          · exact Or.inl (List.mem_flatMap.mpr ⟨_, hb, hold⟩)
          · refine Or.inr ?_
            have hp : e = p := by simpa using hnew
            rw [hp]
            exact List.mem_cons_self
      · exact Or.inr (List.mem_cons_of_mem _ hl)

/-- Adding a pair lists one pair more. -/
theorem length_allitems_add (m : Multimap κ ν) (k : κ) (v : ν) :
    (allitems (add m k v)).length = (allitems m).length + 1 := by
  show ((OrderedDict.upsert k (v, []) (fun g => (g.1, g.2 ++ [v])) m.entries).flatMap
    groupItems).length = (m.entries.flatMap groupItems).length + 1
  induction m.entries with
  | nil => rfl
  | cons g l ih =>
      obtain ⟨a, w, ws⟩ := g
      rw [OrderedDict.upsert]
      split
      · simp only [List.flatMap_cons, List.length_append, groupItems, List.length_cons,
          List.length_map, List.length_nil]
        omega
      · rw [List.flatMap_cons, List.length_append, ih, List.flatMap_cons, List.length_append]
        omega

/-- Adding pairs lists as many more. -/
theorem length_allitems_addAll (l : List (κ × ν)) (m : Multimap κ ν) :
    (allitems (addAll m l)).length = (allitems m).length + l.length := by
  induction l generalizing m with
  | nil => rfl
  | cons p l ih =>
      rw [addAll_cons, ih, length_allitems_add, List.length_cons]
      omega

/-- The pairs are among those that were given. -/
theorem mem_of_mem_allitems_ofItems {l : List (κ × ν)} {e : κ × ν}
    (h : e ∈ allitems (ofItems l)) : e ∈ l := by
  rcases mem_allitems_addAll h with h | h
  · exact nomatch h
  · exact h

end Multimap

end OrderedDict
