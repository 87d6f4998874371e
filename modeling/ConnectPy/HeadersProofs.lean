import ConnectPy.PlatformProofs

/-! # `Headers` — the ordered, case-insensitive multimap

    A `Headers` keeps the first value of every key in `_store` and the further
    values, once a key repeats, in `_extra`.  The invariant of the two
    dictionaries is carried by the structure: keys are lowercase, and `_extra`
    holds nonempty lists under keys of `_store` only.

    `groups` reads a `Headers` as the multimap it stands for.  The operations
    refine those of the multimap (`groups_add`, `groups_setItem`) and `allitems`
    lists its pairs (`allitems_eq`), so everything else about headers is proved
    on the multimap. -/

namespace ConnectHeaders

open OrderedDict ConnectPlatform

variable {p : Platform}

/-- `connectrpc.request.Headers`. -/
structure Headers (p : Platform) where
  store : Dict String String
  extra : Option (Dict String (List String))
  store_lower : ∀ k ∈ store.keys, p.lower k = k
  extra_sub : ∀ d ∈ extra, ∀ e ∈ d.entries, e.1 ∈ store.keys ∧ e.2 ≠ []

namespace Headers

/-- Headers are their two dictionaries. -/
theorem ext {h h' : Headers p} (hs : h.store = h'.store) (hx : h.extra = h'.extra) : h = h' := by
  cases h
  cases h'
  cases hs
  cases hx
  rfl

/-- `Headers()`. -/
def empty (p : Platform) : Headers p where
  store := Dict.empty
  extra := none
  store_lower := by intro k hk; exact nomatch hk
  extra_sub := by intro d hd; exact nomatch hd

/-- `self._extra.get(key, ())`. -/
def extraOf (h : Headers p) (key : String) : List String :=
  (h.extra.bind fun d => d.get? key).getD []

theorem keys_insert_sub (d : Dict String String) (k v : String) :
    (∀ a ∈ d.keys, a ∈ (d.insert k v).keys) ∧
      ∀ a ∈ (d.insert k v).keys, a = k ∨ a ∈ d.keys := by
  by_cases hk : k ∈ d.keys
  · have hkeys : (d.insert k v).keys = d.keys := upsert_of_mem v (fun _ => v) hk
    rw [hkeys]
    exact ⟨fun a ha => ha, fun a ha => Or.inr ha⟩
  · have hent : (d.insert k v).entries = d.entries ++ [(k, v)] :=
      upsert_of_notMem v (fun _ => v) hk
    have hkeys : (d.insert k v).keys = d.keys ++ [k] := by
      rw [Dict.keys, hent, List.map_append]
      rfl
    rw [hkeys]
    refine ⟨fun a ha => List.mem_append_left _ ha, fun a ha => ?_⟩
    rcases List.mem_append.mp ha with h | h
    · exact Or.inr h
    · exact Or.inl (by simpa using h)

/-- Storing under a lowered key keeps the keys of the store lowercase. -/
theorem insert_store_lower (h : Headers p) (key value : String) :
    ∀ k ∈ (h.store.insert (p.lower key) value).keys, p.lower k = k := by
  intro k hk
  rcases (keys_insert_sub h.store (p.lower key) value).2 k hk with rfl | hk'
  · exact p.lower_idem key
  · exact h.store_lower k hk'

/-- `add`: append a value without overwriting. -/
def add (h : Headers p) (key value : String) : Headers p :=
  let k := p.lower key
  if hk : h.store.contains k = true then
    { h with
      extra := some ((h.extra.getD Dict.empty).upsert k [value] fun vs => vs ++ [value])
      extra_sub := by
        intro d hd e he
        obtain rfl := Option.some.inj hd
        have hkey := (Dict.contains_iff h.store k).mp hk
        have hold : ∀ e ∈ (h.extra.getD Dict.empty).entries,
            e.1 ∈ h.store.keys ∧ e.2 ≠ [] := by
          cases hx : h.extra with
          | none => intro e he; exact nomatch he
          | some d => exact h.extra_sub d hx
        rcases OrderedDict.mem_upsert he with h1 | rfl | ⟨b, _, rfl⟩
        · exact hold e h1
        · exact ⟨hkey, by simp⟩
        · exact ⟨hkey, by simp⟩ }
  else
    { h with
      store := h.store.insert k value
      store_lower := h.insert_store_lower key value
      extra_sub := by
        intro d hd e he
        have hsub := h.extra_sub d hd e he
        exact ⟨(keys_insert_sub h.store k value).1 _ hsub.1, hsub.2⟩ }

/-- `self[key] = value`. -/
def setItem (h : Headers p) (key value : String) : Headers p :=
  let k := p.lower key
  { store := h.store.insert k value
    extra := h.extra.map fun d => d.erase k
    store_lower := h.insert_store_lower key value
    extra_sub := by
      intro d hd e he
      cases hx : h.extra with
      | none => rw [hx] at hd; exact nomatch hd
      | some d' =>
          rw [hx] at hd
          obtain rfl := Option.some.inj hd
          have he' : e ∈ d'.entries := (List.mem_filter.mp he).1
          have hsub := h.extra_sub d' hx e he'
          exact ⟨(keys_insert_sub h.store k value).1 _ hsub.1, hsub.2⟩ }

/-- `del self[key]`, where the key may be missing as in `self.pop(key, None)`. -/
def delItem (h : Headers p) (key : String) : Headers p :=
  let k := p.lower key
  { store := h.store.erase k
    extra := h.extra.map fun d => d.erase k
    store_lower := by
      intro a ha
      obtain ⟨e, he, rfl⟩ := List.mem_map.mp ha
      exact h.store_lower e.1 (List.mem_map.mpr ⟨e, (List.mem_filter.mp he).1, rfl⟩)
    extra_sub := by
      intro d hd e he
      cases hx : h.extra with
      | none => rw [hx] at hd; exact nomatch hd
      | some d' =>
          rw [hx] at hd
          obtain rfl := Option.some.inj hd
          obtain ⟨he', hne⟩ := List.mem_filter.mp he
          obtain ⟨hkey, hval⟩ := h.extra_sub d' hx e he'
          obtain ⟨e', hmem, heq⟩ := List.mem_map.mp hkey
          exact ⟨List.mem_map.mpr ⟨e', List.mem_filter.mpr ⟨hmem, by rw [heq]; exact hne⟩, heq⟩,
            hval⟩ }

/-- `self.get(key)`. -/
def get? (h : Headers p) (key : String) : Option String := h.store.get? (p.lower key)

/-- `allitems`: every pair, duplicates included. -/
def allitems (h : Headers p) : List (String × String) :=
  match h.extra with
  | none => h.store.entries
  | some d => h.store.entries.flatMap fun e =>
      (e.1, e.2) :: ((d.get? e.1).getD []).map fun v => (e.1, v)

/-- `bool(self)`: there is a key. -/
def nonempty (h : Headers p) : Bool := !h.store.entries.isEmpty

/-- Add the pairs of a list one by one. -/
def addAll (h : Headers p) (items : List (String × String)) : Headers p :=
  items.foldl (fun acc e => acc.add e.1 e.2) h

/-- `Headers(items)` for a sequence of pairs. -/
def ofItems (p : Platform) (items : List (String × String)) : Headers p :=
  (empty p).addAll items

/-! ## Lookups -/

theorem get?_setItem_self (h : Headers p) (key value : String) :
    (h.setItem key value).get? key = some value := Dict.get?_insert_self _ _ _

theorem get?_setItem_ne (h : Headers p) {key name : String} (hne : p.lower key ≠ p.lower name)
    (value : String) : (h.setItem key value).get? name = h.get? name :=
  Dict.get?_insert_ne _ hne _

theorem get?_delItem_self (h : Headers p) (key : String) : (h.delItem key).get? key = none :=
  Dict.get?_erase_self _ _

theorem get?_delItem_ne (h : Headers p) {key name : String} (hne : p.lower key ≠ p.lower name) :
    (h.delItem key).get? name = h.get? name :=
  Dict.get?_erase_ne _ hne

/-! ## The multimap a `Headers` stands for -/

/-- Every key with its first value and its further values. -/
def groups (h : Headers p) : Multimap String String :=
  ⟨h.store.entries.map fun e => (e.1, e.2, h.extraOf e.1), by
    rw [List.map_map]
    exact h.store.nodup⟩

theorem groups_entries (h : Headers p) :
    (groups h).entries = h.store.entries.map fun e => (e.1, e.2, h.extraOf e.1) := rfl

theorem groups_keys (h : Headers p) : (groups h).entries.map Prod.fst = h.store.keys := by
  rw [groups, List.map_map]
  rfl

/-- The group of a key: what the store has for it and what `_extra` adds. -/
theorem get?_groups (h : Headers p) (key : String) :
    (groups h).get? key = (h.store.get? key).map fun v => (v, h.extraOf key) :=
  lookup_map (fun k v => (v, h.extraOf k)) key h.store.entries

/-- Looking up a key finds the first value of its group. -/
theorem get?_eq_first? (h : Headers p) (key : String) :
    h.get? key = Multimap.first? (groups h) (p.lower key) := by
  rw [Multimap.first?, get?_groups, Option.map_map]
  exact Option.map_id'.symm

@[simp] theorem groups_empty : groups (empty p) = Dict.empty := rfl

theorem allitems_eq (h : Headers p) : h.allitems = Multimap.allitems (groups h) := by
  rw [Multimap.allitems, groups, List.flatMap_map, allitems]
  cases hx : h.extra with
  | none =>
      simp only [extraOf, hx, Option.bind_none, Option.getD_none, Multimap.groupItems,
        List.map_nil]
      exact (List.flatMap_singleton' _).symm
  | some d =>
      simp only [extraOf, hx, Option.bind_some, Multimap.groupItems]

theorem nonempty_eq_false_iff (h : Headers p) : h.nonempty = false ↔ groups h = Dict.empty := by
  rw [nonempty, Bool.not_eq_false', List.isEmpty_iff]
  constructor
  · intro hn
    refine Dict.ext ?_
    show List.map _ h.store.entries = []
    rw [List.map_eq_nil_iff]
    exact hn
  · intro hg
    have hkeys := groups_keys h
    rw [hg] at hkeys
    exact List.map_eq_nil_iff.mp hkeys.symm

/-- Updating one entry commutes with pairing every entry with its further
    values, when those change at the key of the update only. -/
theorem map_upsert {l : List (String × String)} {k : String} (new : String)
    (f : String → String) {g g' : String → List String}
    {newG : String × List String} {fG : String × List String → String × List String}
    (hnew : newG = (new, g' k)) (hf : ∀ b, (k, b) ∈ l → fG (b, g k) = (f b, g' k))
    (hg : ∀ a ≠ k, g' a = g a) (hl : (l.map Prod.fst).Nodup) :
    (OrderedDict.upsert k new f l).map (fun e => (e.1, e.2, g' e.1))
      = OrderedDict.upsert k newG fG (l.map fun e => (e.1, e.2, g e.1)) := by
  induction l with
  | nil =>
      subst hnew
      rfl
  | cons hd l ih =>
      obtain ⟨a, b⟩ := hd
      rw [List.map_cons, List.nodup_cons] at hl
      rw [OrderedDict.upsert, List.map_cons, OrderedDict.upsert]
      by_cases ha : a = k
      · subst ha
        rw [if_pos rfl, if_pos rfl, List.map_cons, hf b (by simp)]
        have hrest : l.map (fun e => (e.1, e.2, g' e.1)) = l.map fun e => (e.1, e.2, g e.1) := by
          refine List.map_congr_left ?_
          intro e he
          have hne : e.1 ≠ a := fun h => hl.1 (List.mem_map.mpr ⟨e, he, h⟩)
          rw [hg e.1 hne]
        rw [hrest]
      · rw [if_neg ha, if_neg ha, List.map_cons, hg a ha,
          ih (fun c hc => hf c (List.mem_cons_of_mem _ hc)) hl.2]

/-- Without a key in the store there is nothing under it in `_extra`. -/
theorem extraOf_of_notMem (h : Headers p) {k : String} (hk : k ∉ h.store.keys) :
    h.extraOf k = [] := by
  rw [extraOf]
  cases hx : h.extra with
  | none => rfl
  | some d =>
      have hd : d.get? k = none := by
        refine (lookup_eq_none_iff k d.entries).mpr ?_
        intro hm
        obtain ⟨e, he, hek⟩ := List.mem_map.mp hm
        exact hk (hek ▸ (h.extra_sub d hx e he).1)
      rw [Option.bind_some, hd]
      rfl

theorem add_of_mem (h : Headers p) {key : String} (value : String)
    (hk : h.store.contains (p.lower key) = true) :
    (h.add key value).store = h.store ∧ (h.add key value).extra = some
      ((h.extra.getD Dict.empty).upsert (p.lower key) [value] fun vs => vs ++ [value]) := by
  rw [add, dif_pos hk]
  exact ⟨rfl, rfl⟩

theorem add_of_notMem (h : Headers p) {key : String} (value : String)
    (hk : ¬ h.store.contains (p.lower key) = true) :
    (h.add key value).store = h.store.insert (p.lower key) value
      ∧ (h.add key value).extra = h.extra := by
  rw [add, dif_neg hk]
  exact ⟨rfl, rfl⟩

/-- **`add` is the multimap's `add`** at the lowered key. -/
theorem groups_add (h : Headers p) (key value : String) :
    groups (h.add key value) = Multimap.add (groups h) (p.lower key) value := by
  refine Dict.ext ?_
  show (h.add key value).store.entries.map
      (fun e => (e.1, e.2, (h.add key value).extraOf e.1))
    = OrderedDict.upsert (p.lower key) (value, []) (fun g => (g.1, g.2 ++ [value]))
        (h.store.entries.map fun e => (e.1, e.2, h.extraOf e.1))
  by_cases hk : h.store.contains (p.lower key) = true
  · -- The store is unchanged, so the group of the key is extended in place.
    obtain ⟨hs, hx⟩ := add_of_mem h value hk
    have hmem : p.lower key ∈ h.store.entries.map Prod.fst :=
      (Dict.contains_iff h.store (p.lower key)).mp hk
    have hself : (h.add key value).extraOf (p.lower key)
        = h.extraOf (p.lower key) ++ [value] := by
      rw [extraOf, extraOf, hx, Option.bind_some, Dict.get?_upsert_self]
      cases h.extra with
      | none => rfl
      | some d =>
          show (d.get? (p.lower key)).elim [value] (fun vs => vs ++ [value])
            = (d.get? (p.lower key)).getD [] ++ [value]
          cases d.get? (p.lower key) <;> rfl
    have hother : ∀ a ≠ p.lower key, (h.add key value).extraOf a = h.extraOf a := by
      intro a ha
      rw [extraOf, extraOf, hx, Option.bind_some, Dict.get?_upsert_ne _ (Ne.symm ha)]
      cases h.extra <;> rfl
    have hmap : (OrderedDict.upsert (p.lower key) value (fun b => b) h.store.entries).map
        (fun e => (e.1, e.2, (h.add key value).extraOf e.1))
        = OrderedDict.upsert (p.lower key) (value, (h.add key value).extraOf (p.lower key))
          (fun g => (g.1, g.2 ++ [value]))
          (h.store.entries.map fun e => (e.1, e.2, h.extraOf e.1)) :=
      map_upsert value _ rfl (fun b _ => by rw [hself]) hother h.store.nodup
    rw [upsert_id_of_mem value hmem] at hmap
    rw [hs, hmap]
    exact upsert_congr_of_mem _ _ _ (by rw [List.map_map]; exact hmem)
  · -- A new key opens the last entry, with nothing in `_extra`.
    obtain ⟨hs, hx⟩ := add_of_notMem h value hk
    have hnot : p.lower key ∉ h.store.entries.map Prod.fst := fun hm =>
      hk ((Dict.contains_iff h.store (p.lower key)).mpr hm)
    have hextra : (h.add key value).extraOf = h.extraOf := by
      funext a
      rw [extraOf, extraOf, hx]
    rw [hs, hextra]
    exact map_upsert value (fun _ => value) (by rw [extraOf_of_notMem h hnot])
      (fun b hb => absurd (List.mem_map.mpr ⟨_, hb, rfl⟩) hnot) (fun _ _ => rfl) h.store.nodup

/-- **`self[key] = value` replaces the group** of the lowered key. -/
theorem groups_setItem (h : Headers p) (key value : String) :
    groups (h.setItem key value) = Multimap.set (groups h) (p.lower key) value := by
  refine Dict.ext ?_
  have hself : (h.setItem key value).extraOf (p.lower key) = [] := by
    show ((h.extra.map fun d => d.erase (p.lower key)).bind fun d =>
      d.get? (p.lower key)).getD [] = []
    cases h.extra with
    | none => rfl
    | some d =>
        rw [Option.map_some, Option.bind_some, Dict.get?_erase_self]
        rfl
  have hother : ∀ a ≠ p.lower key, (h.setItem key value).extraOf a = h.extraOf a := by
    intro a ha
    show ((h.extra.map fun d => d.erase (p.lower key)).bind fun d => d.get? a).getD [] = _
    rw [extraOf]
    cases h.extra with
    | none => rfl
    | some d => rw [Option.map_some, Option.bind_some, Option.bind_some,
        Dict.get?_erase_ne d (Ne.symm ha)]
  exact map_upsert value (fun _ => value) (by rw [hself]) (fun b _ => by rw [hself]) hother
    h.store.nodup

/-- **Deleting removes the group** of the lowered key. -/
theorem groups_delItem (h : Headers p) (key : String) :
    groups (h.delItem key) = (groups h).erase (p.lower key) := by
  refine Dict.ext ?_
  show (h.store.entries.filter fun e => e.1 ≠ p.lower key).map
      (fun e => (e.1, e.2, (h.delItem key).extraOf e.1))
    = (h.store.entries.map fun e => (e.1, e.2, h.extraOf e.1)).filter fun g => g.1 ≠ p.lower key
  rw [List.filter_map]
  refine List.map_congr_left fun e he => ?_
  have hne : e.1 ≠ p.lower key := of_decide_eq_true (List.mem_filter.mp he).2
  -- Under the other keys nothing changed in `_extra`.
  have hextra : (h.delItem key).extraOf e.1 = h.extraOf e.1 := by
    show ((h.extra.map fun d => d.erase (p.lower key)).bind fun d => d.get? e.1).getD [] = _
    rw [extraOf]
    cases h.extra with
    | none => rfl
    | some d => rw [Option.map_some, Option.bind_some, Option.bind_some,
        Dict.get?_erase_ne d (Ne.symm hne)]
  rw [hextra]

theorem groups_addAll (items : List (String × String)) (h : Headers p) :
    groups (h.addAll items)
      = Multimap.addAll (groups h) (items.map fun e => (p.lower e.1, e.2)) := by
  induction items generalizing h with
  | nil => rfl
  | cons e items ih =>
      show groups ((h.add e.1 e.2).addAll items) = _
      rw [ih, groups_add]
      rfl

theorem groups_ofItems (items : List (String × String)) :
    groups (ofItems p items) = Multimap.ofItems (items.map fun e => (p.lower e.1, e.2)) :=
  groups_addAll items (empty p)

/-- The keys of `allitems` are keys of the store, so they are lowercase. -/
theorem allitems_lower (h : Headers p) : ∀ e ∈ h.allitems, p.lower e.1 = e.1 := by
  intro e he
  rw [allitems_eq, Multimap.allitems] at he
  obtain ⟨g, hg, heg⟩ := List.mem_flatMap.mp he
  have hkey : e.1 = g.1 := by
    rcases List.mem_cons.mp heg with rfl | hm
    · rfl
    · obtain ⟨v, _, rfl⟩ := List.mem_map.mp hm
      rfl
  rw [hkey]
  refine h.store_lower g.1 ?_
  rw [← groups_keys h]
  exact List.mem_map.mpr ⟨g, hg, rfl⟩

theorem map_lower_allitems (h : Headers p) :
    (h.allitems.map fun e => (p.lower e.1, e.2)) = h.allitems := by
  have hid : h.allitems.map (fun e => (p.lower e.1, e.2)) = h.allitems.map fun e => e := by
    refine List.map_congr_left ?_
    intro e he
    rw [h.allitems_lower e he]
  rw [hid, List.map_id']

/-- **Copying.**  `Headers(list(h.allitems()))` stands for the same multimap. -/
theorem groups_ofItems_allitems (h : Headers p) :
    groups (ofItems p h.allitems) = groups h := by
  rw [groups_ofItems, map_lower_allitems, allitems_eq, Multimap.ofItems_allitems]

/-- Assign the pairs of a list one by one. -/
def setAll (h : Headers p) (items : List (String × String)) : Headers p :=
  items.foldl (fun acc e => acc.setItem e.1 e.2) h

/-- Assignments are the multimap's, at the lowered keys. -/
theorem groups_setAll_lower (items : List (String × String)) (h : Headers p) :
    groups (h.setAll items)
      = Multimap.setAll (groups h) (items.map fun e => (p.lower e.1, e.2)) := by
  induction items generalizing h with
  | nil => rfl
  | cons e items ih =>
      show groups ((h.setItem e.1 e.2).setAll items) = _
      rw [ih, groups_setItem]
      rfl

/-- Assignments to lowercase keys are the multimap's. -/
theorem groups_setAll {items : List (String × String)} (hitems : ∀ e ∈ items, p.lower e.1 = e.1)
    (h : Headers p) : groups (h.setAll items) = Multimap.setAll (groups h) items := by
  have hid : items.map (fun e => (p.lower e.1, e.2)) = items.map fun e => e :=
    List.map_congr_left fun e he => by rw [hitems e he]
  rw [groups_setAll_lower, hid, List.map_id']

end Headers

end ConnectHeaders
