import ConnectPy.HeadersProofs

/-! # `Headers` as a mapping — every operation, every reader

    The operations of `Headers` are in part its own and in part inherited from
    `MutableMapping`, which builds them from the others.  Each is compared with
    its counterpart on a list of groups, a lowercase key with its values each:
    one operation first (`apply_refines`), then any sequence of them
    (`run_refines`).

    Whatever a reader of `Headers` computes is a function of the groups
    (`observe_eq`).  The length of `allitems` is the one reader that looks at
    `_extra` alone; it counts right because `_extra` has no key of its own. -/

namespace ConnectHeadersMap

open OrderedDict ConnectPlatform ConnectHeaders

variable {p : Platform}

/-! ## Making headers -/

/-- The argument of `Headers`. -/
inductive Source where
  | mapping (items : List (String × String))
  | pairs (items : List (String × String))

/-- `{k.lower(): v for k, v in items}`. -/
def lowerAll (p : Platform) (items : List (String × String)) : Dict String String :=
  items.foldl (fun d e => d.insert (p.lower e.1) e.2) Dict.empty

theorem lowerAll_lower (items : List (String × String)) :
    ∀ k ∈ (lowerAll p items).keys, p.lower k = k := by
  have hfold : ∀ (items : List (String × String)) (d : Dict String String),
      (∀ k ∈ d.keys, p.lower k = k) →
      ∀ k ∈ (items.foldl (fun d e => d.insert (p.lower e.1) e.2) d).keys, p.lower k = k := by
    intro items
    induction items with
    | nil => exact fun d hd => hd
    | cons e items ih =>
        intro d hd
        refine ih _ fun k hk => ?_
        rcases (Dict.mem_keys_insert d _ _).mp hk with rfl | hold
        · exact p.lower_idem e.1
        · exact hd k hold
  exact hfold items Dict.empty fun k hk => absurd hk List.not_mem_nil

/-- `Headers(items)`. -/
def Source.build (p : Platform) : Source → Headers p
  | .mapping items =>
      { store := lowerAll p items
        extra := none
        store_lower := lowerAll_lower items
        extra_sub := fun _ hd => nomatch hd }
  | .pairs items => .ofItems p items

/-! ## Operations -/

/-- What an operation returns: nothing, a value or `None`, a pair, or `KeyError`. -/
inductive Answer where
  | done
  | value (v : Option String)
  | item (key value : String)
  | keyError
  deriving DecidableEq, Repr

/-- `del self[key]`. -/
def delete (h : Headers p) (key : String) : Answer × Headers p :=
  if h.store.contains (p.lower key) then (.done, h.delItem key) else (.keyError, h)

/-- `MutableMapping.pop`; without a default a missing key is an error. -/
def pop (h : Headers p) (key : String) (default : Option (Option String)) : Answer × Headers p :=
  match h.get? key with
  | some value =>
      match delete h key with
      | (.done, h) => (.value (some value), h)
      | (answer, h) => (answer, h)
  | none =>
      match default with
      | some default => (.value default, h)
      | none => (.keyError, h)

/-- `MutableMapping.popitem`, of the first key. -/
def popitem (h : Headers p) : Answer × Headers p :=
  match h.store.keys with
  | [] => (.keyError, h)
  | key :: _ =>
      match h.get? key with
      | none => (.keyError, h)
      | some value =>
          match delete h key with
          | (.done, h) => (.item key value, h)
          | (answer, h) => (answer, h)

/-- `MutableMapping.setdefault`. -/
def setdefault (h : Headers p) (key default : String) : Answer × Headers p :=
  match h.get? key with
  | some value => (.value (some value), h)
  | none => (.value (some default), h.setItem key default)

/-- A mutation of headers.  `update` has the pairs that its arguments come to. -/
inductive Op where
  | add (key value : String)
  | setItem (key value : String)
  | delItem (key : String)
  | pop (key : String) (default : Option (Option String))
  | popitem
  | setdefault (key default : String)
  | update (items : List (String × String))
  | clear

/-- One mutation. -/
def apply (h : Headers p) : Op → Answer × Headers p
  | .add key value => (.done, h.add key value)
  | .setItem key value => (.done, h.setItem key value)
  | .delItem key => delete h key
  | .pop key default => pop h key default
  | .popitem => popitem h
  | .setdefault key default => setdefault h key default
  | .update items => (.done, h.setAll items)
  | .clear => (.done, .empty p)

/-- A sequence of operations: their answers and what they leave. -/
def run {σ : Type} (step : σ → Op → Answer × σ) (s : σ) : List Op → List Answer × σ
  | [] => ([], s)
  | op :: ops =>
      let done := step s op
      let rest := run step done.2 ops
      (done.1 :: rest.1, rest.2)

/-! ## The reference: groups of values -/

/-- The groups that headers start with. -/
def Source.groups (p : Platform) : Source → Multimap String String
  | .mapping items => Multimap.setAll Dict.empty (items.map fun e => (p.lower e.1, e.2))
  | .pairs items => Multimap.ofItems (items.map fun e => (p.lower e.1, e.2))

/-- One mutation of the groups: a value joins the group of its key or opens a new
    last one, an assignment leaves one value in the group, a deletion removes it. -/
def reference (p : Platform) (m : Multimap String String) : Op → Answer × Multimap String String
  | .add key value => (.done, Multimap.add m (p.lower key) value)
  | .setItem key value => (.done, Multimap.set m (p.lower key) value)
  | .delItem key =>
      match m.get? (p.lower key) with
      | some _ => (.done, m.erase (p.lower key))
      | none => (.keyError, m)
  | .pop key default =>
      match m.get? (p.lower key), default with
      | some group, _ => (.value (some group.1), m.erase (p.lower key))
      | none, some default => (.value default, m)
      | none, none => (.keyError, m)
  | .popitem =>
      match m.entries with
      | [] => (.keyError, m)
      | (key, value, _) :: _ => (.item key value, m.erase key)
  | .setdefault key default =>
      match m.get? (p.lower key) with
      | some group => (.value (some group.1), m)
      | none => (.value (some default), Multimap.set m (p.lower key) default)
  | .update items => (.done, Multimap.setAll m (items.map fun e => (p.lower e.1, e.2)))
  | .clear => (.done, Dict.empty)

/-! ## Readers -/

/-- `getall`. -/
def getall (h : Headers p) (key : String) : List String :=
  match h.store.get? (p.lower key) with
  | none => []
  | some value => value :: h.extraOf (p.lower key)

/-- `len(self.allitems())`. -/
def allitemsLength (h : Headers p) : Nat :=
  match h.extra with
  | none => h.store.entries.length
  | some extra => h.store.entries.length + (extra.entries.map fun e => e.2.length).sum

/-- Everything that can be read. -/
structure Observed where
  getall         : String → List String
  getItem        : String → Option String
  contains       : String → Bool
  length         : Nat
  items          : List (String × String)
  keys           : List String
  values         : List String
  allitems       : List (String × String)
  allitemsLength : Nat

def observe (h : Headers p) : Observed where
  getall := getall h
  getItem := h.get?
  contains key := h.store.contains (p.lower key)
  length := h.store.entries.length
  items := h.store.entries
  keys := h.store.keys
  values := h.store.entries.map Prod.snd
  allitems := h.allitems
  allitemsLength := allitemsLength h

/-- The same, read from the groups. -/
def observeGroups (p : Platform) (m : Multimap String String) : Observed where
  getall key := Multimap.getall m (p.lower key)
  getItem key := (Multimap.getall m (p.lower key)).head?
  contains key := m.contains (p.lower key)
  length := m.entries.length
  items := m.entries.map fun g => (g.1, g.2.1)
  keys := m.keys
  values := m.entries.map fun g => g.2.1
  allitems := Multimap.allitems m
  allitemsLength := (Multimap.allitems m).length

/-- The number of pairs of some groups. -/
theorem length_allitems (m : Multimap String String) :
    (Multimap.allitems m).length
      = m.entries.length + (m.entries.map fun g => g.2.2.length).sum := by
  rw [Multimap.allitems, List.length_flatMap]
  induction m.entries with
  | nil => rfl
  | cons g l ih =>
      rw [List.map_cons, List.sum_cons, ih, List.map_cons, List.sum_cons, List.length_cons,
        Multimap.groupItems, List.length_cons, List.length_map]
      omega

/-- **The length of `allitems`** counts what `allitems` lists. -/
theorem allitemsLength_eq (h : Headers p) :
    allitemsLength h = (Multimap.allitems h.groups).length := by
  rw [length_allitems, allitemsLength]
  have hlength : h.groups.entries.length = h.store.entries.length := List.length_map _
  have hgroups : (h.groups.entries.map fun g => g.2.2.length)
      = h.store.keys.map fun k => (h.extraOf k).length := by
    rw [Headers.groups, Dict.keys, List.map_map, List.map_map]
    rfl
  rw [hlength, hgroups]
  cases hx : h.extra with
  | none =>
      have hzero : (h.store.keys.map fun k => (h.extraOf k).length).sum = 0 := by
        refine List.sum_eq_zero_iff_forall_eq_nat.mpr fun n hn => ?_
        obtain ⟨k, -, rfl⟩ := List.mem_map.mp hn
        rw [Headers.extraOf, hx]
        rfl
      rw [hzero]
      rfl
  | some extra =>
      -- `_extra` has no key that the store does not have.
      have hsub : ∀ e ∈ extra.entries, e.1 ∈ h.store.keys := fun e he =>
        (h.extra_sub extra hx e he).1
      have hextra : (fun k => (h.extraOf k).length)
          = fun k => ((lookup k extra.entries).map List.length).getD 0 := by
        funext k
        rw [Headers.extraOf, hx]
        show ((lookup k extra.entries).getD []).length = _
        cases lookup k extra.entries <;> rfl
      have hkeys : h.store.keys.Nodup := h.store.nodup
      rw [hextra, sum_lookup extra.nodup hkeys hsub]

/-- **Every reader reads the groups.** -/
theorem observe_eq (h : Headers p) : observe h = observeGroups p h.groups := by
  have hgetall : getall h = fun key => Multimap.getall h.groups (p.lower key) := by
    funext key
    rw [getall, Multimap.getall, Headers.get?_groups]
    cases h.store.get? (p.lower key) <;> rfl
  have hitem : h.get? = fun key => (Multimap.getall h.groups (p.lower key)).head? := by
    funext key
    rw [Headers.get?, Multimap.getall, Headers.get?_groups]
    cases h.store.get? (p.lower key) <;> rfl
  have hcontains : (fun key => h.store.contains (p.lower key))
      = fun key => h.groups.contains (p.lower key) := by
    funext key
    rw [Dict.contains, Dict.contains, Headers.get?_groups, Option.isSome_map]
  have hlength : h.store.entries.length = h.groups.entries.length := by
    rw [Headers.groups, List.length_map]
  have hitems : h.store.entries = h.groups.entries.map fun g => (g.1, g.2.1) := by
    rw [Headers.groups, List.map_map]
    exact (List.map_id' _).symm
  have hkeys : h.store.keys = h.groups.keys := h.groups_keys.symm
  have hvalues : h.store.entries.map Prod.snd = h.groups.entries.map fun g => g.2.1 := by
    rw [Headers.groups, List.map_map]
    rfl
  rw [observe, observeGroups, hgetall, hitem, hcontains, hlength, hkeys, hvalues,
    allitemsLength_eq, h.allitems_eq]
  rw [← hitems]

/-! ## One operation, any sequence -/

/-- Headers start with the groups of their argument. -/
theorem groups_build (source : Source) : (source.build p).groups = source.groups p := by
  cases source with
  | pairs items => exact Headers.groups_ofItems items
  | mapping items =>
      -- Without further values the comprehension assigns one item after the other.
      have hfold : ∀ (items : List (String × String)) (d : Dict String String) (h : Headers p),
          h.store = d → h.extra = none →
          (h.setAll items).store = items.foldl (fun d e => d.insert (p.lower e.1) e.2) d
            ∧ (h.setAll items).extra = none := by
        intro items
        induction items with
        | nil => exact fun d h hs hx => ⟨hs, hx⟩
        | cons e items ih =>
            intro d h hs hx
            refine ih _ (h.setItem e.1 e.2) ?_ ?_
            · rw [← hs]
              rfl
            · show h.extra.map _ = none
              rw [hx]
              rfl
      obtain ⟨hs, hx⟩ := hfold items Dict.empty (.empty p) rfl rfl
      have hbuild : Source.build p (.mapping items) = (Headers.empty p).setAll items :=
        Headers.ext hs.symm hx.symm
      rw [hbuild, Headers.groups_setAll_lower]
      rfl

theorem contains_iff_groups (h : Headers p) (key : String) :
    h.store.contains (p.lower key) = (h.groups.get? (p.lower key)).isSome := by
  rw [Dict.contains, Headers.get?_groups, Option.isSome_map]

theorem delete_refines (h : Headers p) (key : String) :
    ((delete h key).1, (delete h key).2.groups) = reference p h.groups (.delItem key) := by
  rw [delete, contains_iff_groups, reference]
  cases h.groups.get? (p.lower key) with
  | none => rfl
  | some group =>
      rw [Option.isSome_some, if_pos rfl, Headers.groups_delItem]

/-- A key that is there is deleted. -/
theorem delete_of_get? {h : Headers p} {key value : String} (hget : h.get? key = some value) :
    delete h key = (.done, h.delItem key) := by
  rw [delete, if_pos]
  rw [Dict.contains]
  exact Option.isSome_iff_exists.mpr ⟨value, hget⟩

/-- The group of a key that is there. -/
theorem group_of_get? {h : Headers p} {key value : String} (hget : h.get? key = some value) :
    h.groups.get? (p.lower key) = some (value, h.extraOf (p.lower key)) := by
  rw [Headers.get?_groups]
  exact congrArg (Option.map _) hget

theorem group_of_get?_none {h : Headers p} {key : String} (hget : h.get? key = none) :
    h.groups.get? (p.lower key) = none := by
  rw [Headers.get?_groups]
  exact congrArg (Option.map _) hget

theorem pop_refines (h : Headers p) (key : String) (default : Option (Option String)) :
    ((pop h key default).1, (pop h key default).2.groups)
      = reference p h.groups (.pop key default) := by
  rw [pop.eq_def, reference.eq_def]
  dsimp only
  cases hget : h.get? key with
  | some value =>
      rw [group_of_get? hget]
      dsimp only
      rw [delete_of_get? hget]
      dsimp only
      rw [Headers.groups_delItem]
  | none =>
      rw [group_of_get?_none hget]
      cases default <;> rfl

theorem popitem_refines (h : Headers p) :
    ((popitem h).1, (popitem h).2.groups) = reference p h.groups .popitem := by
  rw [popitem.eq_def, reference]
  cases hentries : h.store.entries with
  | nil =>
      have hkeys : h.store.keys = [] := by rw [Dict.keys, hentries]; rfl
      have hgroups : h.groups.entries = [] := by rw [Headers.groups_entries, hentries]; rfl
      rw [hkeys, hgroups]
  | cons e rest =>
      obtain ⟨key, value⟩ := e
      have hkeys : h.store.keys = key :: rest.map Prod.fst := by rw [Dict.keys, hentries]; rfl
      have hgroups : h.groups.entries = (key, value, h.extraOf key)
          :: rest.map fun e => (e.1, e.2, h.extraOf e.1) := by
        rw [Headers.groups_entries, hentries]
        rfl
      have hlower : p.lower key = key := h.store_lower key (by rw [hkeys]; exact List.mem_cons_self)
      have hget : h.get? key = some value := by
        rw [Headers.get?, hlower, Dict.get?, hentries, lookup_cons_self]
      rw [hkeys, hgroups]
      dsimp only
      rw [hget]
      dsimp only
      rw [delete_of_get? hget]
      dsimp only
      rw [Headers.groups_delItem, hlower]

/-- **One operation** has the answer and the effect that the reference has. -/
theorem apply_refines (h : Headers p) (op : Op) :
    ((apply h op).1, (apply h op).2.groups) = reference p h.groups op := by
  cases op with
  | add key value => exact congrArg (Prod.mk _) (Headers.groups_add h key value)
  | setItem key value => exact congrArg (Prod.mk _) (Headers.groups_setItem h key value)
  | delItem key => exact delete_refines h key
  | pop key default => exact pop_refines h key default
  | popitem => exact popitem_refines h
  | setdefault key default =>
      rw [apply, setdefault, reference]
      cases hget : h.get? key with
      | some value => rw [group_of_get? hget]
      | none =>
          rw [group_of_get?_none hget]
          dsimp only
          rw [Headers.groups_setItem]
  | update items => exact congrArg (Prod.mk _) (Headers.groups_setAll_lower items h)
  | clear => rfl

/-- **Any sequence of operations.** -/
theorem run_refines (ops : List Op) (h : Headers p) :
    ((run apply h ops).1, (run apply h ops).2.groups) = run (reference p) h.groups ops := by
  induction ops generalizing h with
  | nil => rfl
  | cons op ops ih =>
      have hop := apply_refines h op
      have hrest := ih (apply h op).2
      rw [run, run, ← hop]
      dsimp only
      rw [← hrest]

/-! ## Nothing reappears -/

/-- The values that an operation writes under a key. -/
def Op.writes (p : Platform) (key : String) : Op → List String
  | .add k value => if p.lower k = p.lower key then [value] else []
  | .setItem k value => if p.lower k = p.lower key then [value] else []
  | .setdefault k value => if p.lower k = p.lower key then [value] else []
  | .update items => (items.filter fun e => p.lower e.1 = p.lower key).map Prod.snd
  | _ => []

/-- A value after an assignment was there before it or is the one assigned. -/
theorem mem_getall_set {m : Multimap String String} {k k' value v : String}
    (h : v ∈ Multimap.getall (Multimap.set m k value) k') :
    v ∈ Multimap.getall m k' ∨ v ∈ if k = k' then [value] else [] := by
  by_cases hk : k = k'
  · subst hk
    rw [Multimap.getall_set_self] at h
    rw [if_pos rfl]
    exact Or.inr h
  · rw [Multimap.getall_set_ne m hk] at h
    exact Or.inl h

theorem mem_getall_erase {m : Multimap String String} {k k' v : String}
    (h : v ∈ Multimap.getall (m.erase k) k') : v ∈ Multimap.getall m k' := by
  by_cases hk : k = k'
  · subst hk
    rw [Multimap.getall_erase_self] at h
    exact nomatch h
  · rw [Multimap.getall_erase_ne m hk] at h
    exact h

theorem mem_getall_setAll {items : List (String × String)} {m : Multimap String String}
    {key v : String}
    (h : v ∈ Multimap.getall (Multimap.setAll m (items.map fun e => (p.lower e.1, e.2)))
      (p.lower key)) :
    v ∈ Multimap.getall m (p.lower key) ∨ v ∈ Op.writes p key (.update items) := by
  induction items generalizing m with
  | nil => exact Or.inl h
  | cons e items ih =>
      rw [Op.writes, List.filter_cons]
      rcases ih h with hold | hnew
      · rcases mem_getall_set hold with hold | hnew
        · exact Or.inl hold
        · by_cases hk : p.lower e.1 = p.lower key
          · rw [if_pos hk] at hnew
            rw [if_pos (decide_eq_true hk), List.map_cons]
            exact Or.inr (List.mem_cons.mpr (Or.inl (List.mem_singleton.mp hnew)))
          · rw [if_neg hk] at hnew
            exact nomatch hnew
      · refine Or.inr ?_
        rw [Op.writes] at hnew
        split
        · exact List.mem_cons_of_mem _ hnew
        · exact hnew

/-- A value after an operation was there before it or was written by it. -/
theorem mem_getall_reference {m : Multimap String String} {op : Op} {key v : String}
    (h : v ∈ Multimap.getall (reference p m op).2 (p.lower key)) :
    v ∈ Multimap.getall m (p.lower key) ∨ v ∈ op.writes p key := by
  cases op with
  | add k value =>
      rw [Op.writes]
      -- Only the key that is added to gets a value.
      by_cases hk : p.lower k = p.lower key
      · rw [reference, hk, Multimap.getall_add_self, List.mem_append] at h
        rw [if_pos hk]
        exact h
      · rw [reference, Multimap.getall_add_ne m hk] at h
        exact Or.inl h
  | setItem k value => exact mem_getall_set h
  | delItem k =>
      rw [reference] at h
      split at h
      · exact Or.inl (mem_getall_erase h)
      · exact Or.inl h
  | pop k default =>
      rw [reference.eq_def] at h
      dsimp only at h
      split at h
      · exact Or.inl (mem_getall_erase h)
      · exact Or.inl h
      · exact Or.inl h
  | popitem =>
      rw [reference] at h
      split at h
      · exact Or.inl h
      · exact Or.inl (mem_getall_erase h)
  | setdefault k value =>
      rw [reference] at h
      split at h
      · exact Or.inl h
      · exact mem_getall_set h
  | update items => exact mem_getall_setAll h
  | clear => exact nomatch h

/-- A value that is not there comes back only by being written. -/
theorem mem_getall_run {ops : List Op} {m : Multimap String String} {key v : String}
    (h : v ∈ Multimap.getall (run (reference p) m ops).2 (p.lower key)) :
    v ∈ Multimap.getall m (p.lower key) ∨ ∃ op ∈ ops, v ∈ op.writes p key := by
  induction ops generalizing m with
  | nil => exact Or.inl h
  | cons op ops ih =>
      rcases ih h with hold | ⟨op', hmem, hwrites⟩
      · rcases mem_getall_reference hold with hold | hwrites
        · exact Or.inl hold
        · exact Or.inr ⟨op, List.mem_cons_self, hwrites⟩
      · exact Or.inr ⟨op', List.mem_cons_of_mem _ hmem, hwrites⟩

/-- The values under a key are those of its group. -/
theorem getall_eq (h : Headers p) (key : String) :
    getall h key = Multimap.getall h.groups (p.lower key) :=
  congrFun (congrArg Observed.getall (observe_eq h)) key

/-- **`Headers` is an ordered, case-insensitive multimap.**  From any start, every
    sequence of operations answers and leaves what the reference does, as far as
    anything can be read; `_extra` stays within `_store` and holds no empty list;
    what an assignment or a deletion has dropped does not come back unless it is
    written again; and a copy made from `allitems` reads the same. -/
theorem headers_multimap (source : Source) (ops : List Op) :
    let h := run apply (source.build p) ops
    let m := run (reference p) (source.groups p) ops
    h.1 = m.1 ∧ observe h.2 = observeGroups p m.2
      ∧ (∀ extra ∈ h.2.extra, ∀ e ∈ extra.entries, e.1 ∈ h.2.store.keys ∧ e.2 ≠ [])
      ∧ (∀ key value, getall (h.2.setItem key value) key = [value])
      ∧ (∀ key, getall (h.2.delItem key) key = [])
      ∧ (∀ later key v, v ∈ getall (run apply h.2 later).2 key →
        v ∈ getall h.2 key ∨ ∃ op ∈ later, v ∈ op.writes p key)
      ∧ observe (Headers.ofItems p h.2.allitems) = observe h.2 := by
  intro h m
  have hrun : (h.1, h.2.groups) = m := by
    have hrefines := run_refines ops (source.build p)
    rw [groups_build] at hrefines
    exact hrefines
  have hanswers : h.1 = m.1 := congrArg Prod.fst hrun
  have hgroups : h.2.groups = m.2 := congrArg Prod.snd hrun
  refine ⟨hanswers, ?_, h.2.extra_sub, fun key value => ?_, fun key => ?_,
    fun later key v hv => ?_, ?_⟩
  · rw [observe_eq, hgroups]
  · rw [getall_eq, Headers.groups_setItem, Multimap.getall_set_self]
  · rw [getall_eq, Headers.groups_delItem, Multimap.getall_erase_self]
  · have hlater : (run apply h.2 later).2.groups = (run (reference p) h.2.groups later).2 :=
      congrArg Prod.snd (run_refines later h.2)
    rw [getall_eq, hlater] at hv
    rw [getall_eq]
    exact mem_getall_run hv
  · rw [observe_eq, observe_eq, Headers.groups_ofItems_allitems]

end ConnectHeadersMap
