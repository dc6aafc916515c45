import Std.Data.ExtTreeMap

/-!
# Dictionaries

A dictionary is a finite map from texts to values. There is one dictionary for each map: two
dictionaries with the same look-ups are equal (`Dictionary.ext_get?`). Its entries are listed in
increasing order of the keys, which is the order of every report of the library.

* `get?_insert`: what one write does to every look-up.
* `get?_ofList`, `get?_ofList_map`: a list of pairs is read with the last pair of a key winning.
* `entries_ofList_perm`: pairs with different keys are all kept.
* `entries_ofList_of_pairwise`, `entries_eq_of_pairwise`: the entries are the only list of pairs
  that is ordered and has the same look-ups.
* `ext_get?`: look-ups determine the dictionary.
* `get?_eq_some_iff`, `contains_iff`, `pairwise_entries`: entries, membership and look-up agree,
  and the entries are ordered.

A set of keys is a dictionary without values (`KeySet`).
-/

namespace LayeredConfig

universe u v

/-- A finite map from texts to values. -/
structure Dictionary (α : Type u) where
  tree : Std.ExtTreeMap String α

namespace Dictionary

variable {α : Type u} {β : Type v}

/-! ## Operations -/

/-- The dictionary without entries. -/
def empty : Dictionary α := ⟨∅⟩

instance : Inhabited (Dictionary α) := ⟨empty⟩

/-- Writes a value, in place of the value that the key had. -/
def insert (d : Dictionary α) (key : String) (value : α) : Dictionary α :=
  ⟨d.tree.insert key value⟩

/-- The value of a key. -/
def get? (d : Dictionary α) (key : String) : Option α := d.tree[key]?

/-- Whether the key has a value. -/
def contains (d : Dictionary α) (key : String) : Bool := (d.get? key).isSome

/-- The entries, in increasing order of the keys. -/
def entries (d : Dictionary α) : List (String × α) := d.tree.toList

/-- The number of entries. -/
def size (d : Dictionary α) : Nat := d.entries.length

/-- Writes the pairs one after the other, so the last pair of a key wins. -/
def insertAll (d : Dictionary α) (pairs : List (String × α)) : Dictionary α :=
  pairs.foldl (fun d pair => d.insert pair.1 pair.2) d

/-- The dictionary of a list of pairs. -/
def ofList (pairs : List (String × α)) : Dictionary α := empty.insertAll pairs

/-- The entries whose keys satisfy the predicate. -/
def filterKeys (d : Dictionary α) (p : String → Bool) : Dictionary α :=
  ⟨d.tree.filter fun key _ => p key⟩

/-- Applies a function to every value. -/
def mapValues (d : Dictionary α) (f : String → α → β) : Dictionary β := ⟨d.tree.map f⟩

/-! ## Look-ups -/

@[simp] theorem get?_empty (k : String) : (empty : Dictionary α).get? k = none := by
  rw [get?, empty, Std.ExtTreeMap.getElem?_empty]

theorem get?_insert (d : Dictionary α) (key k : String) (value : α) :
    (d.insert key value).get? k = if key = k then some value else d.get? k := by
  rw [get?, insert, Std.ExtTreeMap.getElem?_insert]
  simp [get?]

theorem get?_insertAll (d : Dictionary α) (pairs : List (String × α)) (k : String) :
    (d.insertAll pairs).get? k = (pairs.reverse.lookup k).or (d.get? k) := by
  induction pairs generalizing d with
  | nil => rfl
  | cons pair rest ih =>
    obtain ⟨key, value⟩ := pair
    have hstep : d.insertAll ((key, value) :: rest) = (d.insert key value).insertAll rest := rfl
    rw [hstep, ih, get?_insert, List.reverse_cons, List.lookup_append, Option.or_assoc]
    congr 1
    by_cases h : key = k
    · simp [h]
    · have : (k == key) = false := beq_false_of_ne (Ne.symm h)
      simp [List.lookup_cons, h, this]

theorem insertAll_append (d : Dictionary α) (pairs more : List (String × α)) :
    d.insertAll (pairs ++ more) = (d.insertAll pairs).insertAll more :=
  List.foldl_append

theorem ofList_append (pairs more : List (String × α)) :
    ofList (pairs ++ more) = (ofList pairs).insertAll more :=
  insertAll_append empty pairs more

theorem get?_ofList (pairs : List (String × α)) (k : String) :
    (ofList pairs).get? k = pairs.reverse.lookup k := by
  rw [ofList, get?_insertAll, get?_empty, Option.or_none]

theorem contains_ofList {pairs : List (String × α)} {k : String} :
    (ofList pairs).contains k = true ↔ ∃ pair ∈ pairs, k = pair.1 := by
  rw [contains, get?_ofList, List.lookup_isSome_iff]
  simp only [List.mem_reverse, beq_iff_eq]

/-- Writing an entry for each element of a list leaves a key with the last element that has it. -/
theorem get?_insertAll_map (d : Dictionary α) (xs : List β) (key : β → String) (value : β → α)
    (k : String) :
    (d.insertAll (xs.map fun x => (key x, value x))).get? k =
      ((xs.findRev? fun x => key x == k).map value).or (d.get? k) := by
  have hlookup (xs : List β) : (xs.map fun x => (key x, value x)).lookup k =
      (xs.find? fun x => key x == k).map value := by
    induction xs with
    | nil => rfl
    | cons x rest ih =>
      rw [List.map_cons, List.lookup_cons, ih, List.find?_cons, BEq.comm]
      cases key x == k <;> rfl
  rw [get?_insertAll, ← List.map_reverse, hlookup, List.findRev?_eq_find?_reverse]

theorem get?_ofList_map (xs : List β) (key : β → String) (value : β → α) (k : String) :
    (ofList (xs.map fun x => (key x, value x))).get? k =
      (xs.findRev? fun x => key x == k).map value := by
  rw [ofList, get?_insertAll_map, get?_empty, Option.or_none]

theorem get?_ofList_eq_findRev? (pairs : List (String × α)) (k : String) :
    (ofList pairs).get? k = (pairs.findRev? fun pair => pair.1 == k).map Prod.snd := by
  rw [← get?_ofList_map, List.map_id']

theorem get?_filterKeys (d : Dictionary α) (p : String → Bool) (k : String) :
    (d.filterKeys p).get? k = if p k then d.get? k else none := by
  rw [get?, filterKeys, Std.ExtTreeMap.getElem?_filter', get?]
  cases d.tree[k]? <;> simp [Option.filter]

theorem get?_mapValues (d : Dictionary α) (f : String → α → β) (k : String) :
    (d.mapValues f).get? k = (d.get? k).map (f k) := by
  rw [get?, mapValues, Std.ExtTreeMap.getElem?_map, get?]

/-- Keys paired with the values that a function gives them: a key of the list is found with its
own value, however often it is listed. -/
theorem lookup_pairs (keys : List String) (f : String → Option α) (k : String) :
    (keys.filterMap fun key => (f key).map fun value => (key, value)).lookup k =
      if k ∈ keys then f k else none := by
  induction keys with
  | nil => rfl
  | cons key rest ih =>
    by_cases h : k = key
    · subst h
      cases hf : f k with
      | none => simp [hf, ih]
      | some value => simp [hf]
    · have hne : (k == key) = false := beq_false_of_ne h
      cases hf : f key with
      | none => simp [hf, ih, h]
      | some value => simp [hf, ih, h, List.lookup_cons, hne]

theorem get?_insertAll_pairs (d : Dictionary α) (keys : List String) (f : String → Option α)
    (k : String) :
    (d.insertAll (keys.filterMap fun key => (f key).map fun value => (key, value))).get? k =
      (if k ∈ keys then f k else none).or (d.get? k) := by
  rw [get?_insertAll, ← List.filterMap_reverse, lookup_pairs]
  simp only [List.mem_reverse]

/-- Two dictionaries with the same look-ups are equal. -/
theorem ext_get? {d e : Dictionary α} (h : ∀ k, d.get? k = e.get? k) : d = e := by
  obtain ⟨s⟩ := d
  obtain ⟨t⟩ := e
  exact congrArg Dictionary.mk (Std.ExtTreeMap.ext_getElem? h)

/-! ## Entries -/

theorem get?_eq_some_iff (d : Dictionary α) {k : String} {v : α} :
    d.get? k = some v ↔ (k, v) ∈ d.entries :=
  Std.ExtTreeMap.mem_toList_iff_getElem?_eq_some.symm

theorem contains_iff (d : Dictionary α) (k : String) :
    d.contains k = true ↔ ∃ v, (k, v) ∈ d.entries := by
  simp only [contains, Option.isSome_iff_exists, get?_eq_some_iff]

theorem pairwise_entries (d : Dictionary α) :
    d.entries.Pairwise fun a b => a.1 < b.1 := by
  refine List.Pairwise.imp ?_ (Std.ExtTreeMap.ordered_keys_toList (t := d.tree))
  intro a b h
  exact compareOfLessAndEq_eq_lt.1 h

theorem get?_ofList_of_nodup {pairs : List (String × α)} (h : (pairs.map Prod.fst).Nodup)
    {k : String} {v : α} : (ofList pairs).get? k = some v ↔ (k, v) ∈ pairs := by
  rw [get?_ofList, List.lookup_eq_some_iff]
  constructor
  · rintro ⟨later, earlier, hpairs, -⟩
    rw [← List.mem_reverse, hpairs]
    exact List.mem_append_right _ List.mem_cons_self
  · intro hmem
    obtain ⟨later, earlier, hpairs⟩ := List.append_of_mem (List.mem_reverse.mpr hmem)
    refine ⟨later, earlier, hpairs, ?_⟩
    intro pair hpair
    have hkeys : ((later ++ (k, v) :: earlier).map Prod.fst).Nodup := by
      rw [← hpairs, List.map_reverse]
      exact List.pairwise_reverse.mpr (h.imp Ne.symm)
    rw [List.map_append, List.nodup_append] at hkeys
    have hne : pair.1 ≠ k := hkeys.2.2 pair.1 (List.mem_map_of_mem hpair) k List.mem_cons_self
    exact bne_iff_ne.mpr (Ne.symm hne)

theorem entries_ofList_perm {pairs : List (String × α)} (h : (pairs.map Prod.fst).Nodup) :
    (ofList pairs).entries.Perm pairs := by
  have hentries : (ofList pairs).entries.Nodup :=
    (ofList pairs).pairwise_entries.imp fun hlt he => by
      subst he
      exact String.lt_irrefl _ hlt
  have hpairs : pairs.Nodup := (List.pairwise_map.mp h).imp fun hne he => hne (congrArg _ he)
  refine (List.perm_ext_iff_of_nodup hentries hpairs).mpr fun pair => ?_
  rw [← get?_ofList_of_nodup h, get?_eq_some_iff]

theorem size_ofList_of_nodup {pairs : List (String × α)} (h : (pairs.map Prod.fst).Nodup) :
    (ofList pairs).size = pairs.length :=
  (entries_ofList_perm h).length_eq

theorem nodup_keys_of_pairwise {pairs : List (String × α)}
    (h : pairs.Pairwise fun a b => a.1 < b.1) :
    (pairs.map Prod.fst).Nodup := by
  refine List.pairwise_map.mpr (h.imp ?_)
  intro a b hlt heq
  rw [heq] at hlt
  exact String.lt_irrefl _ hlt

/-- A list in increasing order of the keys is kept as it stands. -/
theorem entries_ofList_of_pairwise {pairs : List (String × α)}
    (h : pairs.Pairwise fun a b => a.1 < b.1) : (ofList pairs).entries = pairs := by
  have hperm := entries_ofList_perm (nodup_keys_of_pairwise h)
  refine List.Perm.eq_of_pairwise ?_ (ofList pairs).pairwise_entries h hperm
  intro a b _ _ hab hba
  exact absurd hba (String.lt_asymm hab)

theorem entries_eq_of_pairwise {d : Dictionary α} {pairs : List (String × α)}
    (h : pairs.Pairwise fun a b => a.1 < b.1)
    (hget : ∀ k v, d.get? k = some v ↔ (k, v) ∈ pairs) : d.entries = pairs := by
  have hd : d = ofList pairs := by
    refine ext_get? fun k => Option.ext fun v => ?_
    rw [hget, get?_ofList_of_nodup (nodup_keys_of_pairwise h)]
  rw [hd, entries_ofList_of_pairwise h]

/-- Keys in increasing order stay in order when they are paired with values. -/
theorem pairwise_pairs {keys : List String} (h : keys.Pairwise (· < ·)) (f : String → Option α) :
    (keys.filterMap fun key => (f key).map fun value => (key, value)).Pairwise
      fun a b => a.1 < b.1 := by
  apply List.Pairwise.filterMap _ _ h
  intro key other hlt a ha b hb
  obtain ⟨value, -, rfl⟩ := Option.map_eq_some_iff.mp ha
  obtain ⟨value, -, rfl⟩ := Option.map_eq_some_iff.mp hb
  exact hlt

theorem entries_mapValues (d : Dictionary α) (f : String → α → β) :
    (d.mapValues f).entries = d.entries.map fun e => (e.1, f e.1 e.2) :=
  Std.ExtTreeMap.toList_map

theorem entries_filterKeys (d : Dictionary α) (p : String → Bool) :
    (d.filterKeys p).entries = d.entries.filter fun e => p e.1 :=
  Std.ExtTreeMap.toList_filter

end Dictionary

/-! ## Key sets -/

/-- A finite set of texts: a dictionary without values. -/
abbrev KeySet := Dictionary Unit

namespace KeySet

/-- The keys in increasing order. -/
def toList (s : KeySet) : List String := s.entries.map Prod.fst

/-- The set of the keys in a list. -/
def ofKeys (keys : List String) : KeySet := Dictionary.ofList (keys.map fun k => (k, ()))

/-- Adds the keys of another set. -/
def union (s t : KeySet) : KeySet := s.insertAll t.entries

instance : Membership String KeySet := ⟨fun s k => s.contains k = true⟩

instance (k : String) (s : KeySet) : Decidable (k ∈ s) :=
  inferInstanceAs (Decidable (s.contains k = true))

theorem mem_iff_contains {k : String} {s : KeySet} : k ∈ s ↔ s.contains k = true := Iff.rfl

theorem mem_toList {k : String} {s : KeySet} : k ∈ s.toList ↔ k ∈ s := by
  rw [mem_iff_contains, Dictionary.contains_iff]
  simp [toList]

theorem pairwise_toList (s : KeySet) : s.toList.Pairwise (· < ·) := by
  rw [toList, List.pairwise_map]
  exact s.pairwise_entries

@[simp] theorem not_mem_empty (k : String) : k ∉ (Dictionary.empty : KeySet) := by
  simp [mem_iff_contains, Dictionary.contains]

theorem mem_insertAll {s : KeySet} {pairs : List (String × Unit)} {k : String} :
    k ∈ (s.insertAll pairs : KeySet) ↔ k ∈ s ∨ ∃ pair ∈ pairs, k = pair.1 := by
  rw [mem_iff_contains, Dictionary.contains, Dictionary.get?_insertAll, Option.isSome_or,
    Bool.or_eq_true, List.lookup_isSome_iff, mem_iff_contains, Dictionary.contains, or_comm]
  simp only [List.mem_reverse, beq_iff_eq]

theorem mem_ofKeys {keys : List String} {k : String} : k ∈ ofKeys keys ↔ k ∈ keys := by
  rw [ofKeys, Dictionary.ofList, mem_insertAll]
  simp

theorem mem_union {s t : KeySet} {k : String} : k ∈ s.union t ↔ k ∈ s ∨ k ∈ t := by
  rw [union, mem_insertAll, ← mem_toList (s := t), toList, List.mem_map]
  simp only [eq_comm]

/-- Two sets with the same members are equal. -/
theorem ext_mem {s t : KeySet} (h : ∀ k, k ∈ s ↔ k ∈ t) : s = t := by
  refine Dictionary.ext_get? fun k => ?_
  have hk := h k
  rw [mem_iff_contains, mem_iff_contains, Dictionary.contains, Dictionary.contains] at hk
  cases hs : s.get? k <;> cases ht : t.get? k <;> simp_all

end KeySet

namespace Dictionary

variable {α : Type u}

/-- The set of the keys that have a value. -/
def keys (d : Dictionary α) : KeySet := d.mapValues fun _ _ => ()

theorem mem_keys {d : Dictionary α} {k : String} : k ∈ d.keys ↔ d.contains k = true := by
  rw [KeySet.mem_iff_contains, contains, contains, keys, get?_mapValues]
  simp

theorem toList_keys (d : Dictionary α) : d.keys.toList = d.entries.map Prod.fst := by
  simp [keys, KeySet.toList, entries_mapValues, List.map_map, Function.comp_def]

end Dictionary

end LayeredConfig
