import LayeredConfig.Proofs.Source.WrittenArguments

/-!
# Joined command lines

Two argument lists one after the other are read as one. The reader looks one argument ahead, so the
join can change what the first list says: a flag at its end is still waiting for a value, and takes
the first argument of the second list if that may be a value. Nothing else is carried over. A second
list that begins with a dash is therefore read as it is read alone, and the flag before it is passed
over as it is at the end of a list.

Sources are compared by the last assignment of a key, which tells value and flag together.

* `assignments_append_of_dash`: the assignments of the joined list are those of the parts.
* `lastAssignment_append`: so the later part decides, if it has the key.
* `Joins`: what it is for a source to lay one over another.
* `source_of_joined_arguments`: the source of the joined list is that of the later part over that of
  the earlier.
-/

namespace LayeredConfig.CommandLine

/-! ## Assignments of the parts -/

theorem startsWithDash_append (body : String) : startsWithDash ("-" ++ body) = true := by
  rw [startsWithDash, String.toList_append]
  rfl

/-- A flag at the end of the first part is passed over: it finds a dash after it, or nothing. -/
theorem assignments_append_of_dash (first : List String) {second : List String}
    (h : ∀ argument ∈ second.head?, startsWithDash argument = true) :
    assignments (first ++ second) = assignments first ++ assignments second := by
  cases second with
  | nil => rw [List.append_nil, assignments, List.append_nil]
  | cons next later =>
    have hnext : startsWithDash next = true := h next rfl
    fun_induction assignments first with
    | case1 => rfl
    | case2 argument rest key value hinline ih =>
      rw [List.cons_append, assignments, hinline, ih]
      rfl
    | case3 argument rest hother ih =>
      rw [List.cons_append, assignments, hother, ih]
    | case4 argument key hflag =>
      rw [List.cons_append, List.nil_append, assignments, hflag]
      exact if_pos hnext
    | case5 argument key hflag value others hdash ih =>
      rw [List.cons_append, List.cons_append, assignments, hflag]
      exact (if_pos hdash).trans ih
    | case6 argument key hflag value others hdash ih =>
      have hvalue : startsWithDash value = false := Bool.eq_false_iff.mpr hdash
      rw [List.cons_append, List.cons_append, assignments_flag hflag hvalue, ih]
      rfl

/-! ## The last assignment of a key -/

/-- The assignment of a key that is in force. -/
def lastAssignment (arguments : List String) (key : String) : Option Assignment :=
  (assignments arguments).findRev? (·.key == key)

theorem lastAssignment_append (first : List String) {second : List String}
    (h : ∀ argument ∈ second.head?, startsWithDash argument = true) (key : String) :
    lastAssignment (first ++ second) key =
      (lastAssignment second key).or (lastAssignment first key) := by
  rw [lastAssignment, assignments_append_of_dash first h, List.findRev?_eq_find?_reverse,
    List.reverse_append, List.find?_append, ← List.findRev?_eq_find?_reverse,
    ← List.findRev?_eq_find?_reverse]
  rfl

section Answers

variable (arguments : List String) (key : String)

theorem hasKey_ofArguments :
    (ofArguments arguments).result.hasKey key = (lastAssignment arguments key).isSome := by
  have hlook : (ofArguments arguments).result.hasKey key =
      ((read arguments).values.get? key).isSome := rfl
  rw [hlook, get?_values_read, Option.isSome_map, lastAssignment]

theorem value_ofArguments :
    (ofArguments arguments).result.value key = (lastAssignment arguments key).map (·.value) :=
  get?_values_read arguments key

theorem origin_ofArguments :
    (ofArguments arguments).result.origin key =
      (lastAssignment arguments key).map fun a => "command line argument " ++ a.flag := by
  have hlook : (ofArguments arguments).result.origin key =
      ((read arguments).flags.get? key).map fun flag => "command line argument " ++ flag := rfl
  rw [hlook, get?_flags_read, Option.map_map]
  rfl

theorem mem_keys_ofArguments :
    key ∈ (ofArguments arguments).result.keys ↔
      (ofArguments arguments).result.hasKey key = true :=
  Dictionary.mem_keys

end Answers

/-! ## The joined source -/

/-- A source has the keys of two others. Where the later one has the key it answers as that one,
and elsewhere as the earlier. -/
structure Joins (earlier later whole : Source) : Prop where
  keys : whole.keys = earlier.keys.union later.keys
  hasKey : ∀ key, whole.hasKey key = (earlier.hasKey key || later.hasKey key)
  of_later : ∀ key, later.hasKey key = true →
    whole.value key = later.value key ∧ whole.origin key = later.origin key
  of_earlier : ∀ key, later.hasKey key = false →
    whole.value key = earlier.value key ∧ whole.origin key = earlier.origin key

/-- **Command lines compose where a flag begins.** If the second of two argument lists is empty or
begins with a dash, the source of both together has the keys of either. It answers for the keys of
the second as the second does alone, value and origin alike, and for all others as the first. -/
theorem source_of_joined_arguments (first second : List String)
    (hdash : second = [] ∨ ∃ body others, second = ("-" ++ body) :: others) :
    Joins (ofArguments first).result (ofArguments second).result
      (ofArguments (first ++ second)).result := by
  have hhead : ∀ argument ∈ second.head?, startsWithDash argument = true := by
    rintro argument hargument
    rcases hdash with rfl | ⟨body, others, rfl⟩
    · cases hargument
    · cases hargument
      exact startsWithDash_append body
  have hlast (key : String) : lastAssignment (first ++ second) key =
      (lastAssignment second key).or (lastAssignment first key) :=
    lastAssignment_append first hhead key
  have hkey (key : String) : (ofArguments (first ++ second)).result.hasKey key =
      ((ofArguments first).result.hasKey key || (ofArguments second).result.hasKey key) := by
    rw [hasKey_ofArguments, hlast, Option.isSome_or, Bool.or_comm, hasKey_ofArguments,
      hasKey_ofArguments]
  refine ⟨KeySet.ext_mem fun key => ?_, hkey, fun key hlater => ?_, fun key hlater => ?_⟩
  · rw [KeySet.mem_union, mem_keys_ofArguments, mem_keys_ofArguments, mem_keys_ofArguments]
    exact (Bool.eq_iff_iff.mp (hkey key)).trans (Bool.or_eq_true _ _).to_iff
  · rw [hasKey_ofArguments] at hlater
    obtain ⟨a, ha⟩ := Option.isSome_iff_exists.mp hlater
    rw [value_ofArguments, value_ofArguments, origin_ofArguments, origin_ofArguments, hlast, ha]
    exact ⟨rfl, rfl⟩
  · rw [hasKey_ofArguments, Option.isSome_eq_false_iff, Option.isNone_iff_eq_none] at hlater
    rw [value_ofArguments, value_ofArguments, origin_ofArguments, origin_ofArguments, hlast, hlater]
    exact ⟨rfl, rfl⟩

/-- The flag at the end of the first list is still waiting, and takes nothing from the second. -/
theorem arguments_joined_at_waiting_flag :
    let first := ["--host", "a", "--level", "info", "-v"]
    let second := ["--host=b", "-p", "80"]
    let whole := (ofArguments (first ++ second)).result
    (∃ body others, second = ("-" ++ body) :: others) ∧
      whole.value "host" = some "b" ∧
      whole.origin "host" = some "command line argument --host" ∧
      whole.value "level" = some "info" ∧ whole.hasKey "v" = false := by
  intro first second whole
  have hdash : ∃ body others, second = ("-" ++ body) :: others := ⟨"-host=b", ["-p", "80"], rfl⟩
  have hjoins := source_of_joined_arguments first second (.inr hdash)
  obtain ⟨hvalue, horigin⟩ := hjoins.of_later "host" rfl
  exact ⟨hdash, hvalue, horigin, (hjoins.of_earlier "level" rfl).1, hjoins.hasKey "v"⟩

end LayeredConfig.CommandLine
