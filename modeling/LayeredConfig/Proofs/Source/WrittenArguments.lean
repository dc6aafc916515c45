import LayeredConfig.Source.CommandLine

/-!
# Written command lines

A command line is written from assignments, each in one of three spellings, with arguments that
assign nothing between them. Reading it back finds the assignments, in order and no others.

The reader looks one argument ahead, since a flag takes the next argument as its value unless that
starts with a dash. So the reading of one item must not depend on what follows it: an assignment
is written whole, and an argument in between is never a flag (`assignments_append`).

* `Argument.ofText_inline`, `Argument.ofText_long`, `Argument.ofText_short`,
  `Argument.ofText_noise`: what each kind of argument is read as; `Argument.ofText_eq_inline_iff`
  goes back from the reading to the argument.
* `assignments_written`: reading undoes writing.
* `source_of_written_line`: the source has the assigned keys, with the value and the flag of the
  last assignment of each.
-/

namespace LayeredConfig.CommandLine

open Text

/-! ## Spellings -/

/-- An assignment as it is written. In the first spelling the value may be any text, since only the
first equals sign separates; in the others it stands alone and must not look like a flag. -/
inductive Spelling where
  /-- `--key=value` -/
  | inline (key value : String) (hkey : '=' ∉ key.toList)
  /-- `--key value` -/
  | long (key value : String) (hne : key ≠ "") (hkey : '=' ∉ key.toList)
    (hvalue : startsWithDash value = false)
  /-- `-c value` -/
  | short (c : Char) (value : String) (hc : c ≠ '-') (hvalue : startsWithDash value = false)

namespace Spelling

/-- The arguments that an assignment takes. -/
def arguments : Spelling → List String
  | inline key value _ => ["--" ++ key ++ "=" ++ value]
  | long key value _ _ _ => ["--" ++ key, value]
  | short c value _ _ => [String.ofList ['-', c], value]

/-- The assignment that is meant. -/
def assignment : Spelling → Assignment
  | inline key value _ => ⟨"--" ++ key, key, value⟩
  | long key value _ _ _ => ⟨"--" ++ key, key, value⟩
  | short c value _ _ => ⟨String.ofList ['-', c], String.singleton c, value⟩

end Spelling

/-- An argument that assigns nothing, wherever it stands: one that is no flag, one or two dashes
alone, or a dash with several characters after it. -/
inductive IsNoise : String → Prop
  | positional {argument : String} (h : startsWithDash argument = false) : IsNoise argument
  | dash : IsNoise "-"
  | dashes : IsNoise "--"
  | cluster {c d : Char} {rest : List Char} (h : c ≠ '-') :
    IsNoise (String.ofList ('-' :: c :: d :: rest))

/-- A part of a written command line. -/
inductive Item where
  | noise (argument : String) (h : IsNoise argument)
  | assigning (spelling : Spelling)

namespace Item

/-- The arguments that a part takes. -/
def arguments : Item → List String
  | noise argument _ => [argument]
  | assigning spelling => spelling.arguments

/-- The assignment that a part makes. -/
def assignment? : Item → Option Assignment
  | noise _ _ => none
  | assigning spelling => some spelling.assignment

end Item

/-- The argument list of a written command line. -/
def written (line : List Item) : List String := line.flatMap Item.arguments

/-- The assignments of a written command line, in order. -/
def assigned (line : List Item) : List Assignment := line.filterMap Item.assignment?

/-! ## Single arguments -/

namespace Argument

theorem ofText_of_dashes {argument : String} {body : List Char}
    (h : argument.toList = '-' :: '-' :: body) :
    ofText argument =
      match cutAt '=' body with
      | some (key, value) => .inline (String.ofList key) (String.ofList value)
      | none => if body = [] then .other else .flag (String.ofList body) := by
  rw [ofText, h]
  rfl

theorem ofText_inline {key : String} (value : String) (h : '=' ∉ key.toList) :
    ofText ("--" ++ key ++ "=" ++ value) = .inline key value := by
  have hlist : ("--" ++ key ++ "=" ++ value).toList =
      '-' :: '-' :: (key.toList ++ '=' :: value.toList) := by
    simp [String.toList_append]
  rw [ofText_of_dashes hlist, cutAt_append h]
  simp only [String.ofList_toList]

theorem ofText_eq_inline_iff {argument key value : String} :
    ofText argument = .inline key value ↔
      '=' ∉ key.toList ∧ argument = "--" ++ key ++ "=" ++ value := by
  constructor
  · intro h
    unfold ofText at h
    split at h
    · rename_i body hbody
      split at h
      · rename_i first rest hcut
        cases h
        obtain ⟨hfirst, rfl⟩ := cutAt_eq_some_iff.mp hcut
        refine ⟨by rwa [String.toList_ofList], String.toList_inj.mp ?_⟩
        rw [hbody]
        simp [String.toList_append]
      · split at h <;> cases h
    · cases h
    · cases h
  · rintro ⟨hkey, rfl⟩
    exact ofText_inline value hkey

theorem ne_empty_of_ofText_eq_flag {argument key : String} (h : ofText argument = .flag key) :
    key ≠ "" := by
  unfold ofText at h
  split at h
  · split at h
    · cases h
    · split at h
      · cases h
      · rename_i hbody
        cases h
        exact fun hempty => hbody (String.ofList_eq_empty_iff.mp hempty)
  · rename_i c _
    cases h
    exact String.singleton_ne_empty
  · cases h

theorem ofText_long {key : String} (hne : key ≠ "") (h : '=' ∉ key.toList) :
    ofText ("--" ++ key) = .flag key := by
  have hlist : ("--" ++ key).toList = '-' :: '-' :: key.toList := by
    simp [String.toList_append]
  have hbody : key.toList ≠ [] := fun he => hne (String.toList_eq_nil_iff.mp he)
  rw [ofText_of_dashes hlist, cutAt_eq_none_iff.mpr h]
  simp only [if_neg hbody, String.ofList_toList]

theorem ofText_short {c : Char} (h : c ≠ '-') :
    ofText (String.ofList ['-', c]) = .flag (String.singleton c) := by
  rw [ofText, String.toList_ofList]
  split
  · rename_i body hbody
    cases hbody
    exact absurd rfl h
  · rename_i hshort
    cases hshort
    rfl
  · rename_i hshort
    exact absurd rfl (hshort c)

theorem ofText_noise {argument : String} (h : IsNoise argument) : ofText argument = .other := by
  cases h with
  | positional hdash =>
    rw [ofText]
    split
    · rename_i body hbody
      simp [startsWithDash, hbody] at hdash
    · rename_i hbody
      simp [startsWithDash, hbody] at hdash
    · rfl
  | dash => rfl
  | dashes => rfl
  | cluster hc =>
    rw [ofText, String.toList_ofList]
    split
    · rename_i body hbody
      cases hbody
      exact absurd rfl hc
    · rename_i hbody
      cases hbody
    · rfl

end Argument

/-! ## Reading what was written -/

theorem assignments_flag {argument key value : String}
    (hargument : Argument.ofText argument = .flag key) (hvalue : startsWithDash value = false)
    (rest : List String) :
    assignments (argument :: value :: rest) = ⟨argument, key, value⟩ :: assignments rest := by
  rw [assignments, hargument]
  simp [hvalue]

/-- What one item is read as does not depend on the arguments after it. -/
theorem assignments_append (item : Item) (rest : List String) :
    assignments (item.arguments ++ rest) = item.assignment?.toList ++ assignments rest := by
  cases item with
  | noise argument h =>
    have hother := Argument.ofText_noise h
    simp [Item.arguments, Item.assignment?, assignments, hother]
  | assigning spelling =>
    cases spelling with
    | inline key value hkey =>
      have hinline := Argument.ofText_inline value hkey
      simp [Item.arguments, Item.assignment?, Spelling.arguments, Spelling.assignment, assignments,
        hinline]
    | long key value hne hkey hvalue =>
      exact assignments_flag (Argument.ofText_long hne hkey) hvalue rest
    | short c value hc hvalue =>
      exact assignments_flag (Argument.ofText_short hc) hvalue rest

/-- Reading undoes writing. -/
theorem assignments_written (line : List Item) : assignments (written line) = assigned line := by
  induction line with
  | nil => rfl
  | cons item rest ih =>
    have hwritten : written (item :: rest) = item.arguments ++ written rest := rfl
    rw [hwritten, assignments_append, ih]
    cases item <;> rfl

theorem contains_values_read {arguments : List String} {key : String} :
    (read arguments).values.contains key = true ↔ ∃ a ∈ assignments arguments, a.key = key := by
  rw [Dictionary.contains, get?_values_read, Option.isSome_map, List.findRev?_eq_find?_reverse,
    List.find?_isSome]
  simp only [List.mem_reverse, beq_iff_eq]

/-- **The source of a written command line.** It has exactly the keys that are assigned, and the
value of a key and the flag in its origin come from one assignment, the last of the key. -/
theorem source_of_written_line (line : List Item) (key : String) :
    let source := (ofArguments (written line)).result
    let last := (assigned line).findRev? (·.key == key)
    (source.hasKey key = true ↔ ∃ a ∈ assigned line, a.key = key) ∧
      (key ∈ source.keys ↔ ∃ a ∈ assigned line, a.key = key) ∧
      source.value key = last.map (·.value) ∧
      source.origin key = last.map fun a => "command line argument " ++ a.flag := by
  intro source last
  have hkey : source.hasKey key = true ↔ ∃ a ∈ assigned line, a.key = key := by
    rw [← assignments_written line]
    exact contains_values_read
  have hlisted : key ∈ source.keys ↔ source.hasKey key = true := Dictionary.mem_keys
  have hvalue : source.value key = (read (written line)).values.get? key := rfl
  have horigin : source.origin key =
      ((read (written line)).flags.get? key).map fun flag => "command line argument " ++ flag := rfl
  refine ⟨hkey, hlisted.trans hkey, ?_, ?_⟩
  · rw [hvalue, get?_values_read, assignments_written]
  · rw [horigin, get?_flags_read, assignments_written, Option.map_map]
    rfl

/-- A line with every spelling and every kind of argument between them. -/
def mixedLine : List Item :=
  [.noise "serve" (.positional (by decide)), .assigning (.long "port" "80" (by decide) (by decide)
    (by decide)), .noise "-" .dash, .assigning (.inline "db.url" "a=b" (by decide)),
    .noise "--" .dashes, .assigning (.short 'v' "" (by decide) (by decide)),
    .noise (String.ofList ['-', 'v', '2']) (.cluster (by decide)),
    .assigning (.inline "port" "--80" (by decide))]

theorem mixed_line_is_read_as_written :
    written mixedLine =
        ["serve", "--port", "80", "-", "--db.url=a=b", "--", "-v", "", "-v2", "--port=--80"] ∧
      let source := (ofArguments (written mixedLine)).result
      source.value "port" = some "--80" ∧ source.value "db.url" = some "a=b" ∧
        source.origin "v" = some "command line argument -v" ∧ source.hasKey "serve" = false := by
  obtain ⟨-, -, hport, -⟩ := source_of_written_line mixedLine "port"
  obtain ⟨-, -, hurl, -⟩ := source_of_written_line mixedLine "db.url"
  obtain ⟨-, -, -, hflag⟩ := source_of_written_line mixedLine "v"
  obtain ⟨hserve, -, -, -⟩ := source_of_written_line mixedLine "serve"
  have hlacks : ¬ ∃ a ∈ assigned mixedLine, a.key = "serve" := by decide +kernel
  refine ⟨by decide +kernel, hport.trans (by decide +kernel), hurl.trans (by decide +kernel),
    hflag.trans (by decide +kernel), Bool.eq_false_iff.mpr fun h => hlacks (hserve.mp h)⟩

end LayeredConfig.CommandLine
