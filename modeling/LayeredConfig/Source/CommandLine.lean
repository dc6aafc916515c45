import LayeredConfig.Log
import LayeredConfig.Source
import LayeredConfig.Text.Pieces

/-!
# Command lines

Arguments assign values in three forms: `--key=value` in one argument, `--key value` and
`-k value` in two. In the second and third form the value must not start with a dash. Arguments
of any other shape are passed over, and so is a flag without a value. The last assignment of a
key wins.

* `CommandLine.assignments`: the assignments of an argument list, in order.
* `CommandLine.ofArguments`: the source that they make up.
* `CommandLine.get?_values_read`, `CommandLine.get?_flags_read`: the value of a key and its flag
  are those of its last assignment.
-/

namespace LayeredConfig

open Text

/-- One assignment, with the flag as it was written. -/
structure Assignment where
  flag : String
  key : String
  value : String
deriving DecidableEq, Repr

/-- What a command line says: the value of each key and, apart from it, the flag that the key was
given with. -/
structure CommandLine where
  values : Dictionary String
  flags : Dictionary String

namespace CommandLine

/-! ## Reading arguments -/

/-- What a single argument is. -/
inductive Argument where
  /-- A key and a value in one. -/
  | inline (key value : String)
  /-- A flag that takes the next argument as its value. -/
  | flag (key : String)
  | other
deriving DecidableEq, Repr

/-- A long flag with or without a value, a short flag of one character, or something else. -/
def Argument.ofText (argument : String) : Argument :=
  match argument.toList with
  | '-' :: '-' :: body =>
    match cutAt '=' body with
    | some (key, value) => .inline (String.ofList key) (String.ofList value)
    | none => if body = [] then .other else .flag (String.ofList body)
  | ['-', c] => .flag (String.singleton c)
  | _ => .other

/-- Whether an argument starts with a dash and so is no value. -/
def startsWithDash (argument : String) : Bool := argument.toList.head? == some '-'

/-- The assignments of an argument list. -/
def assignments : List String → List Assignment
  | [] => []
  | argument :: rest =>
    match Argument.ofText argument with
    | .inline key value => ⟨"--" ++ key, key, value⟩ :: assignments rest
    | .other => assignments rest
    | .flag key =>
      match rest with
      | [] => []
      | value :: others =>
        if startsWithDash value then assignments (value :: others)
        else ⟨argument, key, value⟩ :: assignments others

/-! ## The assignments in force -/

/-- The command line without assignments. -/
def empty : CommandLine := ⟨.empty, .empty⟩

/-- Writes an assignment in place of what its key had. -/
def record (c : CommandLine) (a : Assignment) : CommandLine :=
  ⟨c.values.insert a.key a.value, c.flags.insert a.key a.flag⟩

/-- Reads an argument list. -/
def read (arguments : List String) : CommandLine := (assignments arguments).foldl record empty

/-- The source that answers from a command line. -/
def source (c : CommandLine) : Source where
  name := "cli"
  hasKey := c.values.contains
  value := c.values.get?
  origin key := (c.flags.get? key).map fun flag => "command line argument " ++ flag
  keys := c.values.keys

/-- Reads an argument list into a source. -/
def ofArguments (arguments : List String) : Logged Source :=
  let line := read arguments
  ⟨line.source, [.commandLineRead line.values.size]⟩

/-! ## Look-ups -/

/-- Values and flags are written together, one of each for every assignment. -/
theorem foldl_record (c : CommandLine) (as : List Assignment) :
    as.foldl record c =
      ⟨c.values.insertAll (as.map fun a => (a.key, a.value)),
        c.flags.insertAll (as.map fun a => (a.key, a.flag))⟩ := by
  induction as generalizing c with
  | nil => rfl
  | cons a rest ih =>
    rw [List.foldl_cons, ih]
    rfl

theorem get?_values_read (arguments : List String) (key : String) :
    (read arguments).values.get? key =
      ((assignments arguments).findRev? (·.key == key)).map (·.value) := by
  rw [read, foldl_record]
  exact Dictionary.get?_ofList_map _ _ _ key

theorem get?_flags_read (arguments : List String) (key : String) :
    (read arguments).flags.get? key =
      ((assignments arguments).findRev? (·.key == key)).map (·.flag) := by
  rw [read, foldl_record]
  exact Dictionary.get?_ofList_map _ _ _ key

end CommandLine

end LayeredConfig
