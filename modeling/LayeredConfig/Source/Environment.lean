import LayeredConfig.Log
import LayeredConfig.Source
import LayeredConfig.Text.Case
import LayeredConfig.Text.Pieces

/-!
# The process environment

The environment is a sequence of variables whose names and values are bytes. A source over it
takes the variables that are text, not oversized and start with its stem, and turns the rest of
the name into a key. Variables that come later win.

* `EnvironmentReader.keyOf`: the key of a variable name.
* `EnvironmentReader.entry?`: the entry that one variable contributes.
* `EnvironmentReader.snapshot`: the entries of a whole environment.
-/

namespace LayeredConfig

open Text

/-- A variable of the process environment. -/
structure Variable where
  name : ByteArray
  value : ByteArray

/-- Whether a variable has the name. -/
def Variable.isNamed (v : Variable) (name : ByteArray) : Bool := v.name.data == name.data

/-- The variables in the order in which they are enumerated, each name once. -/
abbrev Environment := List Variable

namespace Environment

/-- Replaces the value of a variable where it stands, or appends the variable. -/
def set (env : Environment) (name value : ByteArray) : Environment :=
  if env.any (·.isNamed name) then
    env.map fun v => if v.isNamed name then ⟨name, value⟩ else v
  else env ++ [⟨name, value⟩]

/-- Takes a variable away. -/
def remove (env : Environment) (name : ByteArray) : Environment :=
  env.filter fun v => !v.isNamed name

end Environment

/-- How variable names become keys: the stem that they must start with, and whether the rest is
lower-cased and has its underscores replaced by dots. -/
structure EnvironmentReader where
  stem : Option String
  lowerCases : Bool
  replacesUnderscores : Bool
deriving DecidableEq, Repr

/-- A variable as it was found, under the key that it provides. -/
structure EnvironmentEntry where
  variableName : String
  value : String
deriving DecidableEq, Repr

namespace EnvironmentReader

/-- The longest name and the longest value that are taken, in bytes. -/
def nameLimit : Nat := 512

def valueLimit : Nat := 1048576

/-- Names as they are, with dots for underscores. -/
def plain : EnvironmentReader := ⟨none, false, true⟩

/-- The usual convention: `SERVER_PORT` provides `server.port`. -/
def conventional (stem : Option String) : EnvironmentReader := ⟨stem, true, true⟩

/-- The key of a variable name. -/
def keyOf (r : EnvironmentReader) (name : String) : Option String :=
  let rest? := match r.stem with
    | some stem => stripStart stem.toList name.toList
    | none => some name.toList
  rest?.map fun rest =>
    let rest := if r.lowerCases then lower rest else rest
    let dotted (c : Char) : Char := if c = '_' then '.' else c
    String.ofList (if r.replacesUnderscores then rest.map dotted else rest)

/-- A variable that is text, and whether it is within the limits. -/
inductive Reading where
  | notText
  | oversized (nameSize valueSize : Nat)
  | text (name value : String)

/-- Reads the bytes of a variable. -/
def Reading.ofVariable (v : Variable) : Reading :=
  match String.fromUTF8? v.name, String.fromUTF8? v.value with
  | some name, some value =>
    if nameLimit < name.utf8ByteSize ∨ valueLimit < value.utf8ByteSize then
      .oversized name.utf8ByteSize value.utf8ByteSize
    else .text name value
  | _, _ => .notText

/-- The key and the entry that a variable contributes. -/
def entry? (r : EnvironmentReader) (v : Variable) : Option (String × EnvironmentEntry) :=
  match Reading.ofVariable v with
  | .text name value =>
    match r.keyOf name with
    | some key => if key = "" then none else some (key, ⟨name, value⟩)
    | none => none
  | _ => none

/-- What a variable leaves in the log while the environment is read. -/
def events (v : Variable) : List Event :=
  match Reading.ofVariable v with
  | .oversized nameSize valueSize =>
    [.variableOversized nameSize valueSize nameLimit valueLimit]
  | _ => []

/-- The entries of an environment; a later variable replaces an earlier one of the same key. -/
def snapshot (r : EnvironmentReader) (env : Environment) : Dictionary EnvironmentEntry :=
  .ofList (env.filterMap r.entry?)

/-- The source that answers from a snapshot. -/
def sourceOf (entries : Dictionary EnvironmentEntry) : Source :=
  .ofEntries "env" entries (·.value) fun e => "environment variable " ++ e.variableName

/-- Reads the environment. -/
def read (r : EnvironmentReader) (env : Environment) : Logged Source :=
  let entries := r.snapshot env
  ⟨sourceOf entries,
    env.flatMap events ++
      [.environmentRead entries.size r.stem r.lowerCases r.replacesUnderscores]⟩

/-- The source over given values, each under its own name. -/
def ofValues (values : Dictionary String) : Source :=
  sourceOf (values.mapValues fun key value => ⟨key, value⟩)

end EnvironmentReader

end LayeredConfig
