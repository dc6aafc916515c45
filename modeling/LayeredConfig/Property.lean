import LayeredConfig.Value.Selection

/-!
# Properties

A property describes how one key is looked up and read. It is nullable, with an optional value
as the outcome, or valued, with a default in place of a missing value. A family names the keys
below a common stem and leaves their values raw.

* `Fallback`: the two kinds, told apart by the type of the outcome.
* `Family.strip_eq_some_iff`: a key belongs to a family exactly when it is the stem, a dot and
  the rest.
-/

namespace LayeredConfig

open Text

/-! ## Metadata -/

/-- What is told about a property besides its key and type. -/
structure Metadata where
  name : Option String
  description : Option String
  exampleValues : List String
  onlyExampleValues : Bool
  caseSensitive : Bool
deriving DecidableEq, Repr

namespace Metadata

/-- Nothing told. -/
def blank : Metadata := ⟨none, none, [], false, false⟩

instance : Inhabited Metadata := ⟨blank⟩

def withName (m : Metadata) (name : String) : Metadata := { m with name := some name }

def withDescription (m : Metadata) (description : String) : Metadata :=
  { m with description := some description }

def withExampleValues (m : Metadata) (values : List String) : Metadata :=
  { m with exampleValues := values }

def withOnlyExampleValues (m : Metadata) : Metadata := { m with onlyExampleValues := true }

def withCaseSensitive (m : Metadata) : Metadata := { m with caseSensitive := true }

def inspect (m : Metadata) : String :=
  writeRecord "PropertyMetadata"
    [("name", writeOption quoted m.name), ("description", writeOption quoted m.description),
      ("example_values", writeList (m.exampleValues.map quoted)),
      ("only_example_values", toString m.onlyExampleValues),
      ("case_sensitive", toString m.caseSensitive)] false

/-- The metadata of a selection: the choices and the keywords, and nothing else, as written. -/
def ofChoices (choices : List String) : Metadata :=
  ⟨none, none, choices ++ [Selection.allKeyword, Selection.noneKeyword], true, true⟩

end Metadata

/-! ## Typed properties -/

/-- The kinds of properties. -/
inductive Kind where
  | nullable
  | valued
  | passthrough
deriving DecidableEq, Repr

def Kind.name : Kind → String
  | nullable => "Nullable"
  | valued => "Valued"
  | passthrough => "Passthrough"

/-- What stands for a missing value of type `α`, in outcomes of type `β`. -/
inductive Fallback (α : Type) : Type → Type where
  | missing : Fallback α (Option α)
  | default (value : α) : Fallback α α

namespace Fallback

variable {α β : Type}

def kind : Fallback α β → Kind
  | missing => .nullable
  | default _ => .valued

/-- The outcome without a value. -/
def whenMissing : Fallback α β → β
  | missing => none
  | default value => value

/-- The outcome with a value. -/
def whenPresent : Fallback α β → α → β
  | missing, value => some value
  | default _, value => value

end Fallback

/-- A property with values of type `α` and outcomes of type `β`. -/
structure Property (α β : Type) where
  key : String
  parser : ValueParser α
  fallback : Fallback α β
  metadata : Metadata

/-- A property that may be missing. -/
abbrev Nullable (α : Type) := Property α (Option α)

/-- A property with a default. -/
abbrev Valued (α : Type) := Property α α

namespace Property

variable {α β : Type}

def nullable (key : String) (parser : ValueParser α) : Nullable α :=
  ⟨key, parser, .missing, .blank⟩

def valued (key : String) (parser : ValueParser α) (default : α) : Valued α :=
  ⟨key, parser, .default default, .blank⟩

/-- A selection with a default, which tells its choices. -/
def selection (key : String) (format : Format α) (default : Selection α) (choices : List α) :
    Valued (Selection α) :=
  ⟨key, .selection format, .default default, .ofChoices (choices.map format.write)⟩

def withMetadata (p : Property α β) (m : Metadata) : Property α β := { p with metadata := m }

def kind (p : Property α β) : Kind := p.fallback.kind

def describeType (p : Property α β) : Option String := p.parser.describeType

def whenMissing (p : Property α β) : β := p.fallback.whenMissing

def whenPresent (p : Property α β) (value : α) : β := p.fallback.whenPresent value

/-- Whether the property accepts a raw value. -/
def check (p : Property α β) (raw : String) : Except ParseFailure Unit :=
  (p.parser.parse raw).map fun _ => ()

/-- The default of a valued property. -/
def default? (p : Property α β) : Option α :=
  match p.fallback with
  | .missing => none
  | .default value => some value

/-- The default as it is written for help. -/
def describeDefault (p : Property α β) (write : α → String) : Option String :=
  p.default?.map write

/-- A property in diagnostics, without its parser. -/
def inspect (p : Property α β) (inspectValue : α → String) : String :=
  match p.default? with
  | none =>
    writeRecord "NullableProperty" [("key", quoted p.key), ("metadata", p.metadata.inspect)] true
  | some value =>
    writeRecord "ValuedProperty"
      [("key", quoted p.key), ("default_value", inspectValue value),
        ("metadata", p.metadata.inspect)] true

end Property

/-- What validation needs of a property: its key and whether it accepts a raw value. -/
structure Requirement where
  key : String
  check : String → Except ParseFailure Unit

/-- A property as a requirement; its types no longer show. -/
def Property.requirement {α β : Type} (p : Property α β) : Requirement := ⟨p.key, p.check⟩

/-! ## Families of keys -/

/-- The keys below a stem, with their raw values. -/
structure Family where
  stem : String
  metadata : Metadata
deriving DecidableEq, Repr

namespace Family

def ofStem (stem : String) : Family := ⟨stem, .blank⟩

def withMetadata (f : Family) (m : Metadata) : Family := { f with metadata := m }

/-- What follows the stem and a dot. -/
def strip (f : Family) (key : String) : Option String :=
  ((stripStart f.stem.toList key.toList).bind (stripStart ['.'])).map String.ofList

def inspect (f : Family) : String :=
  writeRecord "PassthroughProperty" [("prefix", quoted f.stem), ("metadata", f.metadata.inspect)]
    false

theorem strip_eq_some_iff {f : Family} {key rest : String} :
    f.strip key = some rest ↔ key = f.stem ++ "." ++ rest := by
  simp only [strip, Option.map_eq_some_iff, Option.bind_eq_some_iff, stripStart_eq_some_iff]
  constructor
  · rintro ⟨r, ⟨s, hs, hr⟩, rfl⟩
    apply String.toList_inj.1
    rw [hs, hr]
    simp [String.toList_append]
  · intro h
    refine ⟨rest.toList, ⟨'.' :: rest.toList, ?_, rfl⟩, String.ofList_toList⟩
    rw [h]
    simp [String.toList_append]

end Family

end LayeredConfig
