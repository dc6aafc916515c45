import LayeredConfig.Failure
import LayeredConfig.Text.Blank
import LayeredConfig.Text.Case
import LayeredConfig.Value.Format

/-!
# Value parsers

A value parser turns a raw text into a typed value or says why it does not. The built-in parsers
name the type that they read, and their failures carry the raw text as it was given.

* `elements_append`, `elements_of_not_mem`: which elements a delimited text has.
-/

namespace LayeredConfig

open Text

/-- A parser of raw values. `describeType` names the type, if the parser can tell, and `inspect`
shows the parser itself in diagnostics. -/
structure ValueParser (α : Type) where
  parse : String → Except ParseFailure α
  describeType : Option String
  inspect : String

namespace ValueParser

variable {α : Type}

/-- A parser given by its function alone. -/
def ofFunction (parse : String → Except ParseFailure α) : ValueParser α := ⟨parse, none, "custom"⟩

/-! ## Single values -/

/-- The texts themselves. -/
def string : ValueParser String := ⟨.ok, some "String", "StringValueParser"⟩

/-- The words for a truth value, whatever their case. -/
def boolean : ValueParser Bool where
  parse raw :=
    let word := String.ofList (lower (trim raw.toList))
    if word ∈ ["true", "yes", "1", "on"] then .ok true
    else if word ∈ ["false", "no", "0", "off"] then .ok false
    else .error ⟨raw, "Boolean", "Expected one of true, false, yes, no, on, off, 1, 0."⟩
  describeType := some "Boolean"
  inspect := "BooleanValueParser"

/-- A path: any text that is not blank. -/
def path : ValueParser String where
  parse raw :=
    let trimmed := trim raw.toList
    if trimmed = [] then .error ⟨raw, "Path", "A path cannot be empty."⟩
    else .ok (String.ofList trimmed)
  describeType := some "Path"
  inspect := "PathValueParser"

/-- The values of a text format, with white space around them. -/
def ofFormat (format : Format α) : ValueParser α where
  parse raw := match format.read (trim raw.toList) with
    | .ok value => .ok value
    | .error reason => .error ⟨raw, format.name, reason⟩
  describeType := some format.name
  inspect := writeRecord "FromStrValueParser" [("type", quoted format.fullName)] false

/-! ## Lists -/

/-- The elements of a delimited text: its pieces, trimmed, without the empty ones. -/
def elements (delimiter : Char) (s : List Char) : List (List Char) :=
  ((pieces delimiter s).map trim).filter (· ≠ [])

/-- A delimiter ends one element and begins another. -/
theorem elements_append (delimiter : Char) (a b : List Char) :
    elements delimiter (a ++ delimiter :: b) = elements delimiter a ++ elements delimiter b := by
  simp only [elements, pieces_append, List.map_append, List.filter_append]

theorem elements_of_not_mem {delimiter : Char} {s : List Char} (h : delimiter ∉ s) :
    elements delimiter s = if trim s = [] then [] else [trim s] := by
  simp only [elements, pieces_eq_singleton h, List.map_cons, List.map_nil]
  by_cases hblank : trim s = []
  · simp [hblank]
  · simp [hblank]

/-- The type name of a list. -/
def listTypeName (inner : String) : String := "List<" ++ inner ++ ">"

/-- Parses the elements in order and stops at the first that is refused. -/
def parseElements (inner : ValueParser α) (raw : String) :
    List (List Char) → Except ParseFailure (List α)
  | [] => .ok []
  | element :: rest =>
    match inner.parse (String.ofList element) with
    | .error e =>
      .error ⟨raw, listTypeName e.typeName,
        "Element '" ++ String.ofList element ++ "' is invalid: " ++ e.reason⟩
    | .ok value => (parseElements inner raw rest).map (value :: ·)

/-- A list of values with a delimiter between them. -/
def list (inner : ValueParser α) (delimiter : Char) : ValueParser (List α) where
  parse raw := parseElements inner raw (elements delimiter raw.toList)
  describeType := inner.describeType.map listTypeName
  inspect :=
    writeRecord "ListValueParser" [("inner", inner.inspect), ("delimiter", quotedChar delimiter)]
      false

end ValueParser

end LayeredConfig
