import LayeredConfig.Value.Parser

/-!
# Selections

A selection is every choice, no choice, or an explicit list of choices. Its text is `ALL`,
`NONE`, or the choices with commas between them.
-/

namespace LayeredConfig

open Text

/-- Which choices are selected. -/
inductive Selection (α : Type) where
  | all
  | none
  | only (values : List α)
deriving DecidableEq, Repr

namespace Selection

variable {α : Type}

/-- The keyword for every choice. -/
def allKeyword : String := "ALL"

/-- The keyword for no choice. -/
def noneKeyword : String := "NONE"

/-- Whether a value is selected, for an equality of values. -/
def contains (equals : α → α → Bool) (selection : Selection α) (value : α) : Bool :=
  match selection with
  | all => true
  | none => false
  | only values => values.any (equals value)

/-- The selected values, out of a list of all. -/
def resolve (choices : List α) : Selection α → List α
  | all => choices
  | none => []
  | only values => values

/-- The text of a selection. -/
def write (writeValue : α → String) : Selection α → String
  | all => allKeyword
  | none => noneKeyword
  | only values => join "," (values.map writeValue)

/-- A selection in diagnostics. -/
def inspect (inspectValue : α → String) : Selection α → String
  | all => "All"
  | none => "None"
  | only values => "Values(" ++ writeList (values.map inspectValue) ++ ")"

/-- Whether the token is a keyword, whatever the case of its ASCII letters. -/
def isKeyword (keyword : String) (token : List Char) : Bool := eqIgnoringCase token keyword.toList

/-- Reads the choices in order and stops at the first that is no value of the format. -/
def readChoices (format : Format α) (raw : String) :
    List (List Char) → Except ParseFailure (List α)
  | [] => .ok []
  | token :: rest =>
    match format.read token with
    | .error reason =>
      .error ⟨raw, format.name, "Unknown value '" ++ String.ofList token ++ "': " ++ reason⟩
    | .ok value => (readChoices format raw rest).map (value :: ·)

/-- Reads the tokens of a selection. A keyword stands alone. -/
def ofTokens (format : Format α) (raw : String) (tokens : List (List Char)) :
    Except ParseFailure (Selection α) :=
  if tokens.any fun t => isKeyword allKeyword t || isKeyword noneKeyword t then
    match tokens with
    | [token] => .ok (if isKeyword allKeyword token then all else none)
    | _ => .error ⟨raw, format.name, "ALL and NONE cannot be combined with other values."⟩
  else (readChoices format raw tokens).map only

end Selection

/-- The parser of selections from the values of a format. -/
def ValueParser.selection {α : Type} (format : Format α) : ValueParser (Selection α) where
  parse raw := Selection.ofTokens format raw (elements ',' raw.toList)
  describeType := some format.name
  inspect := writeRecord "FilterableEnumValueParser" [("type", quoted format.fullName)] false

end LayeredConfig
