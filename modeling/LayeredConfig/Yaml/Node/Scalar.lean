import LayeredConfig.Number.Binary
import LayeredConfig.Yaml.Fault
import LayeredConfig.Yaml.Node
import LayeredConfig.Yaml.Tree

/-!
# Scalars

A plain scalar without a tag is null, a truth value or a number if it is written like one, and a
text otherwise. A quoted scalar is a text. A standard tag demands its type of any scalar; a tag
of one's own stands around what the scalar is without it.
-/

namespace LayeredConfig.Yaml

open Number

/-! ## Texts that mean something else -/

/-- Whether the text is a word for null. -/
def isNullWord (s : List Char) : Bool :=
  s ∈ ["null", "Null", "NULL", "~"].map String.toList

/-- The truth value of a word. -/
def truthWord? (s : List Char) : Option Bool :=
  if s ∈ ["true", "True", "TRUE"].map String.toList then some true
  else if s ∈ ["false", "False", "FALSE"].map String.toList then some false
  else none

/-- The text without one sign. -/
def afterSign : List Char → List Char
  | '+' :: s => s
  | '-' :: s => s
  | s => s

/-- Whether digits start with a zero that is not the only one. Such a text is no number. -/
def isPadded : List Char → Bool
  | '0' :: s => s != [] && s.all isDigit
  | _ => false

/-- A natural number in decimal, hexadecimal, octal or binary digits. -/
def unsigned? : List Char → Option Nat
  | '0' :: 'x' :: digits => natural? 16 digits
  | '0' :: 'o' :: digits => natural? 8 digits
  | '0' :: 'b' :: digits => natural? 2 digits
  | digits => if isPadded digits then none else natural? 10 digits

/-- An integer: a sign or none, and a natural number. -/
def integer? : List Char → Option Int
  | '-' :: s => (unsigned? s).map fun n => -n
  | '+' :: s => (unsigned? s).map fun n => n
  | s => (unsigned? s).map fun n => n

/-- Whether the integer fits 64 bits, signed or not. -/
def fitsWord (n : Int) : Bool := -(Nat.pow 2 63) ≤ n && n < Nat.pow 2 64

/-- Whether the integer fits 128 bits, signed or not. -/
def fitsDoubleWord (n : Int) : Bool := -(Nat.pow 2 127) ≤ n && n < Nat.pow 2 128

/-- The integer that a text denotes. One that fits only 128 bits is a fault; a larger one is no
integer. -/
def integerNode? (s : List Char) : Except Fault (Option Node) :=
  match (integer? s).filter fitsDoubleWord with
  | some n => if fitsWord n then .ok (some (.integer n)) else .error .numberTooWide
  | none => .ok none

/-- A floating-point number: a finite decimal, an infinity, or the word for no number, which
takes no sign. -/
def floating? (s : List Char) : Option Floating :=
  let body := match s with
    | '+' :: rest => rest
    | s => s
  if body ∈ [".inf", ".Inf", ".INF"].map String.toList then some (.infinite false)
  else if s ∈ ["-.inf", "-.Inf", "-.INF"].map String.toList then some (.infinite true)
  else if s ∈ [".nan", ".NaN", ".NAN"].map String.toList then some .nan
  else if body ≠ s && body.head?.any (fun c => c == '+' || c == '-') then none
  else (binary64.read body).toOption.filter Floating.isFinite

namespace Node

/-- The value of a text in quotes. -/
def ofQuoted (s : List Char) : Node := .text (String.ofList s)

/-- The value of a plain text. -/
def ofPlain (s : List Char) : Except Fault Node := do
  if s = [] || isNullWord s then return .null
  match truthWord? s with
  | some value => return .truth value
  | none =>
    match ← integerNode? s with
    | some node => return node
    | none =>
      match if isPadded (afterSign s) then none else floating? s with
      | some value => return .floating value
      | none => return ofQuoted s

end Node

/-! ## Tags -/

/-- The text without a leading mark, unless it is the mark alone. -/
def unmarked : List Char → List Char
  | '!' :: c :: s => c :: s
  | s => s

namespace Tag

/-- Whether the tag is one of the document's own. -/
def isLocal (t : Tag) : Bool := t.text.head? == some '!'

/-- The name of a tag of one's own. A second mark in front is left out as well. -/
def localName? (t : Tag) : Option (List Char) :=
  if t.isLocal && t.sound then some (unmarked (unmarked t.text)) else none

/-- The word of a standard tag. -/
def standardWord? (t : Tag) : Option (List Char) :=
  let stem := "tag:yaml.org,2002:".toList
  if stem.isPrefixOf t.text then some (t.text.drop stem.length) else none

end Tag

/-- Demands a value of a type. -/
def demand {α : Type} (expected : String) : Option α → Except Fault α
  | some a => .ok a
  | none => .error (.wrongTag expected)

/-- The value of a scalar under the tag of a type, and none for any other tag. -/
def typedScalar? (t : Tag) (s : List Char) : Option (Except Fault Node) :=
  t.standardWord?.bind fun word =>
    if word = "bool".toList then some ((demand "a boolean" (truthWord? s)).map .truth)
    else if word = "int".toList then some (do demand "an integer" (← integerNode? s))
    else if word = "float".toList then some ((demand "a float" (floating? s)).map .floating)
    else if word = "null".toList then
      some (if isNullWord s then .ok .null else .error (.wrongTag "null"))
    else none

/-- The value of a scalar. -/
def Node.ofScalar (tag : Option Tag) (s : List Char) (plain : Bool) : Except Fault Node :=
  let untagged := if plain then ofPlain s else .ok (ofQuoted s)
  match tag with
  | none => untagged
  | some t =>
    match t.localName?, typedScalar? t s with
    | some name, _ => untagged.map (.tagged name)
    | none, some typed => typed
    | none, none => if t.isLocal then untagged else .ok (ofQuoted s)

end LayeredConfig.Yaml
