import LayeredConfig.Text.Quoted.Table
import LayeredConfig.Text.Pieces

/-!
# Quoted texts and written records

How diagnostics write a value out: texts stand between quotes with the quote, the backslash and
everything that does not show escaped, records list their fields by name.
-/

namespace LayeredConfig.Text

/-- The digits of a number in base sixteen, in small letters and without leading zeros. -/
def hexDigits (n : Nat) : List Char := Nat.toDigits 16 n

/-- The escape letters and the numbered form of characters that do not show. -/
def escapeChar (quote c : Char) : List Char :=
  if c = quote then ['\\', quote]
  else if c = '\\' then ['\\', '\\']
  else if c = '\t' then ['\\', 't']
  else if c = '\n' then ['\\', 'n']
  else if c = '\r' then ['\\', 'r']
  else if c.toNat = 0 then ['\\', '0']
  else if hiddenRanges.holds c then ['\\', 'u', '\x7b'] ++ hexDigits c.toNat ++ ['\x7d']
  else [c]

/-- A text between double quotes. -/
def quoted (s : String) : String :=
  String.ofList ('"' :: s.toList.flatMap (escapeChar '"') ++ ['"'])

/-- A character between single quotes. -/
def quotedChar (c : Char) : String := String.ofList ('\x27' :: escapeChar '\x27' c ++ ['\x27'])

/-- An optional value: its written form in `Some(…)`, or `None`. -/
def writeOption {α : Type} (write : α → String) : Option α → String
  | some a => "Some(" ++ write a ++ ")"
  | none => "None"

/-- Written values in brackets. -/
def writeList (items : List String) : String := "[" ++ join ", " items ++ "]"

/-- A record: its name and its fields; an open record has fields that are not shown. -/
def writeRecord (name : String) (fields : List (String × String)) (isOpen : Bool) : String :=
  let shown := fields.map (fun f => f.1 ++ ": " ++ f.2) ++ (if isOpen then [".."] else [])
  name ++ " \x7b " ++ join ", " shown ++ " \x7d"

end LayeredConfig.Text
