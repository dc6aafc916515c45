import LayeredConfig.Number.Digits

/-!
# Integers of a fixed width

An integer type has a width in bits and may be signed. Its numerals are an optional sign, minus
only for signed types, and one or more decimal digits whose value lies in the range of the type.

* `IntegerType.read`: reads a numeral from left to right and stops at the first fault.
* `IntegerType.InRange`: the range of the type.
-/

namespace LayeredConfig.Number

/-- A width in bits, and whether negative values belong to the type. -/
structure IntegerType where
  signed : Bool
  bits : Nat
deriving DecidableEq, Repr

/-- Why a text is no numeral of an integer type. -/
inductive IntegerFault where
  | empty
  | invalidDigit
  | tooLarge
  | tooSmall
  | zero
deriving DecidableEq, Repr

/-- The wording of a fault. -/
def IntegerFault.message : IntegerFault → String
  | .empty => "cannot parse integer from empty string"
  | .invalidDigit => "invalid digit found in string"
  | .tooLarge => "number too large to fit in target type"
  | .tooSmall => "number too small to fit in target type"
  | .zero => "number would be zero for non-zero type"

namespace IntegerType

/-- The least value of the type. -/
def least (t : IntegerType) : Int := if t.signed then -(Nat.pow 2 (t.bits - 1)) else 0

/-- The greatest value of the type. -/
def greatest (t : IntegerType) : Int :=
  if t.signed then (Nat.pow 2 (t.bits - 1) : Int) - 1 else (Nat.pow 2 t.bits : Int) - 1

/-- Whether the value belongs to the type. -/
def InRange (t : IntegerType) (n : Int) : Prop := t.least ≤ n ∧ n ≤ t.greatest

instance (t : IntegerType) (n : Int) : Decidable (t.InRange n) :=
  inferInstanceAs (Decidable (_ ∧ _))

/-- Accepts a value of the type. -/
def fit (t : IntegerType) (n : Int) : Except IntegerFault Int :=
  if n < t.least then .error .tooSmall
  else if t.greatest < n then .error .tooLarge
  else .ok n

/-- Reads the digits after a value, adding them when `positive` and taking them away otherwise.
Each step looks at the digit first, then makes room for it, then adds it. -/
def readDigits (t : IntegerType) (positive : Bool) : Int → List Char → Except IntegerFault Int
  | n, [] => .ok n
  | n, c :: s =>
    match digit? c with
    | none => .error .invalidDigit
    | some d => do
      let room ← t.fit (n * 10)
      let next ← t.fit (if positive then room + d else room - d)
      readDigits t positive next s

/-- Reads a numeral of the type. -/
def read (t : IntegerType) (s : List Char) : Except IntegerFault Int :=
  match s with
  | [] => .error .empty
  | ['+'] => .error .invalidDigit
  | ['-'] => .error .invalidDigit
  | '+' :: digits => t.readDigits true 0 digits
  | '-' :: digits => if t.signed then t.readDigits false 0 digits else .error .invalidDigit
  | digits => t.readDigits true 0 digits

/-- Reads a numeral of the type other than zero. -/
def readNonZero (t : IntegerType) (s : List Char) : Except IntegerFault Int := do
  let n ← t.read s
  if n = 0 then .error .zero else .ok n

end IntegerType

end LayeredConfig.Number
