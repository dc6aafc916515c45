import LayeredConfig.Number.Digits
import LayeredConfig.Text.Case

/-!
# Binary floating-point values

A binary format holds the values `m · 2 ^ q` with a bounded significand `m` and a bounded
exponent `q`. A decimal text denotes an exact rational number and is read as the nearest value
of the format, the even one of two equally near. All arithmetic is exact.
-/

namespace LayeredConfig.Number

/-- The significand bits of a format, and the exponents of its least and greatest unit. -/
structure BinaryFormat where
  precision : Nat
  leastExponent : Int
  greatestExponent : Int
deriving DecidableEq, Repr

/-- Single precision. -/
def binary32 : BinaryFormat := ⟨24, -149, 104⟩

/-- Double precision. -/
def binary64 : BinaryFormat := ⟨53, -1074, 971⟩

/-- A value of a format: `± significand · 2 ^ exponent`, an infinity, or no number. -/
inductive Floating where
  | nan
  | infinite (negative : Bool)
  | finite (negative : Bool) (significand : Nat) (exponent : Int)
deriving DecidableEq, Repr

namespace Floating

/-- Whether the value is a number other than an infinity. -/
def isFinite : Floating → Bool
  | finite .. => true
  | _ => false

/-- Equality of numbers: both zeros are equal, and `nan` equals nothing. -/
def equals : Floating → Floating → Bool
  | finite s m q, finite t n r => (m == n && q == r && s == t) || (m == 0 && n == 0)
  | infinite s, infinite t => s == t
  | _, _ => false

end Floating

/-- The quotient rounded to the nearest natural number, to the even one of two. -/
def roundHalfEven (num den : Nat) : Nat :=
  let quotient := num / den
  match compare (2 * (num % den)) den with
  | .lt => quotient
  | .gt => quotient + 1
  | .eq => if quotient % 2 = 0 then quotient else quotient + 1

/-- The two sides of `num / den` against `2 ^ q`, without a fraction. -/
def scaleByPower (num den : Nat) (q : Int) : Nat × Nat :=
  (num * Nat.pow 2 (-q).toNat, den * Nat.pow 2 q.toNat)

namespace BinaryFormat

/-- The value nearest to `num / den`. The exponent is the least one for which the quotient
leaves no more bits than the significand has. -/
def nearest (f : BinaryFormat) (negative : Bool) (num den : Nat) : Floating :=
  if num = 0 then .finite negative 0 f.leastExponent
  else
    let guess : Int := (num.log2 : Int) - den.log2 - f.precision
    let sides := scaleByPower num den guess
    let q := max f.leastExponent
      (if Nat.pow 2 f.precision * sides.2 ≤ sides.1 then guess + 1 else guess)
    let sides := scaleByPower num den q
    let m := roundHalfEven sides.1 sides.2
    let (m, q) := if m = Nat.pow 2 f.precision then (Nat.pow 2 (f.precision - 1), q + 1) else (m, q)
    if f.greatestExponent < q then .infinite negative else .finite negative m q

end BinaryFormat

/-- The number `digits · 10 ^ exponent`. -/
structure Decimal where
  digits : Nat
  exponent : Int
deriving DecidableEq, Repr

/-- A power of two that `10 ^ exponent` reaches: ten is between eight and sixteen. -/
def powerBelow (exponent : Int) : Int := if 0 ≤ exponent then 3 * exponent else 4 * exponent

/-- A power of two that `10 ^ exponent` does not exceed. -/
def powerAbove (exponent : Int) : Int := if 0 ≤ exponent then 4 * exponent else 3 * exponent

/-- The value nearest to a decimal. A decimal beyond every value of the format, or closer to
zero than half of its least unit, is settled by its binary length alone. -/
def BinaryFormat.ofDecimal (f : BinaryFormat) (negative : Bool) (d : Decimal) : Floating :=
  let length : Int := d.digits.log2
  if d.digits = 0 then .finite negative 0 f.leastExponent
  else if f.greatestExponent + f.precision ≤ length + powerBelow d.exponent then
    .infinite negative
  else if length + 1 + powerAbove d.exponent < f.leastExponent then
    .finite negative 0 f.leastExponent
  else f.nearest negative (d.digits * Nat.pow 10 d.exponent.toNat) (Nat.pow 10 (-d.exponent).toNat)

/-! ## Reading -/

/-- The digits at the start of a text, and what follows them. -/
def spanDigits (s : List Char) : List Char × List Char := (s.takeWhile isDigit, s.dropWhile isDigit)

/-- Reads an exponent part to the end of the text; nothing at all is the exponent zero. -/
def exponentPart? : List Char → Option Int
  | [] => some 0
  | e :: s =>
    if e = 'e' ∨ e = 'E' then
      match s with
      | '+' :: digits => (natural? 10 digits).map Int.ofNat
      | '-' :: digits => (natural? 10 digits).map fun n => -Int.ofNat n
      | digits => (natural? 10 digits).map Int.ofNat
    else none

/-- Reads digits with an optional point and an optional exponent. There is a digit on one side
of the point at least. -/
def decimal? (s : List Char) : Option Decimal :=
  let (whole, rest) := spanDigits s
  let (fraction, rest) := match rest with
    | '.' :: rest => spanDigits rest
    | rest => ([], rest)
  match natural? 10 (whole ++ fraction), exponentPart? rest with
  | some digits, some exponent => some ⟨digits, exponent - fraction.length⟩
  | _, _ => none

/-- Why a text is no floating-point number. -/
inductive FloatingFault where
  | empty
  | invalid
deriving DecidableEq, Repr

/-- The wording of a fault. -/
def FloatingFault.message : FloatingFault → String
  | .empty => "cannot parse float from empty string"
  | .invalid => "invalid float literal"

/-- Reads a number, an infinity or `nan`, each with an optional sign; the words in either case. -/
def BinaryFormat.read (f : BinaryFormat) (s : List Char) : Except FloatingFault Floating :=
  if s = [] then .error .empty
  else
    let (negative, body) := match s with
      | '+' :: body => (false, body)
      | '-' :: body => (true, body)
      | body => (false, body)
    match decimal? body with
    | some d => .ok (f.ofDecimal negative d)
    | none =>
      if Text.eqIgnoringCase body "inf".toList || Text.eqIgnoringCase body "infinity".toList then
        .ok (.infinite negative)
      else if Text.eqIgnoringCase body "nan".toList then .ok .nan
      else .error .invalid

end LayeredConfig.Number
