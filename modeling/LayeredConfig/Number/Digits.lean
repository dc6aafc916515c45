/-!
# Decimal digits

The value of a decimal digit, the value of a row of digits, and the row of digits of a number.
Only the ten ASCII digits count. Long rows are joined in halves, which takes the same numbers to
the same value (`ofDigits_eq`).
-/

namespace LayeredConfig.Number

/-- The value of a decimal digit. -/
def digit? (c : Char) : Option Nat :=
  if '0' ≤ c ∧ c ≤ '9' then some (c.toNat - 48) else none

/-- Whether the character is a decimal digit. -/
def isDigit (c : Char) : Bool := (digit? c).isSome

theorem digit?_eq (c : Char) :
    digit? c = if c.isDigit = true then some (c.toNat - '0'.toNat) else none := by
  have hrange : ('0' ≤ c ∧ c ≤ '9') ↔ c.isDigit = true := Char.isDigit_iff_toNat.symm
  unfold digit?
  simp only [hrange]
  rfl

/-- The value of a digit in a base up to sixteen, letters in either case. -/
def digitIn? (base : Nat) (c : Char) : Option Nat :=
  let value :=
    if '0' ≤ c ∧ c ≤ '9' then some (c.toNat - 48)
    else if 'a' ≤ c ∧ c ≤ 'f' then some (c.toNat - 87)
    else if 'A' ≤ c ∧ c ≤ 'F' then some (c.toNat - 55)
    else none
  value.filter (· < base)

/-! ## Rows of digits -/

/-- The value of digits that are given from the last one to the first. -/
def positional (base : Nat) (digits : List Nat) : Nat :=
  digits.foldr (fun d n => d + base * n) 0

/-- Joins neighbouring digits to digits of the squared base. -/
def pairDigits (base : Nat) : List Nat → List Nat
  | low :: high :: rest => (low + base * high) :: pairDigits base rest
  | digits => digits

/-- The value of digits that are given from the last one to the first, joined in pairs as often as
there is room. -/
def ofDigits : Nat → Nat → List Nat → Nat
  | 0, base, digits => positional base digits
  | room + 1, base, digits =>
    if digits.length ≤ 1 then positional base digits
    else ofDigits room (base * base) (pairDigits base digits)

theorem positional_pairDigits (base : Nat) (digits : List Nat) :
    positional (base * base) (pairDigits base digits) = positional base digits := by
  induction digits using pairDigits.induct with
  | case1 low high rest ih =>
    simp only [positional] at ih ⊢
    rw [pairDigits, List.foldr_cons, List.foldr_cons, List.foldr_cons, ih, Nat.mul_add,
      Nat.mul_assoc, Nat.add_assoc]
  | case2 digits h =>
    match digits, h with
    | [], _ => rfl
    | [d], _ => rfl
    | low :: high :: rest, h => exact absurd rfl (h low high rest)

theorem ofDigits_eq (room base : Nat) (digits : List Nat) :
    ofDigits room base digits = positional base digits := by
  induction room generalizing base digits with
  | zero => rfl
  | succ room ih =>
    rw [ofDigits]
    split
    · rfl
    · rw [ih, positional_pairDigits]

/-- The value of a row of one or more digits. -/
def natural? (base : Nat) (s : List Char) : Option Nat :=
  if s = [] then none
  else (s.mapM (digitIn? base)).map fun digits => ofDigits digits.length base digits.reverse

/-! ## Texts of numbers -/

/-- The decimal digits of a number, without leading zeros. -/
def decimalDigits (n : Nat) : List Char := Nat.toDigits 10 n

/-- The decimal text of an integer. -/
def decimalText (n : Int) : String :=
  String.ofList (if n < 0 then '-' :: decimalDigits n.natAbs else decimalDigits n.natAbs)

end LayeredConfig.Number
