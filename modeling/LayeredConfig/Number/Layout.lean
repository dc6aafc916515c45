import LayeredConfig.Number.Shortest

/-!
# Written floating-point numbers

A layout fixes how the shortest decimal of a value is written: where positional notation ends,
whether a whole number keeps a point, which of two equally near decimals is taken, and the words
for what is no number.
-/

namespace LayeredConfig.Number

/-- The decisions of a format for floating-point numbers. Numbers whose leading digit has an
exponent from `plainFrom` up to and not including `plainBelow` are positional; without a bound
there is no limit on that side. -/
structure Layout where
  plainFrom : Option Int
  plainBelow : Option Int
  keepPoint : Bool
  tie : Tie
  nan : String
  infinity : String

namespace Layout

/-- Values that are shown to a user: always positional, whole numbers without a point. -/
def plain : Layout := ⟨none, none, false, .upward, "NaN", "inf"⟩

/-- Values in diagnostics: positional from one ten-thousandth up to sixteen digits, whole numbers
with a point. -/
def diagnostic : Layout := ⟨some (-4), some 16, true, .upward, "NaN", "inf"⟩

/-- Numbers of a document: positional from one hundred-thousandth up to sixteen digits, whole
numbers with a point. -/
def document : Layout := ⟨some (-5), some 16, true, .toEven, ".nan", ".inf"⟩

/-- Digits with the point inside, before or after them. -/
def positional (layout : Layout) (digits : List Char) (exponent : Int) : List Char :=
  let point : Int := digits.length + exponent
  if 0 ≤ exponent then
    digits ++ List.replicate exponent.toNat '0' ++ (if layout.keepPoint then ['.', '0'] else [])
  else if 0 < point then digits.take point.toNat ++ '.' :: digits.drop point.toNat
  else '0' :: '.' :: List.replicate (-point).toNat '0' ++ digits

/-- One digit before the point and a power of ten. -/
def scientific (digits : List Char) (exponent : Int) : List Char :=
  let fraction := digits.drop 1
  digits.take 1 ++ (if fraction = [] then [] else '.' :: fraction) ++
    'e' :: (decimalText (digits.length + exponent - 1)).toList

/-- Whether a number with this exponent of the leading digit is positional. -/
def isPlain (layout : Layout) (leading : Int) : Bool :=
  (match layout.plainFrom with | some bound => decide (bound ≤ leading) | none => true) &&
    (match layout.plainBelow with | some bound => decide (leading < bound) | none => true)

/-- The written form of a value of a format. -/
def write (layout : Layout) (f : BinaryFormat) : Floating → String
  | .nan => layout.nan
  | .infinite negative => (if negative then "-" else "") ++ layout.infinity
  | .finite negative m q =>
    let d : Decimal :=
      if m = 0 then ⟨0, 0⟩
      else
        let narrow := m = Nat.pow 2 (f.precision - 1) ∧ f.leastExponent < q
        Significant.shortest ⟨m, q, decide narrow⟩ layout.tie
    let digits := decimalDigits d.digits
    let body :=
      if layout.isPlain (digits.length + d.exponent - 1) then layout.positional digits d.exponent
      else scientific digits d.exponent
    (if negative then "-" else "") ++ String.ofList body

end Layout

end LayeredConfig.Number
