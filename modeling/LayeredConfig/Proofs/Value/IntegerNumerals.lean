import LayeredConfig.Proofs.Stack.Refusal
import LayeredConfig.Source.Table

/-!
# Integer properties and their numerals

An integer is read digit by digit: what was read so far is multiplied by ten and the next digit is
added, or taken away after a minus, and each of these results has to lie in the range of the type.
A numeral whose value lies in the range might be refused on the way then, and one that is too long
might be let through. Neither happens. The results on the way to a value only move away from zero,
so that all of them lie between zero and the value, and zero belongs to every type. It takes the
minus in the loop to reach the least value of a signed type, whose absolute value does not belong
to the type.

* `Number.IntegerType.Numeral`: the numerals of a type, with their values.
* `Number.IntegerType.readDigits_eq_ok_iff`: what the loop gives, from any result on the way.
* `Number.IntegerType.read_eq_ok_iff`: numerals are read, within the range of the type, and nothing
  else is.
* `Number.IntegerType.Spells`: raw texts with a numeral inside.
* `integer_properties_read_their_numerals`: what a property of the type gives for a raw value.
-/

namespace LayeredConfig

open Text

namespace Number

/-- A magnitude as a value, on the side of zero that the sign tells. -/
def withSign (positive : Bool) (magnitude : Nat) : Int := if positive then magnitude else -magnitude

namespace IntegerType

variable {t : IntegerType}

/-! ## Ranges -/

theorem least_le_zero (t : IntegerType) : t.least ≤ 0 := by
  unfold least
  split
  · omega
  · exact Int.le_refl 0

theorem zero_le_greatest (t : IntegerType) : 0 ≤ t.greatest := by
  have hpos (bits : Nat) : 0 < Nat.pow 2 bits := Nat.pow_pos (by decide)
  unfold greatest
  split
  · have := hpos (t.bits - 1)
    omega
  · have := hpos t.bits
    omega

theorem inRange_zero (t : IntegerType) : t.InRange 0 := ⟨t.least_le_zero, t.zero_le_greatest⟩

/-- What lies between zero and a value of the type belongs to the type. -/
theorem InRange.of_le {positive : Bool} {k m : Nat} (h : t.InRange (withSign positive m))
    (hle : k ≤ m) : t.InRange (withSign positive k) := by
  obtain ⟨hleast, hgreatest⟩ := h
  have hzero := t.inRange_zero
  unfold InRange withSign at *
  cases positive with
  | true =>
    simp only [if_true] at *
    omega
  | false =>
    simp only [Bool.false_eq_true, if_false] at *
    omega

theorem fit_bind_eq_ok_iff {α : Type} {f : Int → Except IntegerFault α} {n : Int} {a : α} :
    t.fit n >>= f = .ok a ↔ t.InRange n ∧ f n = .ok a := by
  unfold fit InRange
  split
  · simp only [bind, Except.bind, reduceCtorEq, false_iff]
    omega
  · split
    · simp only [bind, Except.bind, reduceCtorEq, false_iff]
      omega
    · simp only [bind, Except.bind]
      exact ⟨fun h => ⟨by omega, h⟩, fun h => h.2⟩

/-! ## Rows of digits -/

theorem le_ofDigitChars (digits : List Char) (m : Nat) : m ≤ Nat.ofDigitChars 10 digits m := by
  rw [Nat.ofDigitChars_eq_ofDigitChars_zero]
  have hgrows : m ≤ 10 ^ digits.length * m := Nat.le_mul_of_pos_left m (Nat.pow_pos (by decide))
  omega

theorem readDigits_eq_ok_iff {positive : Bool} {digits : List Char} {m : Nat} {n : Int}
    (hm : t.InRange (withSign positive m)) :
    t.readDigits positive (withSign positive m) digits = .ok n ↔
      (∀ c ∈ digits, c.isDigit = true) ∧ n = withSign positive (Nat.ofDigitChars 10 digits m) ∧
        t.InRange n := by
  -- The result so far stands for any digits before those that are left. That it belongs to the type
  -- is what each step keeps where it goes on.
  induction digits generalizing m with
  | nil =>
    rw [readDigits, Except.ok.injEq, Nat.ofDigitChars_nil]
    constructor
    · rintro rfl
      exact ⟨by simp, rfl, hm⟩
    · rintro ⟨-, rfl, -⟩
      rfl
  | cons c rest ih =>
    rw [readDigits, digit?_eq, List.forall_mem_cons, Nat.ofDigitChars_cons]
    by_cases hdigit : c.isDigit = true
    · rw [if_pos hdigit]
      generalize c.toNat - '0'.toNat = d
      have hroom : withSign positive m * 10 = withSign positive (10 * m) := by
        unfold withSign
        split <;> omega
      have hnext : (if positive = true then withSign positive (10 * m) + d
          else withSign positive (10 * m) - d) = withSign positive (10 * m + d) := by
        unfold withSign
        split <;> omega
      simp only [fit_bind_eq_ok_iff, hroom, hnext, hdigit, true_and]
      constructor
      · rintro ⟨-, hin, hread⟩
        exact (ih hin).mp hread
      · -- The results of this step lie between zero and the value, which belongs to the type.
        rintro ⟨hrest, rfl, hin⟩
        have hreached : 10 * m + d ≤ Nat.ofDigitChars 10 rest (10 * m + d) := le_ofDigitChars _ _
        have hnextIn := hin.of_le hreached
        exact ⟨hnextIn.of_le (Nat.le_add_right _ _), hnextIn, (ih hnextIn).mpr ⟨hrest, rfl, hin⟩⟩
    · simp [hdigit]

/-! ## Numerals -/

/-- One or more decimal digits. -/
def IsDigits (digits : List Char) : Prop := digits ≠ [] ∧ ∀ c ∈ digits, c.isDigit = true

/-- The numerals of a type with their values: digits, as they are or after a plus, and in a signed
type also after a minus. -/
inductive Numeral (t : IntegerType) : List Char → Int → Prop
  | plain {digits : List Char} (h : IsDigits digits) :
    t.Numeral digits (Nat.ofDigitChars 10 digits 0)
  | plus {digits : List Char} (h : IsDigits digits) :
    t.Numeral ('+' :: digits) (Nat.ofDigitChars 10 digits 0)
  | minus {digits : List Char} (hsigned : t.signed = true) (h : IsDigits digits) :
    t.Numeral ('-' :: digits) (-(Nat.ofDigitChars 10 digits 0))

theorem readDigits_zero_eq_ok_iff {positive : Bool} {digits : List Char} {n : Int} :
    t.readDigits positive 0 digits = .ok n ↔
      (∀ c ∈ digits, c.isDigit = true) ∧ n = withSign positive (Nat.ofDigitChars 10 digits 0) ∧
        t.InRange n := by
  have hzero : withSign positive 0 = 0 := by cases positive <;> rfl
  have hin : t.InRange (withSign positive 0) := hzero ▸ t.inRange_zero
  rw [← readDigits_eq_ok_iff hin, hzero]

theorem read_plus {digits : List Char} (h : digits ≠ []) :
    t.read ('+' :: digits) = t.readDigits true 0 digits := by
  cases digits with
  | nil => exact absurd rfl h
  | cons c rest => rfl

theorem read_minus {digits : List Char} (h : digits ≠ []) :
    t.read ('-' :: digits) =
      if t.signed then t.readDigits false 0 digits else .error .invalidDigit := by
  cases digits with
  | nil => exact absurd rfl h
  | cons c rest => rfl

theorem read_unsigned {c : Char} {rest : List Char} (hplus : c ≠ '+') (hminus : c ≠ '-') :
    t.read (c :: rest) = t.readDigits true 0 (c :: rest) := by
  unfold read
  split <;> simp_all

/-- A numeral is read exactly if its value belongs to the type, and no other text is read. -/
theorem read_eq_ok_iff {s : List Char} {n : Int} :
    t.read s = .ok n ↔ t.Numeral s n ∧ t.InRange n := by
  constructor
  · intro h
    cases s with
    | nil => cases h
    | cons c rest =>
      by_cases hplus : c = '+'
      · subst hplus
        cases rest with
        | nil => cases h
        | cons d rest =>
          rw [read_plus (List.cons_ne_nil _ _), readDigits_zero_eq_ok_iff] at h
          obtain ⟨hdigits, rfl, hin⟩ := h
          exact ⟨.plus ⟨List.cons_ne_nil _ _, hdigits⟩, hin⟩
      · by_cases hminus : c = '-'
        · subst hminus
          cases rest with
          | nil => cases h
          | cons d rest =>
            rw [read_minus (List.cons_ne_nil _ _)] at h
            split at h
            · rename_i hsigned
              obtain ⟨hdigits, rfl, hin⟩ := readDigits_zero_eq_ok_iff.mp h
              exact ⟨.minus hsigned ⟨List.cons_ne_nil _ _, hdigits⟩, hin⟩
            · cases h
        · rw [read_unsigned hplus hminus, readDigits_zero_eq_ok_iff] at h
          obtain ⟨hdigits, rfl, hin⟩ := h
          exact ⟨.plain ⟨List.cons_ne_nil _ _, hdigits⟩, hin⟩
  · rintro ⟨hnumeral, hin⟩
    cases hnumeral with
    | plain h =>
      obtain ⟨hne, hdigits⟩ := h
      obtain ⟨c, rest, rfl⟩ := List.exists_cons_of_ne_nil hne
      have hfirst : c.isDigit = true := hdigits c List.mem_cons_self
      have hplus : c ≠ '+' := by
        rintro rfl
        cases hfirst
      have hminus : c ≠ '-' := by
        rintro rfl
        cases hfirst
      rw [read_unsigned hplus hminus]
      exact readDigits_zero_eq_ok_iff.mpr ⟨hdigits, rfl, hin⟩
    | plus h =>
      rw [read_plus h.1]
      exact readDigits_zero_eq_ok_iff.mpr ⟨h.2, rfl, hin⟩
    | minus hsigned h =>
      rw [read_minus h.1, if_pos hsigned]
      exact readDigits_zero_eq_ok_iff.mpr ⟨h.2, rfl, hin⟩

/-! ## White space around a numeral -/

theorem not_isBlank_of_isDigit {c : Char} (h : c.isDigit = true) : isBlank c = false := by
  have hrange : 48 ≤ c.toNat ∧ c.toNat ≤ 57 := Char.isDigit_iff_toNat.mp h
  simp only [isBlank, Ranges.holds, blankRanges, List.any_cons, List.any_nil, Bool.or_false,
    Bool.or_eq_false_iff, Bool.and_eq_false_iff, decide_eq_false_iff_not]
  omega

theorem Numeral.not_isBlank {s : List Char} {n : Int} (h : t.Numeral s n) :
    ∀ c ∈ s, isBlank c = false := by
  intro c hc
  cases h with
  | plain h => exact not_isBlank_of_isDigit (h.2 c hc)
  | plus h =>
    rcases List.mem_cons.mp hc with rfl | hc
    · decide
    · exact not_isBlank_of_isDigit (h.2 c hc)
  | minus _ h =>
    rcases List.mem_cons.mp hc with rfl | hc
    · decide
    · exact not_isBlank_of_isDigit (h.2 c hc)

/-- The raw text is a numeral of the value with white space around it. -/
def Spells (t : IntegerType) (raw : String) (n : Int) : Prop :=
  ∃ front numeral back, raw.toList = front ++ numeral ++ back ∧ front.all isBlank = true ∧
    back.all isBlank = true ∧ t.Numeral numeral n

theorem spells_iff {raw : String} {n : Int} : t.Spells raw n ↔ t.Numeral (trim raw.toList) n := by
  constructor
  · rintro ⟨front, numeral, back, hraw, hfront, hback, hnumeral⟩
    have hblank := hnumeral.not_isBlank
    have htrim : trim numeral = numeral :=
      trim_eq_self (fun c hc => hblank c (List.mem_of_head? hc))
        fun c hc => hblank c (List.mem_of_getLast? hc)
    rw [hraw, trim_pad hfront hback, htrim]
    exact hnumeral
  · intro h
    obtain ⟨front, back, hraw, hfront, hback⟩ := trim_decompose raw.toList
    exact ⟨front, trim raw.toList, back, hraw, hfront, hback, h⟩

/-! ## Decimal texts -/

theorem isDigits_decimalDigits (n : Nat) : IsDigits (decimalDigits n) :=
  ⟨Nat.toDigits_ne_nil, fun _ hc => Nat.isDigit_of_mem_toDigits (by decide) (by decide) hc⟩

theorem ofDigitChars_decimalDigits (n : Nat) : Nat.ofDigitChars 10 (decimalDigits n) 0 = n :=
  Nat.ofDigitChars_ten_toDigits

/-- A type with a negative value is signed, so its minus is read. -/
theorem signed_of_inRange {n : Int} (h : t.InRange n) (hn : n < 0) : t.signed = true := by
  cases hsigned : t.signed with
  | true => rfl
  | false =>
    have hleast : t.least ≤ n := h.1
    rw [least, hsigned, if_neg Bool.false_ne_true] at hleast
    omega

theorem numeral_decimalText {n : Int} (h : t.InRange n) : t.Numeral (decimalText n).toList n := by
  rw [decimalText, String.toList_ofList]
  have hdigits := isDigits_decimalDigits n.natAbs
  have hvalue := ofDigitChars_decimalDigits n.natAbs
  by_cases hn : n < 0
  · have hminus : t.Numeral _ _ := .minus (signed_of_inRange h hn) hdigits
    have habs : -((n.natAbs : Nat) : Int) = n := by omega
    rw [hvalue, habs] at hminus
    rw [if_pos hn]
    exact hminus
  · have hplain : t.Numeral _ _ := .plain hdigits
    have habs : ((n.natAbs : Nat) : Int) = n := by omega
    rw [hvalue, habs] at hplain
    rw [if_neg hn]
    exact hplain

end IntegerType

end Number

/-! ## Properties -/

theorem ValueParser.parse_integer (name : String) (t : Number.IntegerType) (raw : String) :
    (ofFormat (.integer name t)).parse raw =
      match t.read (trim raw.toList) with
      | .ok n => .ok n
      | .error fault => .error ⟨raw, shortTypeName name, fault.message⟩ := by
  simp only [ofFormat, Format.integer]
  cases t.read (trim raw.toList) <;> rfl

/-- **Integer properties read the numerals of their type and nothing else.** Of a raw value that a
stack provides, white space around it does not count, and neither do a plus and leading zeros; what
is no numeral, or one of a value out of range, is refused as it was given. In particular the decimal
text of every value of the type is read back. -/
theorem integer_properties_read_their_numerals (stack : Stack) (key raw name : String)
    (t : Number.IntegerType) (hraw : (stack.rawValue key).result = some raw) :
    let outcome := (stack.get (.nullable key (.ofFormat (.integer name t)))).result
    (∀ n, outcome = .ok (some n) ↔ t.Spells raw n ∧ t.InRange n) ∧
      ((¬ ∃ n, t.Spells raw n ∧ t.InRange n) →
        ∃ err, outcome = .error err ∧ err.key = key ∧ err.rawValue = raw) ∧
      ∀ n front back, t.InRange n → front.all isBlank = true → back.all isBlank = true →
        raw.toList = front ++ (Number.decimalText n).toList ++ back → outcome = .ok (some n) := by
  intro outcome
  have hread (n : Int) : t.Spells raw n ∧ t.InRange n ↔ t.read (trim raw.toList) = .ok n := by
    rw [Number.IntegerType.spells_iff, Number.IntegerType.read_eq_ok_iff]
  obtain ⟨w, -, hget⟩ :=
    Stack.result_get_of_rawValue (p := .nullable key (.ofFormat (.integer name t))) hraw
  have houtcome : outcome = _ := hget
  have haccepted (n : Int) : outcome = .ok (some n) ↔ t.Spells raw n ∧ t.InRange n := by
    rw [hread, houtcome]
    simp only [Property.nullable, ValueParser.parse_integer]
    cases t.read (trim raw.toList) with
    | error fault => simp
    | ok m => simp [Property.whenPresent, Fallback.whenPresent]
  refine ⟨haccepted, fun hnone => ?_, fun n front back hin hfront hback htext => ?_⟩
  · rw [houtcome]
    simp only [Property.nullable, ValueParser.parse_integer]
    cases hresult : t.read (trim raw.toList) with
    | error fault => exact ⟨_, rfl, rfl, rfl⟩
    | ok n => exact absurd ⟨n, (hread n).mpr hresult⟩ hnone
  · have hnumeral := Number.IntegerType.numeral_decimalText hin
    exact (haccepted n).mpr ⟨⟨front, _, back, htext, hfront, hback, hnumeral⟩, hin⟩

/-- A table with one raw value. -/
def levelTable (raw : String) : Stack := [(Table.ofList "table" [("level", raw)]).source]

/-- A level of eight bits. -/
def level : Nullable Int := .nullable "level" (.ofFormat (.integer "i8" ⟨true, 8⟩))

/-- The least value of eight bits, with zeros in front of it, and a value that is one too great. -/
theorem level_is_read_at_its_end_and_not_past_it :
    ((levelTable "\u3000-00128\n").rawValue "level").result = some "\u3000-00128\n" ∧
      ((levelTable "\u3000-00128\n").get level).result = .ok (some (-128)) ∧
      ((levelTable "+128 ").rawValue "level").result = some "+128 " ∧
      ∃ err, ((levelTable "+128 ").get level).result = .error err ∧ err.rawValue = "+128 " := by
  have hleast : ((levelTable "\u3000-00128\n").rawValue "level").result =
      some "\u3000-00128\n" := by rfl
  have hgreat : ((levelTable "+128 ").rawValue "level").result = some "+128 " := by rfl
  obtain ⟨haccepted, -, -⟩ :=
    integer_properties_read_their_numerals _ "level" _ "i8" ⟨true, 8⟩ hleast
  obtain ⟨-, hrefused, -⟩ :=
    integer_properties_read_their_numerals _ "level" _ "i8" ⟨true, 8⟩ hgreat
  have hspelled : Number.IntegerType.Spells ⟨true, 8⟩ "\u3000-00128\n" (-128) :=
    ⟨['\u3000'], ['-', '0', '0', '1', '2', '8'], ['\n'], by rfl, by decide, by decide,
      .minus rfl ⟨by simp, by simp⟩⟩
  have hnone : ¬ ∃ n, Number.IntegerType.Spells ⟨true, 8⟩ "+128 " n ∧
      Number.IntegerType.InRange ⟨true, 8⟩ n := by
    rintro ⟨n, hspells, hin⟩
    have hread := Number.IntegerType.read_eq_ok_iff.mpr
      ⟨Number.IntegerType.spells_iff.mp hspells, hin⟩
    have hfault : Number.IntegerType.read ⟨true, 8⟩ (trim "+128 ".toList) = .error .tooLarge := by
      rfl
    rw [hfault] at hread
    cases hread
  obtain ⟨err, herr, -, hvalue⟩ := hrefused hnone
  exact ⟨hleast, (haccepted (-128)).mpr ⟨hspelled, by decide⟩, hgreat, err, herr, hvalue⟩

end LayeredConfig
