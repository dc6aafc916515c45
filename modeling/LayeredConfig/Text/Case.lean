import LayeredConfig.Text.Case.Table

/-!
# Lower case

Lower-casing follows the full Unicode mapping: most letters map one to one, `İ` becomes two
characters, and `Σ` takes its final form `ς` at the end of a word.

Keywords are compared by their ASCII letters alone (`eqIgnoringCase`).

* `eqIgnoringCase_iff`: what it means for a text to be a word in capitals but for case.
-/

namespace LayeredConfig.Text

/-! ## ASCII letters -/

/-- Lower-cases the letters A to Z and nothing else. -/
def asciiLowerChar (c : Char) : Char :=
  if 'A' ≤ c ∧ c ≤ 'Z' then Char.ofNat (c.toNat + 32) else c

/-- Upper-cases the letters a to z and nothing else. -/
def asciiUpperChar (c : Char) : Char :=
  if 'a' ≤ c ∧ c ≤ 'z' then Char.ofNat (c.toNat - 32) else c

/-- Upper-cases the letters a to z of a string. -/
def asciiUpper (s : String) : String := String.ofList (s.toList.map asciiUpperChar)

/-- Whether two texts differ in the case of ASCII letters at most. -/
def eqIgnoringCase (s t : List Char) : Bool := s.map asciiLowerChar == t.map asciiLowerChar

/-! ### Capitals -/

theorem toNat_asciiLowerChar (c : Char) :
    (asciiLowerChar c).toNat = if 65 ≤ c.toNat ∧ c.toNat ≤ 90 then c.toNat + 32 else c.toNat := by
  have hrange : ('A' ≤ c ∧ c ≤ 'Z') ↔ 65 ≤ c.toNat ∧ c.toNat ≤ 90 := Iff.rfl
  unfold asciiLowerChar
  simp only [hrange]
  split
  · rename_i hcapital
    have hvalid : (c.toNat + 32).isValidChar := Or.inl (by omega)
    rw [Char.ofNat, dif_pos hvalid]
    rfl
  · rfl

theorem toNat_toLower (c : Char) :
    c.toLower.toNat = if 65 ≤ c.toNat ∧ c.toNat ≤ 90 then c.toNat + 32 else c.toNat := by
  have hrange : (c.val ≥ 'A'.val ∧ c.val ≤ 'Z'.val) ↔ 65 ≤ c.toNat ∧ c.toNat ≤ 90 := Iff.rfl
  unfold Char.toLower
  simp only [hrange]
  split
  · rename_i hcapital
    show (c.val + ('a'.val - 'A'.val)).toNat = c.toNat + 32
    have hshift : ('a'.val - 'A'.val).toNat = 32 := rfl
    rw [UInt32.toNat_add, Char.toNat_val, hshift]
    omega
  · rfl

theorem asciiLowerChar_eq_toLower (c : Char) : asciiLowerChar c = c.toLower := by
  rw [← Char.toNat_inj, toNat_asciiLowerChar, toNat_toLower]

theorem toList_toLower (s : String) : s.toLower.toList = s.toList.map Char.toLower :=
  String.toList_map

theorem toNat_toUpper (c : Char) :
    c.toUpper.toNat = if 97 ≤ c.toNat ∧ c.toNat ≤ 122 then c.toNat - 32 else c.toNat := by
  have hrange : ('a'.val ≤ c.val ∧ c.val ≤ 'z'.val) ↔ 97 ≤ c.toNat ∧ c.toNat ≤ 122 := Iff.rfl
  unfold Char.toUpper
  simp only [hrange]
  split
  · rename_i hsmall
    show (c.val + ('A'.val - 'a'.val)).toNat = c.toNat - 32
    have hshift : ('A'.val - 'a'.val).toNat = 2 ^ 32 - 32 := rfl
    rw [UInt32.toNat_add, Char.toNat_val, hshift]
    omega
  · rfl

theorem asciiLowerChar_eq_iff {c capital : Char} (h : 'A' ≤ capital ∧ capital ≤ 'Z') :
    asciiLowerChar c = asciiLowerChar capital ↔ c.toUpper = capital := by
  have hrange : 65 ≤ capital.toNat ∧ capital.toNat ≤ 90 := h
  rw [← Char.toNat_inj, ← Char.toNat_inj, toNat_asciiLowerChar, toNat_asciiLowerChar,
    toNat_toUpper, if_pos hrange]
  split <;> split <;> omega

/-- A text is a word in capitals but for the case of its ASCII letters if upper-casing these gives
the word. -/
theorem eqIgnoringCase_iff {s word : List Char} (h : ∀ c ∈ word, 'A' ≤ c ∧ c ≤ 'Z') :
    eqIgnoringCase s word = true ↔ s.map Char.toUpper = word := by
  rw [eqIgnoringCase, beq_iff_eq]
  induction word generalizing s with
  | nil => rw [List.map_nil, List.map_eq_nil_iff, List.map_eq_nil_iff]
  | cons capital rest ih =>
    obtain ⟨hcapital, hrest⟩ := List.forall_mem_cons.mp h
    cases s with
    | nil => simp
    | cons c s =>
      simp only [List.map_cons, List.cons.injEq, asciiLowerChar_eq_iff hcapital, ih hrest]

/-! ## Single characters -/

/-- The lower-case character that a run gives. -/
def CaseRun.apply (run : CaseRun) (n : Nat) : Option Nat :=
  if run.first ≤ n ∧ n ≤ run.last ∧ (n - run.first) % run.stride = 0 then
    some (run.lower + (n - run.first))
  else none

/-- The mapping of one character that does not depend on its neighbours. -/
def lowerChar (c : Char) : List Char :=
  if c.toNat < 128 then [asciiLowerChar c]
  else if c = 'İ' then ['i', '\u0307']
  else match caseRuns.findSome? fun run => run.apply c.toNat with
    | some n => [Char.ofNat n]
    | none => [c]

/-! ## Sigma at the end of a word -/

/-- Whether a letter with case stands next, ignorable characters passed over. -/
def casedNext (s : List Char) : Bool :=
  match s.dropWhile ignorableRanges.holds with
  | [] => false
  | c :: _ => casedRanges.holds c

/-- Lower-cases `after`, where `before` holds the characters before it, nearest first. -/
def lowerAfter (before : List Char) : List Char → List Char
  | [] => []
  | c :: after =>
    (if c = 'Σ' then [if casedNext before && !casedNext after then 'ς' else 'σ'] else lowerChar c)
      ++ lowerAfter (c :: before) after

/-- The lower-case form of a text. -/
def lower (s : List Char) : List Char := lowerAfter [] s

/-- The lower-case form of a string. -/
def lowered (s : String) : String := String.ofList (lower s.toList)

end LayeredConfig.Text
