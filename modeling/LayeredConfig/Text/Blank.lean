import LayeredConfig.Text.Ranges

/-!
# White space

White space is the Unicode property White_Space, twenty-five characters in ten ranges. Trimming
removes it at both ends of a text and leaves the inside alone.

* `trim_eq_nil_iff`: a text trims to nothing exactly when all of it is blank.
* `trim_decompose`: a text is its trimmed form between two blank pieces.
* `trim_trim`: trimming twice changes nothing more.
-/

namespace LayeredConfig.Text

/-- The ranges of White_Space. -/
def blankRanges : Ranges :=
  [(0x09, 0x0D), (0x20, 0x20), (0x85, 0x85), (0xA0, 0xA0), (0x1680, 0x1680), (0x2000, 0x200A),
   (0x2028, 0x2029), (0x202F, 0x202F), (0x205F, 0x205F), (0x3000, 0x3000)]

/-- Whether the character is white space. -/
def isBlank (c : Char) : Bool := blankRanges.holds c

/-- Removes the white space at the end. -/
def trimEnd (s : List Char) : List Char := (s.reverse.dropWhile isBlank).reverse

/-- Removes the white space at both ends. -/
def trim (s : List Char) : List Char := trimEnd (s.dropWhile isBlank)

/-- Removes the white space at both ends of a string. -/
def trimmed (s : String) : String := String.ofList (trim s.toList)

/-! ## Laws of trimming -/

theorem trimEnd_append_blank (s : List Char) :
    ∃ back, s = trimEnd s ++ back ∧ back.all isBlank = true := by
  refine ⟨(s.reverse.takeWhile isBlank).reverse, ?_, ?_⟩
  · rw [trimEnd, ← List.reverse_append, List.takeWhile_append_dropWhile, List.reverse_reverse]
  · rw [List.all_reverse]
    exact List.all_takeWhile

theorem trim_decompose (s : List Char) :
    ∃ front back, s = front ++ trim s ++ back ∧ front.all isBlank = true ∧
      back.all isBlank = true := by
  obtain ⟨back, hback, hall⟩ := trimEnd_append_blank (s.dropWhile isBlank)
  refine ⟨s.takeWhile isBlank, back, ?_, List.all_takeWhile, hall⟩
  rw [trim, List.append_assoc, ← hback, List.takeWhile_append_dropWhile]

theorem dropWhile_eq_nil_of_all {s : List Char} (h : s.all isBlank = true) :
    s.dropWhile isBlank = [] := by
  induction s with
  | nil => rfl
  | cons c s ih =>
    simp only [List.all_cons, Bool.and_eq_true] at h
    simp [List.dropWhile, h.1, ih h.2]

theorem trim_eq_nil_iff {s : List Char} : trim s = [] ↔ s.all isBlank = true := by
  constructor
  · intro h
    obtain ⟨front, back, hs, hf, hb⟩ := trim_decompose s
    rw [h] at hs
    rw [hs]
    simp [List.all_append, hf, hb]
  · intro h
    rw [trim, dropWhile_eq_nil_of_all h]
    rfl

theorem dropWhile_blank_append {front s : List Char} (h : front.all isBlank = true) :
    (front ++ s).dropWhile isBlank = s.dropWhile isBlank := by
  induction front with
  | nil => rfl
  | cons c front ih =>
    simp only [List.all_cons, Bool.and_eq_true] at h
    simp [h.1, ih h.2]

/-- A text that starts and ends with a character that is not blank trims to itself, and so does
the empty text. -/
theorem trim_eq_self {s : List Char} (hfirst : ∀ c, s.head? = some c → isBlank c = false)
    (hlast : ∀ c, s.getLast? = some c → isBlank c = false) : trim s = s := by
  have h1 : s.dropWhile isBlank = s := by
    cases s with
    | nil => rfl
    | cons c s => simp [List.dropWhile, hfirst c rfl]
  rw [trim, h1, trimEnd]
  have h2 : s.reverse.dropWhile isBlank = s.reverse := by
    cases hr : s.reverse with
    | nil => rfl
    | cons c r =>
      have : s.getLast? = some c := by rw [← List.head?_reverse, hr]; rfl
      simp [List.dropWhile, hlast c this]
  rw [h2, List.reverse_reverse]

theorem head?_trimEnd {s : List Char} {c : Char} (h : (trimEnd s).head? = some c) :
    s.head? = some c := by
  obtain ⟨back, hback, _⟩ := trimEnd_append_blank s
  cases ht : trimEnd s with
  | nil => rw [ht] at h; simp at h
  | cons d t =>
    rw [ht] at h hback
    rw [hback]
    simpa using h

theorem head?_trim_not_blank {s : List Char} {c : Char} (h : (trim s).head? = some c) :
    isBlank c = false := by
  have := head?_trimEnd h
  cases hb : isBlank c with
  | false => rfl
  | true =>
    have hd := List.head?_dropWhile_not isBlank s
    rw [this] at hd
    simp [hb] at hd

theorem getLast?_trim_not_blank {s : List Char} {c : Char} (h : (trim s).getLast? = some c) :
    isBlank c = false := by
  rw [trim, trimEnd, List.getLast?_reverse] at h
  cases hb : isBlank c with
  | false => rfl
  | true =>
    have hd := List.head?_dropWhile_not isBlank (s.dropWhile isBlank).reverse
    rw [h] at hd
    simp [hb] at hd

theorem trim_trim (s : List Char) : trim (trim s) = trim s :=
  trim_eq_self (fun _ h => head?_trim_not_blank h) (fun _ h => getLast?_trim_not_blank h)

/-- Blank padding does not matter to trimming. -/
theorem trim_pad {front back s : List Char} (hf : front.all isBlank = true)
    (hb : back.all isBlank = true) : trim (front ++ s ++ back) = trim s := by
  have hend : ∀ t : List Char, trimEnd (t ++ back) = trimEnd t := by
    intro t
    rw [trimEnd, trimEnd, List.reverse_append,
      dropWhile_blank_append (by rwa [List.all_reverse])]
  rw [trim, List.append_assoc, dropWhile_blank_append hf]
  by_cases h : s.all isBlank = true
  · have : (s ++ back).all isBlank = true := by simp [List.all_append, h, hb]
    rw [dropWhile_eq_nil_of_all this, trim, dropWhile_eq_nil_of_all h]
  · have hd : (s ++ back).dropWhile isBlank = s.dropWhile isBlank ++ back := by
      induction s with
      | nil => simp at h
      | cons c s ih =>
        cases hc : isBlank c with
        | false => simp [List.dropWhile, hc]
        | true =>
          simp only [List.all_cons, hc, Bool.true_and] at h
          simp [List.dropWhile, hc, ih h]
    rw [hd, hend, trim]

end LayeredConfig.Text
