import LayeredConfig.Text.Case

/-!
# Lower case seen from ASCII

Lower-casing is no map of characters. `Σ` looks at its neighbours, and `İ` becomes two characters.
But the neighbours decide between two forms of a small sigma and nothing else, so that with the
final form replaced by the other one each character contributes a piece of its own, wherever it
stands (`map_medial_lower`). A text of ASCII characters does not notice the replacement. Whether it
is the lower-case form of another text, or a fragment of it, can be told piece by piece.

The pieces of ASCII characters are their small letters. Beyond ASCII two characters contribute an
ASCII character, which a look at the table shows: the Kelvin sign becomes `k`, and `İ` becomes `i`
with a dot above, which is not ASCII.

* `lowerChar_of_not_ascii`: what becomes of a character beyond ASCII.
* `map_medial_lower`: lower-casing piece by piece, but for the form of a sigma.
* `lower_eq_iff`: an ASCII word without `k` has no lower-case look-alikes.
* `infix_lower_iff`: ASCII fragments of a lower-case form.
* `not_capital_of_mem_lower`: no lower-case form holds a capital letter of ASCII.
-/

namespace LayeredConfig.Text

/-! ## The table -/

/-- A run leads to valid characters beyond ASCII, or it is the Kelvin sign. -/
theorem run_beyond_ascii : ∀ run ∈ caseRuns,
    (run.lower = 'k'.toNat ∧ run.first = run.last) ∨
      (128 ≤ run.lower ∧ (run.lower + (run.last - run.first) < 0xD800 ∨
        (0xDFFF < run.lower ∧ run.lower + (run.last - run.first) < 0x110000))) := by
  decide +kernel

theorem CaseRun.apply_eq_some {run : CaseRun} {n m : Nat} (h : run.apply n = some m) :
    run.first ≤ n ∧ n ≤ run.last ∧ m = run.lower + (n - run.first) := by
  unfold CaseRun.apply at h
  split at h
  · rename_i hrange
    cases h
    exact ⟨hrange.1, hrange.2.1, rfl⟩
  · cases h

theorem lowerChar_of_not_ascii {c : Char} (hc : 128 ≤ c.toNat) :
    lowerChar c = ['i', '\u0307'] ∨ ∃ d, lowerChar c = [d] ∧ (d = 'k' ∨ 128 ≤ d.toNat) := by
  unfold lowerChar
  rw [if_neg (by omega)]
  by_cases hdotted : c = 'İ'
  · exact Or.inl (if_pos hdotted)
  · rw [if_neg hdotted]
    right
    cases hrun : caseRuns.findSome? fun run => run.apply c.toNat with
    | none => exact ⟨c, rfl, Or.inr hc⟩
    | some n =>
      obtain ⟨run, hmem, happly⟩ := List.exists_of_findSome?_eq_some hrun
      obtain ⟨hfirst, hlast, rfl⟩ := CaseRun.apply_eq_some happly
      refine ⟨_, rfl, ?_⟩
      rcases run_beyond_ascii run hmem with ⟨hkelvin, hsingle⟩ | ⟨hlower, hvalid⟩
      · have hn : run.lower + (c.toNat - run.first) = 'k'.toNat := by omega
        rw [hn]
        exact Or.inl rfl
      · right
        have hn : (run.lower + (c.toNat - run.first)).isValidChar := by
          rcases hvalid with h | h
          · exact Or.inl (by omega)
          · exact Or.inr (by omega)
        rw [Char.ofNat, dif_pos hn]
        show 128 ≤ run.lower + (c.toNat - run.first)
        omega

/-! ## Piece by piece -/

/-- The form of a small sigma inside a word, also in place of the final one. -/
def medial (c : Char) : Char := if c = 'ς' then 'σ' else c

/-- What a character contributes to a lower-case form, wherever it stands. -/
def piece (c : Char) : List Char := if c = 'Σ' then ['σ'] else (lowerChar c).map medial

theorem map_medial_lower (s : List Char) : (lower s).map medial = s.flatMap piece := by
  -- Each step sees one more character before it, so what stands before is general.
  have hafter (before : List Char) : (lowerAfter before s).map medial = s.flatMap piece := by
    induction s generalizing before with
    | nil => rfl
    | cons c after ih =>
      rw [lowerAfter, List.map_append, ih, List.flatMap_cons, piece]
      congr 1
      split
      · split <;> rfl
      · rfl
  exact hafter []

/-! ### ASCII characters -/

theorem medial_of_ascii {c : Char} (h : c.toNat < 128) : medial c = c := by
  refine if_neg ?_
  rintro rfl
  exact absurd h (by decide)

theorem ascii_of_medial {c : Char} (h : (medial c).toNat < 128) : c.toNat < 128 := by
  unfold medial at h
  split at h
  · exact absurd h (by decide)
  · exact h

theorem toNat_toLower_lt_iff (c : Char) : c.toLower.toNat < 128 ↔ c.toNat < 128 := by
  rw [toNat_toLower]
  split <;> omega

theorem piece_of_ascii {c : Char} (h : c.toNat < 128) : piece c = [c.toLower] := by
  have hsigma : c ≠ 'Σ' := by
    rintro rfl
    exact absurd h (by decide)
  have hlower : lowerChar c = [c.toLower] := by
    rw [lowerChar, if_pos h, asciiLowerChar_eq_toLower]
  rw [piece, if_neg hsigma, hlower, List.map_singleton,
    medial_of_ascii ((toNat_toLower_lt_iff c).mpr h)]

theorem exists_mem_piece {c : Char} (h : 128 ≤ c.toNat) :
    ∃ d ∈ piece c, d = 'k' ∨ 128 ≤ d.toNat := by
  unfold piece
  split
  · exact ⟨'σ', List.mem_singleton_self _, Or.inr (by decide)⟩
  · rcases lowerChar_of_not_ascii h with hdotted | ⟨d, hd, hbeyond⟩
    · rw [hdotted]
      exact ⟨'\u0307', by decide, Or.inr (by decide)⟩
    · rw [hd]
      refine ⟨medial d, List.mem_singleton_self _, ?_⟩
      rcases hbeyond with rfl | hbeyond
      · exact Or.inl rfl
      · refine Or.inr (Nat.le_of_not_lt fun hlt => ?_)
        exact absurd (ascii_of_medial hlt) (Nat.not_lt_of_le hbeyond)

/-- What a piece is made of: the small letter of an ASCII character, the two that come from beyond
ASCII, and characters beyond it. -/
theorem of_mem_piece {c d : Char} (h : c ∈ piece d) :
    c = d.toLower ∨ c = 'i' ∨ c = 'k' ∨ 128 ≤ c.toNat := by
  by_cases hascii : d.toNat < 128
  · rw [piece_of_ascii hascii, List.mem_singleton] at h
    exact Or.inl h
  · right
    unfold piece at h
    split at h
    · rw [List.mem_singleton] at h
      subst h
      exact Or.inr (Or.inr (by decide))
    · obtain ⟨e, he, rfl⟩ := List.mem_map.mp h
      rcases lowerChar_of_not_ascii (Nat.le_of_not_lt hascii) with hdotted | ⟨f, hf, hbeyond⟩
      · rw [hdotted, List.mem_cons, List.mem_singleton] at he
        rcases he with rfl | rfl
        · exact Or.inl rfl
        · exact Or.inr (Or.inr (by decide))
      · rw [hf, List.mem_singleton] at he
        subst he
        right
        rcases hbeyond with rfl | hbeyond
        · exact Or.inl rfl
        · refine Or.inr (Nat.le_of_not_lt fun hlt => ?_)
          exact absurd (ascii_of_medial hlt) (Nat.not_lt_of_le hbeyond)

theorem not_capital_of_mem_lower {s : List Char} {c : Char} (h : c ∈ lower s) :
    ¬ ('A' ≤ c ∧ c ≤ 'Z') := by
  intro hcapital
  have hrange : 65 ≤ c.toNat ∧ c.toNat ≤ 90 := hcapital
  have hmem : medial c ∈ s.flatMap piece := map_medial_lower s ▸ List.mem_map_of_mem h
  rw [medial_of_ascii (by omega)] at hmem
  obtain ⟨d, -, hpiece⟩ := List.mem_flatMap.mp hmem
  rcases of_mem_piece hpiece with rfl | rfl | rfl | hbeyond
  · rw [toNat_toLower] at hrange
    split at hrange <;> omega
  · exact absurd hcapital (by decide)
  · exact absurd hcapital (by decide)
  · omega

/-- The case of an ASCII letter does not show in its piece. -/
theorem piece_toLower (c : Char) : piece c.toLower = piece c := by
  by_cases h : c.toNat < 128
  · have hidem : c.toLower.toLower = c.toLower := by
      rw [← Char.toNat_inj, toNat_toLower, toNat_toLower]
      by_cases hcapital : 65 ≤ c.toNat ∧ c.toNat ≤ 90
      · rw [if_pos hcapital, if_neg (by omega)]
      · rw [if_neg hcapital, if_neg hcapital]
    rw [piece_of_ascii h, piece_of_ascii ((toNat_toLower_lt_iff c).mpr h), hidem]
  · have hself : c.toLower = c := by
      rw [← Char.toNat_inj, toNat_toLower, if_neg (by omega)]
    rw [hself]

/-! ## ASCII texts -/

theorem map_medial_of_ascii {s : List Char} (h : ∀ c ∈ s, c.toNat < 128) : s.map medial = s :=
  (List.map_congr_left fun c hc => medial_of_ascii (h c hc)).trans (List.map_id' s)

theorem map_medial_eq_iff {s t : List Char} (ht : ∀ c ∈ t, c.toNat < 128) :
    s.map medial = t ↔ s = t := by
  constructor
  · rintro rfl
    have hs : ∀ c ∈ s, c.toNat < 128 := fun c hc => ascii_of_medial (ht _ (List.mem_map_of_mem hc))
    exact (map_medial_of_ascii hs).symm
  · rintro rfl
    exact map_medial_of_ascii ht

theorem flatMap_piece_of_ascii {s : List Char} (h : ∀ c ∈ s, c.toNat < 128) :
    s.flatMap piece = s.map Char.toLower := by
  rw [List.map_eq_flatMap, List.flatMap_def, List.flatMap_def]
  exact congrArg List.flatten (List.map_congr_left fun c hc => piece_of_ascii (h c hc))

theorem lower_of_ascii {s : List Char} (h : ∀ c ∈ s, c.toNat < 128) :
    lower s = s.map Char.toLower := by
  have hsmall : ∀ c ∈ s.map Char.toLower, c.toNat < 128 := by
    intro c hc
    obtain ⟨d, hd, rfl⟩ := List.mem_map.mp hc
    exact (toNat_toLower_lt_iff d).mpr (h d hd)
  rw [← map_medial_eq_iff hsmall, map_medial_lower, flatMap_piece_of_ascii h]

/-- A word of small ASCII letters and digits is the lower-case form of those texts alone that
differ from it in the case of their ASCII letters. The letter `k` is left out for the Kelvin
sign. -/
theorem lower_eq_iff {s word : List Char} (hword : ∀ c ∈ word, c.toNat < 128 ∧ c ≠ 'k') :
    lower s = word ↔ s.map Char.toLower = word := by
  rw [← map_medial_eq_iff fun c hc => (hword c hc).1, map_medial_lower]
  constructor
  · intro h
    have hascii : ∀ c ∈ s, c.toNat < 128 := by
      intro c hc
      refine Nat.lt_of_not_le fun hbeyond => ?_
      obtain ⟨d, hd, hkelvin⟩ := exists_mem_piece hbeyond
      obtain ⟨hlt, hne⟩ := hword d (h ▸ List.mem_flatMap.mpr ⟨c, hc, hd⟩)
      rcases hkelvin with hk | hge
      · exact hne hk
      · omega
    rw [← flatMap_piece_of_ascii hascii, h]
  · intro h
    have hascii : ∀ c ∈ s, c.toNat < 128 := by
      intro c hc
      have hmem : c.toLower ∈ word := h ▸ List.mem_map_of_mem hc
      exact (toNat_toLower_lt_iff c).mp (hword _ hmem).1
    rw [flatMap_piece_of_ascii hascii, h]

theorem infix_lower_iff {fragment s : List Char} (h : ∀ c ∈ fragment, c.toNat < 128) :
    fragment <:+: lower s ↔ fragment <:+: s.flatMap piece := by
  rw [← map_medial_lower, List.infix_map_iff]
  constructor
  · intro hinfix
    exact ⟨fragment, hinfix, (map_medial_of_ascii h).symm⟩
  · rintro ⟨other, hinfix, hother⟩
    rw [(map_medial_eq_iff h).mp hother.symm] at hinfix
    exact hinfix

end LayeredConfig.Text
