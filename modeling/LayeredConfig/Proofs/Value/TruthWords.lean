import LayeredConfig.Proofs.Text.LowerCase
import LayeredConfig.Value.Parser

/-!
# The words for truth values

A truth value is read from a text by trimming it, lower-casing it by the full Unicode mapping and
comparing it with eight words. The words are ASCII, and so one would compare letters alone. That
this makes no difference needs the words themselves: a text with a Kelvin sign in it does lower-case
into an ASCII word, but into one with a `k`, and none of the eight has one.

* `lowered_mem_iff`: full lower-casing finds a word exactly where ASCII lower-casing does.
* `truth_values_are_their_words`: what is read from any text.
-/

namespace LayeredConfig

open Text

/-- Full lower-casing and that of ASCII letters find the same words. -/
theorem lowered_mem_iff (words : List String)
    (hwords : ∀ w ∈ words, ∀ c ∈ w.toList, c.toNat < 128 ∧ c ≠ 'k') (s : String) :
    lowered s ∈ words ↔ s.toLower ∈ words := by
  have heq : ∀ w ∈ words, lowered s = w ↔ s.toLower = w := by
    intro w hw
    rw [← String.toList_inj, ← String.toList_inj, lowered, String.toList_ofList, toList_toLower]
    exact lower_eq_iff (hwords w hw)
  constructor
  · intro h
    rw [(heq _ h).mp rfl]
    exact h
  · intro h
    rw [(heq _ h).mpr rfl]
    exact h

namespace ValueParser

theorem parse_boolean (raw : String) :
    boolean.parse raw =
      if (trimmed raw).toLower ∈ ["true", "yes", "1", "on"] then .ok true
      else if (trimmed raw).toLower ∈ ["false", "no", "0", "off"] then .ok false
      else .error ⟨raw, "Boolean", "Expected one of true, false, yes, no, on, off, 1, 0."⟩ := by
  have hword : String.ofList (lower (trim raw.toList)) = lowered (trimmed raw) := by
    rw [lowered, trimmed, String.toList_ofList]
  have htrue := lowered_mem_iff ["true", "yes", "1", "on"] (by simp) (trimmed raw)
  have hfalse := lowered_mem_iff ["false", "no", "0", "off"] (by simp) (trimmed raw)
  simp only [boolean, hword, htrue, hfalse]

end ValueParser

/-- A text whose ASCII lower-casing is ASCII is ASCII itself. -/
theorem ascii_of_toLower {s : String} (h : ∀ c ∈ s.toLower.toList, c.toNat < 128) :
    ∀ c ∈ s.toList, c.toNat < 128 := by
  intro c hc
  rw [toList_toLower] at h
  exact (toNat_toLower_lt_iff c).mp (h _ (List.mem_map_of_mem hc))

/-- **Truth values are read from their words and from nothing else.** The white space around a text
and the case of its ASCII letters do not count, and all else does: a text that is none of the words
is refused as it was given. In particular no text with a character beyond ASCII inside is read. -/
theorem truth_values_are_their_words (raw : String) :
    let word := (trimmed raw).toLower
    let parsed := ValueParser.boolean.parse raw
    (parsed = .ok true ↔ word ∈ ["true", "yes", "1", "on"]) ∧
      (parsed = .ok false ↔ word ∈ ["false", "no", "0", "off"]) ∧
      (word ∉ ["true", "yes", "1", "on"] ∧ word ∉ ["false", "no", "0", "off"] →
        parsed = .error
          ⟨raw, "Boolean", "Expected one of true, false, yes, no, on, off, 1, 0."⟩) ∧
      ∀ b, parsed = .ok b → ∀ c ∈ (trimmed raw).toList, c.toNat < 128 := by
  intro word parsed
  have hparsed : parsed = _ := ValueParser.parse_boolean raw
  have hapart : ∀ w ∈ ["false", "no", "0", "off"], w ∉ ["true", "yes", "1", "on"] := by decide
  have hascii : ∀ w ∈ ["true", "yes", "1", "on"] ++ ["false", "no", "0", "off"],
      ∀ c ∈ w.toList, c.toNat < 128 := by simp
  by_cases htrue : word ∈ ["true", "yes", "1", "on"]
  · have hfalse : word ∉ ["false", "no", "0", "off"] := fun h => hapart word h htrue
    rw [if_pos htrue] at hparsed
    refine ⟨by simp [hparsed, htrue], by simp [hparsed, hfalse], fun h => absurd htrue h.1, ?_⟩
    intro _ _
    exact ascii_of_toLower (hascii word (List.mem_append_left _ htrue))
  · rw [if_neg htrue] at hparsed
    by_cases hfalse : word ∈ ["false", "no", "0", "off"]
    · rw [if_pos hfalse] at hparsed
      refine ⟨by simp [hparsed, htrue], by simp [hparsed, hfalse], fun h => absurd hfalse h.2, ?_⟩
      intro _ _
      exact ascii_of_toLower (hascii word (List.mem_append_right _ hfalse))
    · rw [if_neg hfalse] at hparsed
      refine ⟨by simp [hparsed, htrue], by simp [hparsed, hfalse], fun _ => hparsed, ?_⟩
      intro b hb
      rw [hparsed] at hb
      cases hb

/-- A long `s` has a capital `S` like the small one, but no word is spelled with it. -/
theorem yes_is_read_and_its_look_alike_is_not :
    ValueParser.boolean.parse "\u3000YeS\n" = .ok true ∧
      ValueParser.boolean.parse "yeſ" = .error
        ⟨"yeſ", "Boolean", "Expected one of true, false, yes, no, on, off, 1, 0."⟩ := by
  obtain ⟨htrue, -, -, -⟩ := truth_values_are_their_words "\u3000YeS\n"
  obtain ⟨-, -, hrefused, -⟩ := truth_values_are_their_words "yeſ"
  exact ⟨htrue.mpr (by decide +kernel), hrefused ⟨by decide +kernel, by decide +kernel⟩⟩

end LayeredConfig
