import LayeredConfig.Value.Selection
import Mathlib.Data.List.Forall2

/-!
# The grammar of selections

A selection is read from tokens: the pieces of the text between commas, trimmed, without the empty
ones. A list of the same values is read from the same tokens, but not by the same code. The list
hands each token to a parser, which trims it once more and whose failure it rewords; the selection
reads the token with the format itself. So that both read the same values, and stop at the same
token where they refuse, takes an induction over the tokens (`readChoices_and_parseElements`).

A keyword among the tokens comes before all of this. It stands alone or is refused, and the format
is not asked about any token.

* `Format.ReadsAll`, `Format.FirstRefused`: what a sequence of tokens says, token by token.
* `Selection.Spells`: keywords, whatever the case of their letters.
* `selection_accepts_its_grammar`: what a selection parser makes of any text.
-/

namespace LayeredConfig

open Text

/-! ## Sequences of tokens -/

namespace Format

variable {α : Type}

/-- The format reads each of the tokens, and these are the values in order. -/
def ReadsAll (format : Format α) : List (List Char) → List α → Prop :=
  List.Forall₂ fun token value => format.read token = .ok value

/-- The token is the first that the format refuses, and this is the reason. -/
def FirstRefused (format : Format α) (tokens : List (List Char)) (token : List Char)
    (reason : String) : Prop :=
  ∃ before after, tokens = before ++ token :: after ∧
    (∀ t ∈ before, ∃ value, format.read t = .ok value) ∧ format.read token = .error reason

variable {format : Format α} {tokens : List (List Char)} {token : List Char} {reason : String}

theorem firstRefused_head (h : format.read token = .error reason) (rest : List (List Char)) :
    format.FirstRefused (token :: rest) token reason :=
  ⟨[], rest, rfl, by simp, h⟩

theorem FirstRefused.cons (h : format.FirstRefused tokens token reason) {first : List Char}
    {value : α} (hfirst : format.read first = .ok value) :
    format.FirstRefused (first :: tokens) token reason := by
  obtain ⟨before, after, rfl, hbefore, hrefused⟩ := h
  exact ⟨first :: before, after, rfl, List.forall_mem_cons.mpr ⟨⟨value, hfirst⟩, hbefore⟩, hrefused⟩

end Format

namespace Selection

variable {α : Type}

/-- The failure of a selection with a token that is no choice. -/
def unknownChoice (format : Format α) (raw : String) (token : List Char) (reason : String) :
    ParseFailure :=
  ⟨raw, format.name, "Unknown value '" ++ String.ofList token ++ "': " ++ reason⟩

/-- The failure of a list with an element that is no value. -/
def invalidElement (format : Format α) (raw : String) (token : List Char) (reason : String) :
    ParseFailure :=
  ⟨raw, "List<" ++ format.name ++ ">",
    "Element '" ++ String.ofList token ++ "' is invalid: " ++ reason⟩

/-! ## Choices and elements -/

/-- A parser of single values reads a trimmed token as the format does. -/
theorem parse_ofFormat {token : List Char} (htrim : trim token = token) (format : Format α) :
    (ValueParser.ofFormat format).parse (String.ofList token) =
      (format.read token).mapError fun reason => ⟨String.ofList token, format.name, reason⟩ := by
  have htoken : trim (String.ofList token).toList = token := by rw [String.toList_ofList, htrim]
  unfold ValueParser.ofFormat
  simp only [htoken]
  cases format.read token <;> rfl

/-- Choices of a selection and elements of a list are read alike, and refused at the same token. -/
theorem readChoices_and_parseElements (format : Format α) (raw : String)
    {tokens : List (List Char)} (htrim : ∀ t ∈ tokens, trim t = t) :
    (∃ values, format.ReadsAll tokens values ∧ readChoices format raw tokens = .ok values ∧
        ValueParser.parseElements (.ofFormat format) raw tokens = .ok values) ∨
      ∃ token reason, format.FirstRefused tokens token reason ∧
        readChoices format raw tokens = .error (unknownChoice format raw token reason) ∧
        ValueParser.parseElements (.ofFormat format) raw tokens =
          .error (invalidElement format raw token reason) := by
  induction tokens with
  | nil => exact Or.inl ⟨[], .nil, rfl, rfl⟩
  | cons first rest ih =>
    obtain ⟨hfirst, hrest⟩ := List.forall_mem_cons.mp htrim
    rw [readChoices, ValueParser.parseElements, parse_ofFormat hfirst]
    cases hread : format.read first with
    | error reason =>
      exact Or.inr ⟨first, reason, Format.firstRefused_head hread rest, rfl, rfl⟩
    | ok value =>
      rcases ih hrest with ⟨values, hall, hchoices, helements⟩ | ⟨token, reason, hrefused, hchoices,
        helements⟩
      · refine Or.inl ⟨value :: values, .cons hread hall, ?_, ?_⟩
        · rw [hchoices]; rfl
        · rw [helements]; rfl
      · refine Or.inr ⟨token, reason, hrefused.cons hread, ?_, ?_⟩
        · rw [hchoices]; rfl
        · rw [helements]; rfl

/-! ## Keywords -/

/-- The token is the word in capitals, whatever the case of its ASCII letters. -/
def Spells (word : String) (token : List Char) : Prop := token.map Char.toUpper = word.toList

instance (word : String) (token : List Char) : Decidable (Spells word token) :=
  inferInstanceAs (Decidable (_ = _))

theorem isKeyword_iff {word : String} (h : ∀ c ∈ word.toList, 'A' ≤ c ∧ c ≤ 'Z')
    (token : List Char) : isKeyword word token = true ↔ Spells word token :=
  eqIgnoringCase_iff h

theorem isKeyword_all_iff (token : List Char) :
    isKeyword allKeyword token = true ↔ Spells "ALL" token :=
  isKeyword_iff (by simp [allKeyword]) token

theorem isKeyword_none_iff (token : List Char) :
    isKeyword noneKeyword token = true ↔ Spells "NONE" token :=
  isKeyword_iff (by simp [noneKeyword]) token

theorem not_spells_all_of_spells_none {token : List Char} (h : Spells "NONE" token) :
    ¬ Spells "ALL" token := by
  intro hall
  have hwords : "ALL".toList = "NONE".toList := hall.symm.trans h
  exact absurd hwords (by decide)

/-! ## Tokens -/

variable {format : Format α} {raw : String} {tokens : List (List Char)}

theorem any_isKeyword_iff :
    (tokens.any fun t => isKeyword allKeyword t || isKeyword noneKeyword t) = true ↔
      ∃ t ∈ tokens, Spells "ALL" t ∨ Spells "NONE" t := by
  simp only [List.any_eq_true, Bool.or_eq_true, isKeyword_all_iff, isKeyword_none_iff]

theorem ofTokens_of_no_keyword (h : ∀ t ∈ tokens, ¬ (Spells "ALL" t ∨ Spells "NONE" t)) :
    ofTokens format raw tokens = (readChoices format raw tokens).map only := by
  have hnone :
      ¬ (tokens.any fun t => isKeyword allKeyword t || isKeyword noneKeyword t) = true := by
    rw [any_isKeyword_iff]
    rintro ⟨t, ht, hword⟩
    exact h t ht hword
  exact if_neg hnone

theorem ofTokens_all {token : List Char} (h : Spells "ALL" token) :
    ofTokens format raw [token] = .ok all := by
  have hword : isKeyword allKeyword token = true := (isKeyword_all_iff token).mpr h
  rw [ofTokens, if_pos (any_isKeyword_iff.mpr ⟨token, List.mem_singleton_self _, Or.inl h⟩)]
  exact congrArg Except.ok (if_pos hword)

theorem ofTokens_none {token : List Char} (h : Spells "NONE" token) :
    ofTokens format raw [token] = .ok none := by
  have hword : ¬ isKeyword allKeyword token = true := fun hall =>
    not_spells_all_of_spells_none h ((isKeyword_all_iff token).mp hall)
  rw [ofTokens, if_pos (any_isKeyword_iff.mpr ⟨token, List.mem_singleton_self _, Or.inr h⟩)]
  exact congrArg Except.ok (if_neg hword)

theorem ofTokens_clash (h : ∃ t ∈ tokens, Spells "ALL" t ∨ Spells "NONE" t)
    (hmore : tokens.length ≠ 1) :
    ofTokens format raw tokens =
      .error ⟨raw, format.name, "ALL and NONE cannot be combined with other values."⟩ := by
  unfold ofTokens
  rw [if_pos (any_isKeyword_iff.mpr h)]
  split
  · exact absurd rfl hmore
  · rfl

end Selection

/-! ## The grammar -/

theorem trim_of_mem_elements {delimiter : Char} {s token : List Char}
    (h : token ∈ ValueParser.elements delimiter s) : trim token = token := by
  obtain ⟨piece, -, rfl⟩ := List.mem_map.mp (List.mem_of_mem_filter h)
  exact trim_trim piece

open Selection in
/-- **Selections accept their grammar.** Without a keyword among its tokens, a text is read as a
selection exactly when it is read as a list, with the same values in the same order; otherwise both
refuse it for the same token, the first that the format refuses, and with the same reason. A keyword
that is the only token is the selection of all choices or of none. With other tokens beside it the
text is refused, whatever the format would make of them. -/
theorem selection_accepts_its_grammar {α : Type} (format : Format α) (raw : String) :
    let tokens := ((pieces ',' raw.toList).map trim).filter (· ≠ [])
    let selected := (ValueParser.selection format).parse raw
    let listed := ((ValueParser.ofFormat format).list ',').parse raw
    ((∀ t ∈ tokens, ¬ (Spells "ALL" t ∨ Spells "NONE" t)) →
        (∀ values, selected = .ok (.only values) ↔ listed = .ok values) ∧
          ((∃ values, format.ReadsAll tokens values ∧ selected = .ok (.only values) ∧
              listed = .ok values) ∨
            ∃ token reason, format.FirstRefused tokens token reason ∧
              selected = .error ⟨raw, format.name,
                "Unknown value '" ++ String.ofList token ++ "': " ++ reason⟩ ∧
              listed = .error ⟨raw, "List<" ++ format.name ++ ">",
                "Element '" ++ String.ofList token ++ "' is invalid: " ++ reason⟩)) ∧
      (∀ t, tokens = [t] → Spells "ALL" t → selected = .ok .all) ∧
      (∀ t, tokens = [t] → Spells "NONE" t → selected = .ok .none) ∧
      ((∃ t ∈ tokens, Spells "ALL" t ∨ Spells "NONE" t) → tokens.length ≠ 1 →
        selected =
          .error ⟨raw, format.name, "ALL and NONE cannot be combined with other values."⟩) := by
  intro tokens selected listed
  have hselected : selected = ofTokens format raw tokens := rfl
  have hlisted : listed = ValueParser.parseElements (.ofFormat format) raw tokens := rfl
  refine ⟨fun hwords => ?_, ?_, ?_, ?_⟩
  · have htrim : ∀ t ∈ tokens, trim t = t := fun t ht => trim_of_mem_elements ht
    rw [hselected, hlisted, ofTokens_of_no_keyword hwords]
    rcases readChoices_and_parseElements format raw htrim with
      ⟨values, hall, hchoices, helements⟩ | ⟨token, reason, hrefused, hchoices, helements⟩
    · rw [hchoices, helements]
      refine ⟨fun others => ?_, Or.inl ⟨values, hall, rfl, rfl⟩⟩
      simp [Except.map]
    · rw [hchoices, helements]
      refine ⟨fun others => ?_, Or.inr ⟨token, reason, hrefused, rfl, rfl⟩⟩
      simp [Except.map]
  · rintro t hsingle hword
    rw [hselected, hsingle]
    exact ofTokens_all hword
  · rintro t hsingle hword
    rw [hselected, hsingle]
    exact ofTokens_none hword
  · intro hword hmore
    rw [hselected]
    exact ofTokens_clash hword hmore

/-- A keyword beside a token that is no tool is refused for the keyword. -/
example :
    (ValueParser.selection Vocabulary.tools.format).parse "none,?" =
      .error ⟨"none,?", Vocabulary.tools.format.name,
        "ALL and NONE cannot be combined with other values."⟩ := by rfl

end LayeredConfig
