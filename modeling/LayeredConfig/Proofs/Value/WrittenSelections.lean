import LayeredConfig.Property
import LayeredConfig.Proofs.Value.SelectionGrammar

/-!
# Written selections are read back

A selection is written with commas between its choices, and nothing marks where a choice begins and
where it ends. Its text is read by cutting at every comma, trimming, dropping the empty pieces and
looking for keywords first. So the text of a choice must have nothing in it that this takes for
something else (`Format.WritesChoice`). Then the text of a list of choices is cut where it was put
together (`ValueParser.elements_join`), also if the list is empty and its text with it, and each
choice is read back by its format.

Texts that are choices of themselves need no such assumption where a parser has read them: what is
cut, trimmed and found to be no keyword once is a choice that can be written again.

* `ValueParser.elements_join`: the elements of joined texts are the texts.
* `Selection.parse_write`: a selection whose choices can be written is read back.
* `Selection.writesChoice_of_mem_elements`: the tokens of any text can be written as choices.
* `written_selections_are_read_back`: selections, defaults, advertised values, and texts.
-/

namespace LayeredConfig

open Text

/-! ## Elements -/

namespace ValueParser

theorem elements_join {delimiter : Char} {texts : List String}
    (h : ∀ t ∈ texts, delimiter ∉ t.toList ∧ trim t.toList = t.toList ∧ t.toList ≠ []) :
    elements delimiter (join (String.singleton delimiter) texts).toList =
      texts.map String.toList := by
  by_cases hne : texts = []
  · rw [hne]
    rfl
  · have htrim : ((texts.map String.toList).map trim) = texts.map String.toList := by
      rw [List.map_map]
      exact List.map_congr_left fun t ht => (h t ht).2.1
    rw [elements, pieces_join hne fun t ht => (h t ht).1, htrim, List.filter_eq_self]
    intro s hs
    obtain ⟨t, ht, rfl⟩ := List.mem_map.mp hs
    exact decide_eq_true (h t ht).2.2

theorem not_mem_of_mem_elements {delimiter : Char} {s token : List Char}
    (h : token ∈ elements delimiter s) : delimiter ∉ token := by
  obtain ⟨piece, hpiece, rfl⟩ := List.mem_map.mp (List.mem_of_mem_filter h)
  obtain ⟨front, back, hdecompose, -, -⟩ := trim_decompose piece
  intro hmem
  refine not_mem_of_mem_pieces hpiece ?_
  rw [hdecompose]
  exact List.mem_append_left _ (List.mem_append_right _ hmem)

end ValueParser

/-! ## Choices -/

/-- The text of a value can stand among the choices of a selection: it is not empty, has no white
space at its ends and no comma in it, is not a keyword, and is read back to the value. -/
structure Format.WritesChoice {α : Type} (format : Format α) (value : α) : Prop where
  not_empty : format.write value ≠ ""
  starts : ∀ c ∈ (format.write value).toList.head?, isBlank c = false
  ends : ∀ c ∈ (format.write value).toList.getLast?, isBlank c = false
  no_comma : ',' ∉ (format.write value).toList
  no_keyword : ¬ (Selection.Spells "ALL" (format.write value).toList ∨
    Selection.Spells "NONE" (format.write value).toList)
  read_write : format.read (format.write value).toList = .ok value

namespace Selection

variable {α : Type} {format : Format α} {raw : String} {tokens : List (List Char)}
  {values : List α}

theorem elements_write (h : ∀ value ∈ values, format.WritesChoice value) :
    ValueParser.elements ',' (write format.write (only values)).toList =
      values.map fun value => (format.write value).toList := by
  have htexts : ∀ t ∈ values.map format.write,
      ',' ∉ t.toList ∧ trim t.toList = t.toList ∧ t.toList ≠ [] := by
    intro t ht
    obtain ⟨value, hvalue, rfl⟩ := List.mem_map.mp ht
    have hwrites := h value hvalue
    refine ⟨hwrites.no_comma, trim_eq_self hwrites.starts hwrites.ends, fun hnil => ?_⟩
    exact hwrites.not_empty (String.toList_inj.mp hnil)
  have hjoin := ValueParser.elements_join htexts
  rw [List.map_map] at hjoin
  exact hjoin

theorem readChoices_write (h : ∀ value ∈ values, format.WritesChoice value) :
    readChoices format raw (values.map fun value => (format.write value).toList) = .ok values := by
  induction values with
  | nil => rfl
  | cons value rest ih =>
    obtain ⟨hvalue, hrest⟩ := List.forall_mem_cons.mp h
    rw [List.map_cons, readChoices, hvalue.read_write]
    simp only [ih hrest]
    rfl

theorem parse_selection (h : ValueParser.elements ',' raw.toList = tokens) :
    (ValueParser.selection format).parse raw = ofTokens format raw tokens := by
  rw [← h]
  rfl

theorem parse_write (selection : Selection α)
    (h : ∀ values, selection = only values → ∀ value ∈ values, format.WritesChoice value) :
    (ValueParser.selection format).parse (selection.write format.write) = .ok selection := by
  cases selection with
  | all =>
    have htokens : ValueParser.elements ',' allKeyword.toList = ["ALL".toList] := by decide
    exact (parse_selection htokens).trans (ofTokens_all rfl)
  | none =>
    have htokens : ValueParser.elements ',' noneKeyword.toList = ["NONE".toList] := by decide
    exact (parse_selection htokens).trans (ofTokens_none rfl)
  | only values =>
    have hvalues := h values rfl
    have hwords : ∀ t ∈ values.map fun value => (format.write value).toList,
        ¬ (Spells "ALL" t ∨ Spells "NONE" t) := by
      intro t ht
      obtain ⟨value, hvalue, rfl⟩ := List.mem_map.mp ht
      exact (hvalues value hvalue).no_keyword
    rw [parse_selection (elements_write hvalues), ofTokens_of_no_keyword hwords,
      readChoices_write hvalues]
    rfl

/-! ## Texts that were read -/

theorem ofTokens_eq_only (h : ofTokens format raw tokens = .ok (only values)) :
    (∀ t ∈ tokens, ¬ (Spells "ALL" t ∨ Spells "NONE" t)) ∧
      readChoices format raw tokens = .ok values := by
  by_cases hword : ∃ t ∈ tokens, Spells "ALL" t ∨ Spells "NONE" t
  · unfold ofTokens at h
    rw [if_pos (any_isKeyword_iff.mpr hword)] at h
    split at h
    · split at h <;> cases Except.ok.inj h
    · cases h
  · have hwords : ∀ t ∈ tokens, ¬ (Spells "ALL" t ∨ Spells "NONE" t) :=
      fun t ht hspells => hword ⟨t, ht, hspells⟩
    refine ⟨hwords, ?_⟩
    rw [ofTokens_of_no_keyword hwords] at h
    cases hchoices : readChoices format raw tokens with
    | error e =>
      rw [hchoices] at h
      cases h
    | ok others =>
      rw [hchoices] at h
      cases h
      rfl

theorem readChoices_text (raw : String) (tokens : List (List Char)) :
    readChoices Format.text raw tokens = .ok (tokens.map String.ofList) := by
  induction tokens with
  | nil => rfl
  | cons token rest ih =>
    rw [readChoices, ih]
    rfl

theorem writesChoice_of_mem_elements {s token : List Char}
    (h : token ∈ ValueParser.elements ',' s) (hword : ¬ (Spells "ALL" token ∨ Spells "NONE" token)) :
    Format.text.WritesChoice (String.ofList token) := by
  have htoken : (Format.text.write (String.ofList token)).toList = token := String.toList_ofList
  have htrim := trim_of_mem_elements h
  constructor
  · intro hempty
    have hne : token ≠ [] := by simpa using List.of_mem_filter h
    exact hne (htoken.symm.trans (congrArg String.toList hempty))
  · intro c hc
    rw [htoken, ← htrim] at hc
    exact head?_trim_not_blank hc
  · intro c hc
    rw [htoken, ← htrim] at hc
    exact getLast?_trim_not_blank hc
  · rw [htoken]
    exact ValueParser.not_mem_of_mem_elements h
  · rw [htoken]
    exact hword
  · rw [htoken]
    rfl

theorem writesChoice_of_parse {values : List String}
    (h : (ValueParser.selection Format.text).parse raw = .ok (only values)) :
    ∀ value ∈ values, Format.text.WritesChoice value := by
  obtain ⟨hwords, hchoices⟩ := ofTokens_eq_only h
  rw [readChoices_text] at hchoices
  cases hchoices
  intro value hvalue
  obtain ⟨token, htoken, rfl⟩ := List.mem_map.mp hvalue
  exact writesChoice_of_mem_elements htoken (hwords token htoken)

end Selection

/-- The advertised values of a selection are its choices, each alone, and then the keywords. -/
theorem Property.parse_exampleValues {α : Type} {format : Format α} {choices : List α}
    (h : ∀ choice ∈ choices, format.WritesChoice choice) (key : String) (default : Selection α) :
    (Property.selection key format default choices).metadata.exampleValues.map
        (ValueParser.selection format).parse =
      choices.map (fun choice => .ok (.only [choice])) ++ [.ok .all, .ok .none] := by
  have hchoice : ∀ choice ∈ choices,
      (ValueParser.selection format).parse (format.write choice) = .ok (.only [choice]) := by
    intro choice hmem
    have hwrite : (Selection.only [choice]).write format.write = format.write choice :=
      String.intercalate_singleton (s := ",")
    rw [← hwrite]
    refine Selection.parse_write _ fun values hvalues => ?_
    cases hvalues
    exact List.forall_mem_singleton.mpr (h choice hmem)
  have hkeywords : [Selection.allKeyword, Selection.noneKeyword].map
      (ValueParser.selection format).parse = [.ok .all, .ok .none] := by
    have hall : (ValueParser.selection format).parse Selection.allKeyword = .ok .all :=
      Selection.parse_write .all nofun
    have hnone : (ValueParser.selection format).parse Selection.noneKeyword = .ok .none :=
      Selection.parse_write .none nofun
    rw [List.map_cons, List.map_singleton, hall, hnone]
  show (choices.map format.write ++ [Selection.allKeyword, Selection.noneKeyword]).map _ = _
  rw [List.map_append, List.map_map, hkeywords]
  exact congrArg (· ++ _) (List.map_congr_left hchoice)

/-- **Written selections are read back.** A selection whose explicit choices can be written is read
back from its text, and so is the default of a property from its description. Every value that a
property advertises is read as the choice that it stands for, alone, or as its keyword. And whatever
was read as a selection of texts is read again from its own text. -/
theorem written_selections_are_read_back :
    (∀ {α : Type} (format : Format α) (selection : Selection α),
        (∀ values, selection = .only values → ∀ value ∈ values, format.WritesChoice value) →
        (ValueParser.selection format).parse (selection.write format.write) = .ok selection ∧
          ∀ key choices,
            let p := Property.selection key format selection choices
            ∃ text, p.describeDefault (Selection.write format.write) = some text ∧
              p.parser.parse text = .ok selection) ∧
      (∀ {α : Type} (format : Format α) (key : String) (default : Selection α) (choices : List α),
        (∀ choice ∈ choices, format.WritesChoice choice) →
        let p := Property.selection key format default choices
        p.metadata.exampleValues.map p.parser.parse =
          choices.map (fun choice => .ok (.only [choice])) ++ [.ok .all, .ok .none]) ∧
      ∀ raw selection, (ValueParser.selection Format.text).parse raw = .ok selection →
        (ValueParser.selection Format.text).parse (selection.write Format.text.write) =
          .ok selection := by
  refine ⟨fun format selection h => ?_, fun format key default choices h => ?_,
    fun raw selection hraw => ?_⟩
  · have hparse := Selection.parse_write selection h
    exact ⟨hparse, fun key choices => ⟨_, rfl, hparse⟩⟩
  · exact Property.parse_exampleValues h key default
  · refine Selection.parse_write selection fun values hvalues => ?_
    subst hvalues
    exact Selection.writesChoice_of_parse hraw

theorem tools_writeChoices :
    ∀ word ∈ ["SIGNATURE", "BINARY", "DOCKER"], Vocabulary.tools.format.WritesChoice word := by
  intro word hword
  simp only [List.mem_cons, List.not_mem_nil, or_false] at hword
  rcases hword with rfl | rfl | rfl <;> exact
    { not_empty := by decide
      starts := by
        rintro c ⟨⟩
        decide
      ends := by
        rintro c ⟨⟩
        decide
      no_comma := by decide
      no_keyword := by decide
      read_write := by rfl }

theorem selected_tools_are_read_back :
    let format := Vocabulary.tools.format
    let p := Property.selection "scan.tools" format (.only ["DOCKER", "BINARY"])
      ["SIGNATURE", "BINARY", "DOCKER"]
    p.describeDefault (Selection.write format.write) = some "DOCKER,BINARY" ∧
      p.parser.parse "DOCKER,BINARY" = .ok (.only ["DOCKER", "BINARY"]) ∧
      p.metadata.exampleValues.map p.parser.parse =
        [.ok (.only ["SIGNATURE"]), .ok (.only ["BINARY"]), .ok (.only ["DOCKER"]), .ok .all,
          .ok .none] ∧
      (ValueParser.selection .text).parse " two words ,,all-in " =
        .ok (.only ["two words", "all-in"]) ∧
      (ValueParser.selection .text).parse "two words,all-in" =
        .ok (.only ["two words", "all-in"]) := by
  intro format p
  obtain ⟨hselections, hadvertised, htexts⟩ := written_selections_are_read_back
  have hdefault : ∀ values, Selection.only ["DOCKER", "BINARY"] = .only values →
      ∀ value ∈ values, format.WritesChoice value := by
    intro values hvalues value hvalue
    cases hvalues
    exact tools_writeChoices value (by revert value; decide)
  have hread : (ValueParser.selection .text).parse " two words ,,all-in " =
      .ok (.only ["two words", "all-in"]) := by rfl
  exact ⟨by decide, (hselections format _ hdefault).1,
    hadvertised format _ _ _ tools_writeChoices, hread, htexts _ _ hread⟩

end LayeredConfig
