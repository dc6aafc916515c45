import LayeredConfig.Value.Parser

/-!
# Lists are parsed piece by piece

A list is cut at its delimiters, its pieces are trimmed, the empty ones are dropped, and the rest
is handed to another parser until one piece is refused. None of these steps looks across a
delimiter. So the list of a text with a delimiter in it is the list of what stands before, followed
by the list of what stands after, and the first part that is refused decides how the whole is
refused; only the raw text that the failure quotes is that of the whole.

With what a text without a delimiter yields, this settles the parser on every text, whatever the
parser of the elements is. It may be one of lists again (`ValueParser.nested`).

* `ValueParser.parseElements_append`: elements are parsed part by part.
* `ValueParser.parseElements_quoting`: the raw text shows in the failure and nowhere else.
* `lists_are_parsed_piece_by_piece`: both laws, at every depth of lists.
-/

namespace LayeredConfig

open Text

/-- The same failure with another text as the one that is refused. -/
def ParseFailure.quoting (e : ParseFailure) (raw : String) : ParseFailure := { e with value := raw }

namespace ValueParser

variable {α : Type}

/-! ## Elements -/

theorem parseElements_append (inner : ValueParser α) (raw : String) (xs ys : List (List Char)) :
    parseElements inner raw (xs ++ ys) =
      (parseElements inner raw xs).bind fun values =>
        (parseElements inner raw ys).map (values ++ ·) := by
  induction xs with
  | nil =>
    rw [List.nil_append, parseElements]
    cases parseElements inner raw ys <;> rfl
  | cons element rest ih =>
    rw [List.cons_append, parseElements, parseElements]
    cases inner.parse (String.ofList element) with
    | error e => rfl
    | ok value =>
      simp only [ih]
      cases parseElements inner raw rest with
      | error e => rfl
      | ok values => cases parseElements inner raw ys <;> rfl

theorem parseElements_quoting (inner : ValueParser α) (raw other : String)
    (elements : List (List Char)) :
    parseElements inner other elements =
      (parseElements inner raw elements).mapError (·.quoting other) := by
  induction elements with
  | nil => rfl
  | cons element rest ih =>
    rw [parseElements, parseElements]
    cases inner.parse (String.ofList element) with
    | error e => rfl
    | ok value =>
      simp only [ih]
      cases parseElements inner raw rest <;> rfl

/-! ## Lists -/

/-- A list that is part of a longer text is refused in the name of that text. -/
theorem parseElements_eq_parse_list (inner : ValueParser α) (delimiter : Char) (raw s : String) :
    parseElements inner raw (elements delimiter s.toList) =
      ((inner.list delimiter).parse s).mapError (·.quoting raw) :=
  parseElements_quoting inner s raw _

theorem parse_list_append (inner : ValueParser α) (delimiter : Char) (a b : String) :
    (inner.list delimiter).parse (a ++ String.singleton delimiter ++ b) =
      (((inner.list delimiter).parse a).mapError
          (·.quoting (a ++ String.singleton delimiter ++ b))).bind fun xs =>
        (((inner.list delimiter).parse b).mapError
          (·.quoting (a ++ String.singleton delimiter ++ b))).map (xs ++ ·) := by
  have hwhole : (a ++ String.singleton delimiter ++ b).toList =
      a.toList ++ delimiter :: b.toList := by
    simp [String.toList_append]
  rw [← parseElements_eq_parse_list, ← parseElements_eq_parse_list, ← parseElements_append,
    ← elements_append, ← hwhole]
  rfl

theorem parse_list_append_eq_ok_iff {inner : ValueParser α} {delimiter : Char} {a b : String}
    {values : List α} :
    (inner.list delimiter).parse (a ++ String.singleton delimiter ++ b) = .ok values ↔
      ∃ xs ys, (inner.list delimiter).parse a = .ok xs ∧ (inner.list delimiter).parse b = .ok ys ∧
        values = xs ++ ys := by
  rw [parse_list_append]
  cases (inner.list delimiter).parse a with
  | error e =>
    refine ⟨nofun, ?_⟩
    rintro ⟨xs, ys, hxs, -, -⟩
    cases hxs
  | ok xs =>
    cases (inner.list delimiter).parse b with
    | error e =>
      refine ⟨nofun, ?_⟩
      rintro ⟨xs', ys, -, hys, -⟩
      cases hys
    | ok ys =>
      constructor
      · intro h
        cases h
        exact ⟨xs, ys, rfl, rfl, rfl⟩
      · rintro ⟨_, _, hxs, hys, rfl⟩
        cases hxs
        cases hys
        rfl

theorem parse_list_of_blank {inner : ValueParser α} {delimiter : Char} {s : String}
    (hdelimiter : delimiter ∉ s.toList) (hblank : s.toList.all isBlank = true) :
    (inner.list delimiter).parse s = .ok [] := by
  simp only [list]
  rw [elements_of_not_mem hdelimiter, if_pos (trim_eq_nil_iff.mpr hblank)]
  rfl

theorem parse_list_of_single (inner : ValueParser α) {delimiter : Char} {s : String}
    (hdelimiter : delimiter ∉ s.toList) (hblank : ¬ s.toList.all isBlank = true) :
    (inner.list delimiter).parse s = match inner.parse (trimmed s) with
      | .ok value => .ok [value]
      | .error cause => .error ⟨s, "List<" ++ cause.typeName ++ ">",
          "Element '" ++ trimmed s ++ "' is invalid: " ++ cause.reason⟩ := by
  have hne : ¬ trim s.toList = [] := fun h => hblank (trim_eq_nil_iff.mp h)
  have helement : String.ofList (trim s.toList) = trimmed s := rfl
  simp only [list]
  rw [elements_of_not_mem hdelimiter, if_neg hne, parseElements, helement]
  cases inner.parse (trimmed s) <;> rfl

/-! ## Lists of lists -/

/-- Lists of lists of values, one level for each delimiter. -/
def Nested (α : Type) : List Char → Type
  | [] => α
  | _ :: delimiters => List (Nested α delimiters)

/-- The parser of lists of lists, the outermost delimiter first. -/
def nested (inner : ValueParser α) : (delimiters : List Char) → ValueParser (Nested α delimiters)
  | [] => inner
  | delimiter :: delimiters => (nested inner delimiters).list delimiter

end ValueParser

open ValueParser in
/-- **Lists are parsed piece by piece, at every depth.** A text with a delimiter in it is a list if
what stands before and what stands after are lists, and then the two follow each other; otherwise
the first of them that is refused gives the type and the reason, and the whole text is quoted. A
text without a delimiter has no element if it is blank. Otherwise it has one, the trimmed text, and
the parser of the elements decides. -/
theorem lists_are_parsed_piece_by_piece {α : Type} (inner : ValueParser α) (below : List Char)
    (delimiter : Char) :
    let element := inner.nested below
    let parser := element.list delimiter
    (∀ a b : String,
        let whole := a ++ String.singleton delimiter ++ b
        (∀ values, parser.parse whole = .ok values ↔
            ∃ xs ys, parser.parse a = .ok xs ∧ parser.parse b = .ok ys ∧ values = xs ++ ys) ∧
          (∀ e, parser.parse a = .error e →
            parser.parse whole = .error ⟨whole, e.typeName, e.reason⟩) ∧
          ∀ xs e, parser.parse a = .ok xs → parser.parse b = .error e →
            parser.parse whole = .error ⟨whole, e.typeName, e.reason⟩) ∧
      ∀ s : String, delimiter ∉ s.toList →
        (s.toList.all isBlank = true → parser.parse s = .ok []) ∧
          (¬ s.toList.all isBlank = true →
            (∀ value, element.parse (trimmed s) = .ok value →
                parser.parse s = .ok [value]) ∧
              ∀ cause, element.parse (trimmed s) = .error cause →
                parser.parse s = .error ⟨s, "List<" ++ cause.typeName ++ ">",
                  "Element '" ++ trimmed s ++ "' is invalid: " ++ cause.reason⟩) := by
  intro element parser
  refine ⟨fun a b => ?_, fun s hdelimiter => ⟨?_, ?_⟩⟩
  · intro whole
    have hwhole : parser.parse whole = ((parser.parse a).mapError (·.quoting whole)).bind fun xs =>
        ((parser.parse b).mapError (·.quoting whole)).map (xs ++ ·) :=
      parse_list_append element delimiter a b
    refine ⟨fun values => parse_list_append_eq_ok_iff, fun e herror => ?_, fun xs e hxs herror => ?_⟩
    · rw [hwhole, herror]
      rfl
    · rw [hwhole, hxs, herror]
      rfl
  · exact parse_list_of_blank hdelimiter
  · intro hblank
    have hsingle := parse_list_of_single element hdelimiter hblank
    refine ⟨fun value hvalue => ?_, fun cause hcause => ?_⟩
    · rw [hvalue] at hsingle
      exact hsingle
    · rw [hcause] at hsingle
      exact hsingle

/-- Rows of truth values. The second row is refused, and the two together are for its reason. -/
theorem two_rows_are_refused_for_the_second :
    let rows := (ValueParser.boolean.nested [';']).list ','
    let reason := "Element 'off;maybe' is invalid: Element 'maybe' is invalid: " ++
      "Expected one of true, false, yes, no, on, off, 1, 0."
    rows.parse "yes;no" = .ok [[true, false]] ∧
      rows.parse "off;maybe" = .error ⟨"off;maybe", "List<List<Boolean>>", reason⟩ ∧
      rows.parse "yes;no,off;maybe" =
        .error ⟨"yes;no,off;maybe", "List<List<Boolean>>", reason⟩ := by
  intro rows reason
  have hlaws := lists_are_parsed_piece_by_piece ValueParser.boolean [';'] ','
  obtain ⟨hfirst, -⟩ := (hlaws.2 "yes;no" (by decide)).2 (by decide)
  obtain ⟨-, hsecond⟩ := (hlaws.2 "off;maybe" (by decide)).2 (by decide)
  have hone : rows.parse "yes;no" = .ok [[true, false]] := hfirst [true, false] rfl
  have hother : rows.parse "off;maybe" = .error ⟨"off;maybe", "List<List<Boolean>>", reason⟩ :=
    hsecond ⟨"off;maybe", "List<Boolean>", "Element 'maybe' is invalid: " ++
      "Expected one of true, false, yes, no, on, off, 1, 0."⟩ rfl
  exact ⟨hone, hother, (hlaws.1 "yes;no" "off;maybe").2.2 _ _ hone hother⟩

end LayeredConfig
