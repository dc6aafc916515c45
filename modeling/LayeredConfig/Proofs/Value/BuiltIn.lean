import LayeredConfig.Proofs.Stack.Validation
import LayeredConfig.Source.Table
import LayeredConfig.Value.Selection

/-!
# Failures of built-in parsers

A failure quotes the raw text and names a type. The built-in parsers do not read the raw text as it
stands: they trim it or cut it into pieces, and a parser of lists hands the trimmed pieces to
another parser, which may be one of lists again. Each of them has to put the text that it was given
itself into the failure, and the name of the type grows with the failure while `describeType` grows
with the parser.

* `ValueParser.BuiltIn`: the built-in parsers, and lists of them to any depth.
* `ValueParser.Faithful`: failures quote the raw text in full and name the type described.
* `ValueParser.parseElements_eq_error`, `Selection.readChoices_eq_error`: a failure of several
  pieces is made from that of one piece.
* `ValueParser.faithful_of_builtIn`: by induction on the parser.
* `built_in_failures_are_faithful`: so a refused property is reported with its raw value.
-/

namespace LayeredConfig

open Text

/-! ## One piece and several -/

/-- A list is refused for one of its elements, whose reason it tells. -/
theorem ValueParser.parseElements_eq_error {α : Type} {inner : ValueParser α} {raw : String}
    {elements : List (List Char)} {e : ParseFailure}
    (h : parseElements inner raw elements = .error e) :
    ∃ element ∈ elements, ∃ cause, inner.parse (String.ofList element) = .error cause ∧
      e = ⟨raw, listTypeName cause.typeName,
        "Element '" ++ String.ofList element ++ "' is invalid: " ++ cause.reason⟩ := by
  induction elements with
  | nil => cases h
  | cons element rest ih =>
    rw [parseElements] at h
    split at h
    · rename_i cause hcause
      cases h
      exact ⟨element, List.mem_cons_self, cause, hcause, rfl⟩
    · cases hrest : parseElements inner raw rest with
      | ok values =>
        rw [hrest] at h
        cases h
      | error e' =>
        rw [hrest] at h
        cases h
        obtain ⟨other, hother, cause, hcause, rfl⟩ := ih hrest
        exact ⟨other, List.mem_cons_of_mem _ hother, cause, hcause, rfl⟩

namespace Selection

variable {α : Type} {format : Format α} {raw : String} {tokens : List (List Char)}
  {e : ParseFailure}

theorem readChoices_eq_error (h : readChoices format raw tokens = .error e) :
    ∃ token ∈ tokens, ∃ reason, format.read token = .error reason ∧
      e = ⟨raw, format.name, "Unknown value '" ++ String.ofList token ++ "': " ++ reason⟩ := by
  induction tokens with
  | nil => cases h
  | cons token rest ih =>
    rw [readChoices] at h
    split at h
    · rename_i reason hreason
      cases h
      exact ⟨token, List.mem_cons_self, reason, hreason, rfl⟩
    · cases hrest : readChoices format raw rest with
      | ok values =>
        rw [hrest] at h
        cases h
      | error e' =>
        rw [hrest] at h
        cases h
        obtain ⟨other, hother, reason, hreason, rfl⟩ := ih hrest
        exact ⟨other, List.mem_cons_of_mem _ hother, reason, hreason, rfl⟩

/-- Clashing keywords and unknown choices are refused under one name and with one text. -/
theorem ofTokens_eq_error (h : ofTokens format raw tokens = .error e) :
    e.value = raw ∧ e.typeName = format.name := by
  unfold ofTokens at h
  split at h
  · split at h
    · cases h
    · cases h
      exact ⟨rfl, rfl⟩
  · cases hchoices : readChoices format raw tokens with
    | ok values =>
      rw [hchoices] at h
      cases h
    | error e' =>
      rw [hchoices] at h
      cases h
      obtain ⟨-, -, -, -, rfl⟩ := readChoices_eq_error hchoices
      exact ⟨rfl, rfl⟩

end Selection

/-! ## Built-in parsers -/

namespace ValueParser

variable {α : Type}

/-- The parsers of single values and selections, and those of lists of what a built-in parser
reads. -/
inductive BuiltIn : {α : Type} → ValueParser α → Prop
  | string : BuiltIn string
  | boolean : BuiltIn boolean
  | path : BuiltIn path
  | ofFormat {α : Type} (format : Format α) : BuiltIn (ofFormat format)
  | selection {α : Type} (format : Format α) : BuiltIn (selection format)
  | list {α : Type} {inner : ValueParser α} (h : BuiltIn inner) (delimiter : Char) :
    BuiltIn (inner.list delimiter)

/-- Failures quote the raw text as it was given and name the type that the parser describes. -/
def Faithful (parser : ValueParser α) : Prop :=
  ∀ raw e, parser.parse raw = .error e → e.value = raw ∧ parser.describeType = some e.typeName

theorem faithful_boolean : boolean.Faithful := by
  intro raw e h
  simp only [boolean] at h
  split at h
  · cases h
  · split at h
    · cases h
    · cases h
      exact ⟨rfl, rfl⟩

theorem faithful_path : path.Faithful := by
  intro raw e h
  simp only [path] at h
  split at h
  · cases h
    exact ⟨rfl, rfl⟩
  · cases h

theorem faithful_ofFormat (format : Format α) : (ofFormat format).Faithful := by
  intro raw e h
  simp only [ofFormat] at h
  split at h
  · cases h
  · cases h
    exact ⟨rfl, rfl⟩

theorem faithful_selection (format : Format α) : (selection format).Faithful := by
  intro raw e h
  obtain ⟨hvalue, htype⟩ := Selection.ofTokens_eq_error h
  exact ⟨hvalue, congrArg some htype.symm⟩

/-- What the inner parser quotes is a trimmed piece, so only the name of its type is passed on. -/
theorem Faithful.list {inner : ValueParser α} (h : inner.Faithful) (delimiter : Char) :
    (inner.list delimiter).Faithful := by
  intro raw e herror
  obtain ⟨element, -, cause, hcause, rfl⟩ := parseElements_eq_error herror
  obtain ⟨-, htype⟩ := h _ cause hcause
  exact ⟨rfl, congrArg (Option.map listTypeName) htype⟩

theorem faithful_of_builtIn {parser : ValueParser α} (h : parser.BuiltIn) : parser.Faithful := by
  induction h with
  | string =>
    intro raw e h
    cases h
  | boolean => exact faithful_boolean
  | path => exact faithful_path
  | ofFormat format => exact faithful_ofFormat format
  | selection format => exact faithful_selection format
  | list _ delimiter ih => exact ih.list delimiter

end ValueParser

/-! ## Refused properties -/

namespace Stack

variable {stack : Stack} {p : SomeProperty} {err : InvalidProperty}

theorem strictError_of_faithful (hp : p.property.parser.Faithful)
    (h : stack.strictError p = some err) :
    (stack.rawValue p.property.key).result = some err.rawValue ∧
      p.property.describeType = some err.failure.typeName := by
  rw [strictError_eq_refusal] at h
  obtain ⟨-, w, hw, -, raw, hvalue, hparse⟩ := refusal_eq_some_iff.mp h
  obtain ⟨hraw, htype⟩ := hp raw err.failure hparse
  refine ⟨?_, htype⟩
  rw [rawValue_of_winner hw, hvalue, ← hraw]
  rfl

theorem failures_report_append (stack : Stack) (before : List SomeProperty) (p : SomeProperty)
    (after : List SomeProperty) :
    (stack.report (before ++ p :: after)).failures =
      (stack.report before).failures ++ (stack.strictError p).toList ++
        (stack.report after).failures := by
  simp only [report_eq, List.filterMap_append, List.filterMap_cons]
  cases stack.strictError p <;> simp

end Stack

/-- **Failures of built-in parsers are faithful at any depth.** They quote the whole raw text and
name the type that the parser describes. So for a property with such a parser the error of strict
access, and what the property contributes to a report wherever it stands in the list, carries the
raw value of the property. -/
theorem built_in_failures_are_faithful :
    (∀ {α : Type} (parser : ValueParser α), parser.BuiltIn → ∀ raw e,
        parser.parse raw = .error e → e.value = raw ∧ parser.describeType = some e.typeName) ∧
      ∀ (stack : Stack) (p : SomeProperty), p.property.parser.BuiltIn →
        (∀ err, (stack.get p.property).result = .error err →
          (stack.rawValue p.property.key).result = some err.rawValue ∧
            p.property.describeType = some err.failure.typeName) ∧
          ∀ before after, ∃ own : Option InvalidProperty,
            (stack.report (before ++ p :: after)).failures =
                (stack.report before).failures ++ own.toList ++ (stack.report after).failures ∧
              (∀ err, own = some err ↔ (stack.get p.property).result = .error err) ∧
              ∀ err, own = some err →
                (stack.rawValue p.property.key).result = some err.rawValue := by
  refine ⟨fun parser h => ValueParser.faithful_of_builtIn h, fun stack p h => ?_⟩
  have hp := ValueParser.faithful_of_builtIn h
  refine ⟨fun err herr => ?_, fun before after => ?_⟩
  · exact Stack.strictError_of_faithful hp (Stack.strictError_eq_some_iff.mpr herr)
  · refine ⟨stack.strictError p, stack.failures_report_append before p after, ?_, ?_⟩
    · exact fun err => Stack.strictError_eq_some_iff
    · exact fun err herr => (Stack.strictError_of_faithful hp herr).1

/-- Rows of truth values. -/
def truthRows : ValueParser (List (List Bool)) := (ValueParser.boolean.list ';').list ','

/-- Two rows, the second with a word that is no truth value. -/
def doubtfulRows : String := "yes;no , maybe;off "

theorem truthRows_refuse_doubtfulRows :
    truthRows.BuiltIn ∧ ∃ e, truthRows.parse doubtfulRows = .error e ∧ e.value = doubtfulRows ∧
      truthRows.describeType = some e.typeName ∧
      ∃ err,
        (Stack.get [(Table.ofList "table" [("switches", doubtfulRows)]).source]
          (Property.nullable "switches" truthRows)).result = .error err ∧
        (Stack.rawValue [(Table.ofList "table" [("switches", doubtfulRows)]).source]
          "switches").result = some err.rawValue := by
  have hrows : truthRows.BuiltIn := .list (.list .boolean ';') ','
  let e : ParseFailure := ⟨doubtfulRows, "List<List<Boolean>>",
    "Element 'maybe;off' is invalid: Element 'maybe' is invalid: " ++
      "Expected one of true, false, yes, no, on, off, 1, 0."⟩
  have hparse : truthRows.parse doubtfulRows = .error e := by rfl
  have hget : (Stack.get [(Table.ofList "table" [("switches", doubtfulRows)]).source]
      (Property.nullable "switches" truthRows)).result = .error ⟨"switches", "table", e⟩ := by rfl
  obtain ⟨hvalue, htype⟩ := built_in_failures_are_faithful.1 truthRows hrows _ e hparse
  have hraw := (built_in_failures_are_faithful.2 _ ⟨Property.nullable "switches" truthRows⟩
    hrows).1 _ hget
  exact ⟨hrows, e, hparse, hvalue, htype, _, hget, hraw.1⟩

end LayeredConfig
