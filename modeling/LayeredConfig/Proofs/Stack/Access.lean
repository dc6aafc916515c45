import LayeredConfig.Proofs.Stack.Refusal

/-!
# Strict access, lenient access and the bare failure agree

Three queries read a typed property. Each of them has its own branches for a key that no source
has, a winner without a value, an accepted value and a refused one; `AccessAgreement` says how the
answers fit together over all of these. The outcome without a value is `none` for a nullable
property and the default for a valued one (`strict_and_lenient_access_agree`).
-/

namespace LayeredConfig.Stack

variable {α β : Type}

/-- How the three queries for a property agree. The outcome without a value is `missing`, and the
outcome with a parsed value is `present` of it. -/
structure AccessAgreement (stack : Stack) (p : Property α β) (missing : β) (present : α → β) :
    Prop where
  /-- Strict access fails exactly when there is a bare failure. -/
  error_iff_failure :
    (∃ err, (stack.get p).result = .error err) ↔ ∃ e, (stack.failure p).result = some e
  /-- There is one exactly when the first source that has the key supplies a value and the parser
  refuses that value. -/
  failure_iff_refused : ∀ e, (stack.failure p).result = some e ↔
    ∃ w, stack.find? (·.hasKey p.key) = some w ∧
      ∃ raw, w.value p.key = some raw ∧ p.parser.parse raw = .error e
  /-- The error of strict access names the key and the source and carries the bare failure; lenient
  access then answers as if there were no value. -/
  of_error : ∀ err, (stack.get p).result = .error err →
    err.key = p.key ∧ (stack.sourceName p.key).result = some err.sourceName ∧
      (stack.failure p).result = some err.failure ∧ (stack.getLenient p).result = missing
  /-- Without a bare failure strict and lenient access give one outcome, which is that of the raw
  value. -/
  of_no_failure : (stack.failure p).result = none →
    (stack.get p).result = .ok (stack.getLenient p).result ∧
      match (stack.rawValue p.key).result with
      | none => (stack.getLenient p).result = missing
      | some raw => ∃ value, p.parser.parse raw = .ok value ∧
          (stack.getLenient p).result = present value

/-! ## The bare failure and the refusal -/

theorem failure_eq_some_iff {stack : Stack} {p : Property α β} {e : ParseFailure} :
    (stack.failure p).result = some e ↔
      ∃ w, stack.winner p.key = some w ∧
        ∃ raw, w.value p.key = some raw ∧ p.parser.parse raw = .error e := by
  rw [result_failure_eq, Option.map_eq_some_iff]
  constructor
  · rintro ⟨err, herr, rfl⟩
    obtain ⟨-, w, hw, -, raw, hv, hp⟩ := refusal_eq_some_iff.mp herr
    exact ⟨w, hw, raw, hv, hp⟩
  · rintro ⟨w, hw, raw, hv, hp⟩
    exact ⟨⟨p.key, w.name, e⟩, refusal_eq_some hw hv hp, rfl⟩

theorem failure_eq_none_iff {stack : Stack} {p : Property α β} :
    (stack.failure p).result = none ↔ stack.refusal p.key p.parser.parse = none := by
  rw [result_failure_eq, Option.map_eq_none_iff]

/-- A refused value counts as missing. -/
theorem getLenient_of_refusal {stack : Stack} {p : Property α β} {err : InvalidProperty}
    (h : stack.refusal p.key p.parser.parse = some err) :
    (stack.getLenient p).result = p.whenMissing := by
  obtain ⟨-, w, hw, -, raw, hv, hp⟩ := refusal_eq_some_iff.mp h
  rw [result_getLenient_eq, rawValue_of_winner hw, hv, Option.bind_some, hp]
  rfl

/-- A raw value that is not refused parses, and lenient access gives what it parses to. -/
theorem getLenient_of_rawValue {stack : Stack} {p : Property α β} {raw : String}
    (h : stack.refusal p.key p.parser.parse = none)
    (hraw : (stack.rawValue p.key).result = some raw) :
    ∃ value, p.parser.parse raw = .ok value ∧
      (stack.getLenient p).result = p.whenPresent value := by
  have hsupplied := hraw
  rw [result_rawValue] at hsupplied
  obtain ⟨w, hw, hv⟩ := Option.bind_eq_some_iff.mp hsupplied
  cases hp : p.parser.parse raw with
  | error e =>
    rw [refusal_eq_some hw hv hp] at h
    cases h
  | ok value =>
    refine ⟨value, rfl, ?_⟩
    rw [result_getLenient_eq, hraw, Option.bind_some, hp]
    rfl

/-! ## Agreement -/

theorem accessAgreement (stack : Stack) (p : Property α β) :
    stack.AccessAgreement p p.whenMissing p.whenPresent where
  error_iff_failure := by
    simp only [get_eq_error_iff, result_failure_eq, Option.map_eq_some_iff]
    constructor
    · rintro ⟨err, h⟩
      exact ⟨err.failure, err, h, rfl⟩
    · rintro ⟨_, err, h, _⟩
      exact ⟨err, h⟩
  failure_iff_refused e := failure_eq_some_iff
  of_error err h := by
    have hr := get_eq_error_iff.mp h
    obtain ⟨hkey, w, hw, hname, raw, hv, hp⟩ := refusal_eq_some_iff.mp hr
    refine ⟨hkey, ?_, failure_eq_some_iff.mpr ⟨w, hw, raw, hv, hp⟩, getLenient_of_refusal hr⟩
    rw [result_sourceName, hw, Option.map_some, hname]
  of_no_failure h := by
    have hr := failure_eq_none_iff.mp h
    refine ⟨by rw [result_get_eq, hr], ?_⟩
    split
    · rename_i hraw
      rw [result_getLenient_eq, hraw]
      rfl
    · rename_i raw hraw
      exact getLenient_of_rawValue hr hraw

/-- **Strict and lenient access agree.** For a nullable property the outcome without a value is
`none`, and for a valued one it is the default; apart from that the two kinds are read alike. -/
theorem strict_and_lenient_access_agree (stack : Stack) (key : String) (parser : ValueParser α)
    (m : Metadata) :
    stack.AccessAgreement (⟨key, parser, .missing, m⟩ : Nullable α) none some ∧
      ∀ default : α, stack.AccessAgreement (⟨key, parser, .default default, m⟩ : Valued α)
        default id :=
  ⟨accessAgreement stack _, fun _ => accessAgreement stack _⟩

end LayeredConfig.Stack
