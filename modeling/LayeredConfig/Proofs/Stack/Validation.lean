import LayeredConfig.Proofs.Stack.Refusal
import LayeredConfig.Stack.Validation

/-!
# Validation is strict access to every property

Validation resolves and parses in a loop of its own, and it sees the properties without their
types. Its report is nevertheless made of the strict look-ups of the same properties.

* `result_checkOne`: one check adds one to the count, and the refusal of the value if there is
  one; this is what the loop preserves.
* `result_validate`: the report of a whole run, by induction on the requirements.
* `validate_eq_strict_access`: count, failures, verdict and conversion of the report, and the
  report of two lists one after the other, in terms of strict access.
-/

namespace LayeredConfig

/-! ## The loop -/

namespace Report

/-- Records what comes of one look-up. -/
def record (r : Report) : Option InvalidProperty → Report
  | none => r.recordChecked
  | some failure => r.recordFailure failure

theorem record_eq (r : Report) (found : Option InvalidProperty) :
    r.record found = ⟨r.checked + 1, r.failures ++ found.toList⟩ := by
  cases found with
  | none => simp [record, recordChecked]
  | some failure => rfl

/-- A run of the loop adds to the report that it starts from. -/
theorem foldl_record {α : Type} (f : α → Option InvalidProperty) (xs : List α) (r : Report) :
    xs.foldl (fun r a => r.record (f a)) r =
      ⟨r.checked + xs.length, r.failures ++ xs.filterMap f⟩ := by
  induction xs generalizing r with
  | nil => simp
  | cons a rest ih =>
    rw [List.foldl_cons, ih, record_eq]
    cases hf : f a with
    | none => simp [hf]; omega
    | some failure => simp [hf]; omega

/-- A report is turned into its first failure. -/
theorem toExcept_eq_error_iff {r : Report} {error : ConfigError} :
    r.toExcept = .error error ↔
      ∃ failure rest, r.failures = failure :: rest ∧ error = .invalid failure := by
  unfold toExcept
  cases r.failures with
  | nil => simp
  | cons failure rest => simp [eq_comm]

theorem toExcept_eq_ok_iff {r : Report} : r.toExcept = .ok () ↔ r.isValid = true := by
  unfold toExcept isValid
  cases r.failures with
  | nil => simp
  | cons failure rest => simp

end Report

namespace Stack

theorem result_checkOne (stack : Stack) (report : Report) (r : Requirement) :
    (stack.checkOne report r).result = report.record (stack.refusal r.key r.check) := by
  rw [checkOne, Logged.result_bind, result_resolve]
  cases stack.reading r.key r.check with
  | unresolved hw => simp [refusal, hw, Report.record]
  | valueless w hw hv => simp [refusal, hw, hv, Report.record]
  | accepted w raw value hw hv hp => simp [refusal, hw, hv, hp, Report.record]
  | refused w raw e hw hv hp => simp [refusal, hw, hv, hp, Report.record]

theorem result_validate (stack : Stack) (requirements : List Requirement) :
    (stack.validate requirements).result =
      ⟨requirements.length, requirements.filterMap fun r => stack.refusal r.key r.check⟩ := by
  rw [validate, Logged.result_foldlM]
  simp only [result_checkOne]
  rw [Report.foldl_record]
  simp [Report.blank]

end Stack

/-! ## Properties of any types -/

/-- A property with values and outcomes of some types. -/
structure SomeProperty where
  {Value : Type}
  {Outcome : Type}
  property : Property Value Outcome

namespace Stack

/-- The error of strict access to a property, if it fails. -/
def strictError (stack : Stack) (p : SomeProperty) : Option InvalidProperty :=
  match (stack.get p.property).result with
  | .ok _ => none
  | .error err => some err

/-- Whether strict access to a property succeeds. -/
def StrictlyReads (stack : Stack) (p : SomeProperty) : Prop :=
  ∃ outcome, (stack.get p.property).result = .ok outcome

/-- The report on properties. -/
def report (stack : Stack) (ps : List SomeProperty) : Report :=
  (stack.validate (ps.map (·.property.requirement))).result

theorem strictError_eq_refusal (stack : Stack) (p : SomeProperty) :
    stack.strictError p = stack.refusal p.property.key p.property.parser.parse := by
  rw [strictError, result_get_eq]
  cases stack.refusal p.property.key p.property.parser.parse with
  | none => rfl
  | some err => rfl

theorem strictError_eq_some_iff {stack : Stack} {p : SomeProperty} {err : InvalidProperty} :
    stack.strictError p = some err ↔ (stack.get p.property).result = .error err := by
  rw [strictError_eq_refusal, get_eq_error_iff]

theorem strictError_eq_none_iff {stack : Stack} {p : SomeProperty} :
    stack.strictError p = none ↔ stack.StrictlyReads p := by
  rw [strictError_eq_refusal, StrictlyReads, get_eq_ok_iff]

theorem report_eq (stack : Stack) (ps : List SomeProperty) :
    stack.report ps = ⟨ps.length, ps.filterMap stack.strictError⟩ := by
  -- The loop sees `check`, which forgets the parsed value; strict access sees the parser.
  have hcheck (p : SomeProperty) :
      stack.refusal p.property.requirement.key p.property.requirement.check =
        stack.strictError p := by
    rw [strictError_eq_refusal]
    exact refusal_map stack _ _ _
  rw [report, result_validate, List.length_map, List.filterMap_map]
  simp only [Function.comp_def, hcheck]

theorem isValid_report_iff {stack : Stack} {ps : List SomeProperty} :
    (stack.report ps).isValid = true ↔ ∀ p ∈ ps, stack.StrictlyReads p := by
  rw [report_eq, Report.isValid, List.isEmpty_iff, List.filterMap_eq_nil_iff]
  simp only [strictError_eq_none_iff]

/-- The error that a report is turned into is that of the first property that cannot be read. -/
theorem toExcept_report_eq_error_iff {stack : Stack} {ps : List SomeProperty}
    {error : ConfigError} :
    (stack.report ps).toExcept = .error error ↔
      ∃ before p after err, ps = before ++ p :: after ∧
        (∀ q ∈ before, stack.StrictlyReads q) ∧
        (stack.get p.property).result = .error err ∧ error = .invalid err := by
  rw [Report.toExcept_eq_error_iff, report_eq]
  constructor
  · rintro ⟨err, rest, hcons, rfl⟩
    obtain ⟨before, p, after, rfl, hbefore, hp, -⟩ := List.filterMap_eq_cons_iff.mp hcons
    refine ⟨before, p, after, err, rfl, fun q hq => ?_, strictError_eq_some_iff.mp hp, rfl⟩
    exact strictError_eq_none_iff.mp (hbefore q hq)
  · rintro ⟨before, p, after, err, rfl, hbefore, hp, rfl⟩
    refine ⟨err, after.filterMap stack.strictError, ?_, rfl⟩
    refine List.filterMap_eq_cons_iff.mpr ⟨before, p, after, rfl, fun q hq => ?_, ?_, rfl⟩
    · exact strictError_eq_none_iff.mpr (hbefore q hq)
    · exact strictError_eq_some_iff.mpr hp

/-- **A report is made of the strict look-ups.** Every property is counted, the failures are the
errors of strict access in the order of the list, and the first of them is the error that the
report is turned into. -/
theorem validate_eq_strict_access (stack : Stack) (ps : List SomeProperty) :
    (stack.report ps).checked = ps.length ∧
      (stack.report ps).failures = ps.filterMap stack.strictError ∧
      ((stack.report ps).isValid = true ↔ ∀ p ∈ ps, stack.StrictlyReads p) ∧
      ((stack.report ps).toExcept = .ok () ↔ (stack.report ps).isValid = true) ∧
      (∀ error, (stack.report ps).toExcept = .error error ↔
        ∃ before p after err, ps = before ++ p :: after ∧
          (∀ q ∈ before, stack.StrictlyReads q) ∧
          (stack.get p.property).result = .error err ∧ error = .invalid err) ∧
      ∀ qs, (stack.report (ps ++ qs)).checked =
          (stack.report ps).checked + (stack.report qs).checked ∧
        (stack.report (ps ++ qs)).failures =
          (stack.report ps).failures ++ (stack.report qs).failures := by
  refine ⟨?_, ?_, isValid_report_iff, Report.toExcept_eq_ok_iff,
    fun _ => toExcept_report_eq_error_iff, fun qs => ⟨?_, ?_⟩⟩
  · rw [report_eq]
  · rw [report_eq]
  · simp only [report_eq, List.length_append]
  · simp only [report_eq, List.filterMap_append]

end Stack

end LayeredConfig
