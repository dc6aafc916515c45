import LayeredConfig.Proofs.Stack.Validation
import LayeredConfig.Stack.Listing
import Mathlib.Data.List.Basic

/-!
# What queries leave in the log

A query leaves one record for each key that it resolves, which tells the winner or that there is
none, and it may add a remark to it: a warning where a value is refused in the open, a note where
it is refused in silence. The two come from different places. The resolution is recorded by the
scan that all queries share, the remark by each kind of access for itself.

Both can be told from outside. Which keys are resolved depends on the query, and on the listed keys
where it looks at all of them; and whether there is a remark is told by what strict access returns
and by what validation reports.

* `Query`, `Stack.answer`: the queries, and what a stack answers.
* `Stack.records`: the records of a query, in terms of what can be asked of the stack.
* `Stack.log_answer`: a query leaves these records.
* `Stack.warnings_validate`: the warnings of a validation are the failures of its report.
-/

namespace LayeredConfig

/-! ## Remarks -/

namespace InvalidProperty

/-- The warning that goes with an error of strict access. -/
def rejection (e : InvalidProperty) : Record :=
  ⟨.warn, "Property '" ++ e.key ++ "' from source '" ++ e.sourceName ++ "' is invalid: " ++
    e.failure.message⟩

/-- The warning that goes with a failure in a report. -/
def complaint (e : InvalidProperty) : Record :=
  ⟨.warn, "Validation failed for '" ++ e.key ++ "' from source '" ++ e.sourceName ++ "': " ++
    e.failure.message⟩

/-- The note that goes with a value that is passed over. -/
def note (kind : Kind) (e : InvalidProperty) : Record :=
  ⟨.debug,
    (match kind with
      | .valued =>
        "Using default for '" ++ e.key ++ "' after invalid value from source '" ++ e.sourceName
      | _ => "Ignoring invalid value for '" ++ e.key ++ "' from source '" ++ e.sourceName) ++
      "': " ++ e.failure.message⟩

end InvalidProperty

/-! ## Queries -/

/-- A query to a stack, by the type of its answer. -/
inductive Query : Type → Type 1 where
  | get {α β : Type} (p : Property α β) : Query (Except InvalidProperty β)
  | getLenient {α β : Type} (p : Property α β) : Query β
  | failure {α β : Type} (p : Property α β) : Query (Option ParseFailure)
  | provides (key : String) : Query Bool
  | sourceName (key : String) : Query (Option String)
  | origin (key : String) : Query (Option String)
  | rawValue (key : String) : Query (Option String)
  | keys : Query KeySet
  | raw : Query (Dictionary String)
  | rawMatching (p : String → Bool) : Query (Dictionary String)
  | rawForKeys (wanted : List String) : Query (Dictionary String)
  | rawFamily (family : Family) : Query (Dictionary String)
  | listing : Query (List Line)
  | validate (requirements : List Requirement) : Query Report

namespace Stack

/-- Asks the stack. -/
def answer (stack : Stack) : {γ : Type} → Query γ → Logged γ
  | _, .get p => stack.get p
  | _, .getLenient p => stack.getLenient p
  | _, .failure p => stack.failure p
  | _, .provides key => stack.provides key
  | _, .sourceName key => stack.sourceName key
  | _, .origin key => stack.origin key
  | _, .rawValue key => stack.rawValue key
  | _, .keys => stack.keys
  | _, .raw => stack.raw
  | _, .rawMatching p => stack.rawMatching p
  | _, .rawForKeys wanted => stack.rawForKeys wanted
  | _, .rawFamily family => stack.rawFamily family
  | _, .listing => stack.listing
  | _, .validate requirements => stack.validate requirements

/-- The record of a resolution. -/
def resolution (stack : Stack) (key : String) : Record :=
  ⟨.trace,
    match stack.winner key with
    | some w => "Resolved key '" ++ key ++ "' from source '" ++ w.name ++ "'"
    | none => "Key '" ++ key ++ "' is not provided by any source"⟩

/-- The records of the resolutions of all listed keys, in increasing order. -/
def resolutions (stack : Stack) : List Record :=
  stack.keys.result.toList.map stack.resolution

/-- The records that a query leaves: those of the resolutions, each with its remark. -/
def records (stack : Stack) : {γ : Type} → Query γ → List Record
  | _, .get p => stack.resolution p.key :: ((stack.strictError ⟨p⟩).map (·.rejection)).toList
  | _, .getLenient p =>
    stack.resolution p.key :: ((stack.strictError ⟨p⟩).map (·.note p.kind)).toList
  | _, .failure p => [stack.resolution p.key]
  | _, .provides _ => []
  | _, .sourceName key => [stack.resolution key]
  | _, .origin key => [stack.resolution key]
  | _, .rawValue key => [stack.resolution key]
  | _, .keys => []
  | _, .raw => stack.resolutions
  | _, .rawMatching _ => stack.resolutions
  | _, .rawForKeys _ => stack.resolutions
  | _, .rawFamily _ => stack.resolutions
  | _, .listing => stack.resolutions
  | _, .validate requirements => requirements.flatMap fun r =>
      stack.resolution r.key :: (stack.validate [r]).result.failures.map (·.complaint)

/-! ## Single look-ups -/

variable {α β : Type}

@[simp] theorem log_resolve (stack : Stack) (key : String) :
    (stack.resolve key).log = [stack.resolution key] := by
  rw [resolve, resolution, Logged.log_bind, Logged.log_emit]
  cases stack.winner key <;> rfl

@[simp] theorem log_parsed (stack : Stack) (p : Property α β) :
    (stack.parsed p).log = [stack.resolution p.key] := by
  rw [parsed, Logged.log_bind, log_resolve]
  split <;> rfl

/-- A refused value is the one case with a warning, and the one in which strict access fails. -/
theorem log_get (stack : Stack) (p : Property α β) :
    (stack.get p).log =
      stack.resolution p.key :: ((stack.strictError ⟨p⟩).map (·.rejection)).toList := by
  rw [strictError, result_get, get, Logged.log_bind, log_parsed, List.singleton_append]
  dsimp only
  rcases (stack.parsed p).result with _ | ⟨w, e | value⟩
  · rfl
  · rfl
  · rfl

theorem log_getLenient (stack : Stack) (p : Property α β) :
    (stack.getLenient p).log =
      stack.resolution p.key :: ((stack.strictError ⟨p⟩).map (·.note p.kind)).toList := by
  rw [strictError, result_get, getLenient, Logged.log_bind, log_parsed, List.singleton_append]
  dsimp only
  rcases (stack.parsed p).result with _ | ⟨w, e | value⟩
  · rfl
  · cases p.kind <;> rfl
  · rfl

theorem log_failure (stack : Stack) (p : Property α β) :
    (stack.failure p).log = [stack.resolution p.key] := by
  rw [failure, Logged.log_bind, log_parsed]
  split <;> rfl

@[simp] theorem log_rawValue (stack : Stack) (key : String) :
    (stack.rawValue key).log = [stack.resolution key] := by
  simp [rawValue]

/-! ## Views of all keys -/

theorem log_keys (stack : Stack) : stack.keys.log = [] := rfl

theorem log_raw (stack : Stack) : stack.raw.log = stack.resolutions := by
  simp [raw, log_keys, resolutions, List.map_eq_flatMap]

theorem log_rawMatching (stack : Stack) (p : String → Bool) :
    (stack.rawMatching p).log = stack.resolutions := by
  simp [rawMatching, log_raw]

theorem log_rawFamily (stack : Stack) (family : Family) :
    (stack.rawFamily family).log = stack.resolutions := by
  simp [rawFamily, log_raw]

theorem log_listing (stack : Stack) : stack.listing.log = stack.resolutions := by
  simp [listing, log_keys, resolutions, List.map_eq_flatMap]

/-! ## Validation -/

theorem log_checkOne (stack : Stack) (report : Report) (r : Requirement) :
    (stack.checkOne report r).log = stack.resolution r.key ::
      (stack.validate [r]).result.failures.map (·.complaint) := by
  rw [checkOne, Logged.log_bind, log_resolve, result_resolve, result_validate,
    List.singleton_append]
  cases stack.reading r.key r.check with
  | unresolved hw => simp [refusal, hw]
  | valueless w hw hv => simp [refusal, hw, hv]
  | accepted w raw value hw hv hp => simp [refusal, hw, hv, hp]
  | refused w raw e hw hv hp =>
    simp [refusal, hw, hv, hp, Event.record?, InvalidProperty.complaint]

theorem log_validate (stack : Stack) (requirements : List Requirement) :
    (stack.validate requirements).log = requirements.flatMap fun r =>
      stack.resolution r.key :: (stack.validate [r]).result.failures.map (·.complaint) := by
  -- The report grows with each step, but what a step records does not depend on it.
  have hstep (report : Report) (r : Requirement) (_ : True) :=
    And.intro trivial (stack.log_checkOne report r)
  exact (Logged.log_foldlM (fun _ => True) hstep trivial requirements).2

/-! ## All queries -/

theorem log_answer (stack : Stack) {γ : Type} (query : Query γ) :
    (stack.answer query).log = stack.records query := by
  cases query with
  | get p => exact stack.log_get p
  | getLenient p => exact stack.log_getLenient p
  | failure p => exact stack.log_failure p
  | provides key => rfl
  | sourceName key => simp [answer, records, sourceName]
  | origin key => simp [answer, records, origin]
  | rawValue key => exact stack.log_rawValue key
  | keys => rfl
  | raw => exact stack.log_raw
  | rawMatching p => exact stack.log_rawMatching p
  | rawForKeys wanted => exact stack.log_rawMatching _
  | rawFamily family => exact stack.log_rawFamily family
  | listing => exact stack.log_listing
  | validate requirements => exact stack.log_validate requirements

/-- Each requirement adds what it would be reported for alone. -/
theorem failures_validate (stack : Stack) (requirements : List Requirement) :
    (stack.validate requirements).result.failures =
      requirements.flatMap fun r => (stack.validate [r]).result.failures := by
  simp only [result_validate, List.filterMap_eq_flatMap_toList, List.flatMap_singleton]

/-- The resolutions are not warnings, and the remarks of a validation are. -/
theorem warnings_validate (stack : Stack) (requirements : List Requirement) :
    (stack.validate requirements).log.filter (·.level = .warn) =
      (stack.validate requirements).result.failures.map (·.complaint) := by
  have hone (key : String) (failures : List InvalidProperty) :
      (stack.resolution key :: failures.map (·.complaint)).filter (·.level = .warn) =
        failures.map (·.complaint) := by
    have hall : ∀ record ∈ failures.map (·.complaint), decide (record.level = .warn) = true := by
      intro record hrecord
      obtain ⟨e, -, rfl⟩ := List.mem_map.mp hrecord
      rfl
    rw [List.filter_cons_of_neg (by rintro ⟨⟩), List.filter_eq_self.mpr hall]
  rw [log_validate, List.filter_flatMap, failures_validate, List.map_flatMap]
  simp only [hone]

end Stack

end LayeredConfig
