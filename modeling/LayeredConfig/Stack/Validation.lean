import LayeredConfig.Stack

/-!
# Validation

Validation looks up every property of a list and collects the values that are refused. A
property without a value counts as checked and never fails.

* `Stack.checkOne`: one property, recorded in the report so far.
* `Stack.validate`: a list of properties, one after the other.
-/

namespace LayeredConfig

open Text

/-- The outcome of a validation: how many properties were checked, and the failures in order. -/
structure Report where
  checked : Nat
  failures : List InvalidProperty
deriving DecidableEq, Repr

namespace Report

/-- The report before any property was checked. -/
def blank : Report := ⟨0, []⟩

/-- Counts a property that is as it should be. -/
def recordChecked (r : Report) : Report := { r with checked := r.checked + 1 }

/-- Counts a property that failed, and keeps the failure. -/
def recordFailure (r : Report) (failure : InvalidProperty) : Report :=
  ⟨r.checked + 1, r.failures ++ [failure]⟩

/-- Whether nothing failed. -/
def isValid (r : Report) : Bool := r.failures.isEmpty

/-- The first failure as an error. -/
def toExcept (r : Report) : Except ConfigError Unit :=
  match r.failures with
  | [] => .ok ()
  | failure :: _ => .error (.invalid failure)

/-- A headline, and one line for each failure. -/
def write (r : Report) : String :=
  if r.isValid then "All " ++ toString r.checked ++ " properties are valid"
  else
    toString r.failures.length ++ " of " ++ toString r.checked ++ " properties are invalid" ++
      String.join (r.failures.map fun failure => "\n  " ++ failure.message)

end Report

namespace Stack

/-- Looks one requirement up and records in the report what comes of it. -/
def checkOne (stack : Stack) (report : Report) (r : Requirement) : Logged Report := do
  match ← stack.resolve r.key with
  | none => return report.recordChecked
  | some ⟨_, none⟩ => return report.recordChecked
  | some ⟨source, some raw⟩ =>
    match r.check raw with
    | .ok () => return report.recordChecked
    | .error e =>
      Logged.emit (.invalid r.key source.name e)
      return report.recordFailure ⟨r.key, source.name, e⟩

/-- Checks requirements in order. -/
def validate (stack : Stack) (requirements : List Requirement) : Logged Report :=
  requirements.foldlM stack.checkOne .blank

end Stack

end LayeredConfig
