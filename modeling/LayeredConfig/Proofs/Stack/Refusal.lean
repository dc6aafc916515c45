import LayeredConfig.Stack

/-!
# Refused values

A look-up of a key ends in one of four ways: no source has the key, the winner has no value, its
value is accepted, or its value is refused (`Stack.Reading`). Strict access, lenient access and
the bare failure are told apart by the last of them alone, and what they report there is one and
the same (`Stack.refusal`).

* `reading`: one of the four ways always applies.
* `refusal_eq_some_iff`: a refusal names the winner and carries the failure of its value.
* `result_get_eq`: strict access gives the refusal, and otherwise what lenient access gives.
* `result_failure_eq`: the bare failure is the failure of the refusal.
* `result_getLenient_eq`: lenient access depends on the raw value and the parser only.
-/

namespace LayeredConfig.Stack

variable {α β : Type}

/-! ## The four ways in which a look-up ends -/

/-- How the look-up of a key ends when the value is read by `parse`. -/
inductive Reading (stack : Stack) (key : String) (parse : String → Except ParseFailure α) : Prop
  | unresolved (hw : stack.winner key = none)
  | valueless (w : Source) (hw : stack.winner key = some w) (hv : w.value key = none)
  | accepted (w : Source) (raw : String) (value : α) (hw : stack.winner key = some w)
      (hv : w.value key = some raw) (hp : parse raw = .ok value)
  | refused (w : Source) (raw : String) (e : ParseFailure) (hw : stack.winner key = some w)
      (hv : w.value key = some raw) (hp : parse raw = .error e)

theorem reading (stack : Stack) (key : String) (parse : String → Except ParseFailure α) :
    stack.Reading key parse := by
  cases hw : stack.winner key with
  | none => exact .unresolved hw
  | some w =>
    cases hv : w.value key with
    | none => exact .valueless w hw hv
    | some raw =>
      cases hp : parse raw with
      | ok value => exact .accepted w raw value hw hv hp
      | error e => exact .refused w raw e hw hv hp

/-! ## The refusal -/

/-- The failure of the value that the winner supplies. There is none when no source has the key,
when the winner has no value, or when its value is accepted. -/
def refusal (stack : Stack) (key : String) (parse : String → Except ParseFailure α) :
    Option InvalidProperty :=
  (stack.winner key).bind fun w =>
    (w.value key).bind fun raw =>
      match parse raw with
      | .ok _ => none
      | .error e => some ⟨key, w.name, e⟩

theorem refusal_eq_some {stack : Stack} {key raw : String}
    {parse : String → Except ParseFailure α} {w : Source} {e : ParseFailure}
    (hw : stack.winner key = some w) (hv : w.value key = some raw) (hp : parse raw = .error e) :
    stack.refusal key parse = some ⟨key, w.name, e⟩ := by
  simp only [refusal, hw, hv, hp, Option.bind_some]

theorem refusal_eq_some_iff {stack : Stack} {key : String}
    {parse : String → Except ParseFailure α} {err : InvalidProperty} :
    stack.refusal key parse = some err ↔
      err.key = key ∧ ∃ w, stack.winner key = some w ∧ err.sourceName = w.name ∧
        ∃ raw, w.value key = some raw ∧ parse raw = .error err.failure := by
  constructor
  · intro h
    cases stack.reading key parse with
    | unresolved hw => simp [refusal, hw] at h
    | valueless w hw hv => simp [refusal, hw, hv] at h
    | accepted w raw value hw hv hp => simp [refusal, hw, hv, hp] at h
    | refused w raw e hw hv hp =>
      rw [refusal_eq_some hw hv hp] at h
      cases h
      exact ⟨rfl, w, hw, rfl, raw, hv, hp⟩
  · rintro ⟨rfl, w, hw, hname, raw, hv, hp⟩
    rw [refusal_eq_some hw hv hp, ← hname]

/-- Forgetting what the parser made of an accepted value changes no refusal. -/
theorem refusal_map {γ : Type} (stack : Stack) (key : String)
    (parse : String → Except ParseFailure α) (f : α → γ) :
    stack.refusal key (fun raw => (parse raw).map f) = stack.refusal key parse := by
  cases stack.reading key parse with
  | unresolved hw => simp [refusal, hw]
  | valueless w hw hv => simp [refusal, hw, hv]
  | accepted w raw value hw hv hp => simp [refusal, hw, hv, hp, Except.map]
  | refused w raw e hw hv hp => simp [refusal, hw, hv, hp, Except.map]

/-! ## Typed access -/

/-- Strict access and lenient access part only where a value is refused. -/
theorem result_get_eq (stack : Stack) (p : Property α β) :
    (stack.get p).result =
      match stack.refusal p.key p.parser.parse with
      | some err => .error err
      | none => .ok (stack.getLenient p).result := by
  rw [result_get, result_getLenient, result_parsed]
  cases stack.reading p.key p.parser.parse with
  | unresolved hw => simp [refusal, hw]
  | valueless w hw hv => simp [refusal, hw, hv]
  | accepted w raw value hw hv hp => simp [refusal, hw, hv, hp]
  | refused w raw e hw hv hp => simp [refusal, hw, hv, hp]

/-- Where there is a raw value, strict access gives what the parser makes of it. -/
theorem result_get_of_rawValue {stack : Stack} {p : Property α β} {raw : String}
    (h : (stack.rawValue p.key).result = some raw) :
    ∃ w, stack.winner p.key = some w ∧
      (stack.get p).result =
        match p.parser.parse raw with
        | .ok value => .ok (p.whenPresent value)
        | .error e => .error ⟨p.key, w.name, e⟩ := by
  rw [result_rawValue] at h
  obtain ⟨w, hw, hv⟩ := Option.bind_eq_some_iff.mp h
  refine ⟨w, hw, ?_⟩
  rw [result_get, result_parsed, hw, Option.bind_some, hv, Option.map_some]
  cases p.parser.parse raw <;> rfl

theorem result_failure_eq (stack : Stack) (p : Property α β) :
    (stack.failure p).result = (stack.refusal p.key p.parser.parse).map (·.failure) := by
  rw [result_failure, result_parsed]
  cases stack.reading p.key p.parser.parse with
  | unresolved hw => simp [refusal, hw]
  | valueless w hw hv => simp [refusal, hw, hv]
  | accepted w raw value hw hv hp => simp [refusal, hw, hv, hp]
  | refused w raw e hw hv hp => simp [refusal, hw, hv, hp]

/-- A value that is refused and one that is missing look the same to lenient access. -/
theorem result_getLenient_eq (stack : Stack) (p : Property α β) :
    (stack.getLenient p).result =
      (((stack.rawValue p.key).result.bind fun raw => (p.parser.parse raw).toOption).elim
        p.whenMissing p.whenPresent) := by
  rw [result_getLenient, result_parsed, result_rawValue]
  cases stack.reading p.key p.parser.parse with
  | unresolved hw => simp [hw]
  | valueless w hw hv => simp [hw, hv]
  | accepted w raw value hw hv hp => simp [hw, hv, hp, Except.toOption]
  | refused w raw e hw hv hp => simp [hw, hv, hp, Except.toOption]

theorem get_eq_error_iff {stack : Stack} {p : Property α β} {err : InvalidProperty} :
    (stack.get p).result = .error err ↔ stack.refusal p.key p.parser.parse = some err := by
  rw [result_get_eq]
  cases stack.refusal p.key p.parser.parse with
  | none => simp
  | some other => simp

theorem get_eq_ok_iff {stack : Stack} {p : Property α β} :
    (∃ outcome, (stack.get p).result = .ok outcome) ↔
      stack.refusal p.key p.parser.parse = none := by
  rw [result_get_eq]
  cases stack.refusal p.key p.parser.parse with
  | none => simp
  | some other => simp

end LayeredConfig.Stack
