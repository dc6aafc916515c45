import LayeredConfig.Log
import LayeredConfig.Property
import LayeredConfig.Source

/-!
# Stacks of sources

A stack lists sources, the one with the highest precedence first. One scan decides every
look-up: the first source that has the key wins, and its value stands even when it is missing or
cannot be parsed; lower sources are not consulted for it.

* `Stack.winner`: the first source that has a key.
* `Stack.exists_winner_iff`: there is one winner at most.
* `Stack.result_resolve`: what a resolution finds is the value of the winner.
* `Stack.result_get`, `Stack.result_getLenient`, `Stack.result_failure`: strict and lenient
  access and the bare failure read the same resolution.
-/

namespace LayeredConfig

/-- Sources in order of precedence. -/
abbrev Stack := List Source

/-- The winning source for a key, and its value. -/
structure Resolution where
  source : Source
  value : Option String

namespace Stack

variable {α β : Type}

/-! ## Resolution -/

/-- The first source that has the key. -/
def winner (stack : Stack) (key : String) : Option Source := stack.find? (·.hasKey key)

theorem winner_cons (s : Source) (rest : Stack) (key : String) :
    winner (s :: rest) key = if s.hasKey key = true then some s else winner rest key := by
  rw [winner, List.find?_cons]
  cases s.hasKey key <;> rfl

theorem hasKey_of_winner {stack : Stack} {key : String} {w : Source}
    (h : stack.winner key = some w) : w.hasKey key = true := by
  have hp := List.find?_some h
  exact hp

theorem mem_of_winner {stack : Stack} {key : String} {w : Source}
    (h : stack.winner key = some w) : w ∈ stack :=
  List.mem_of_find?_eq_some h

theorem winner_eq_none_iff {stack : Stack} {key : String} :
    stack.winner key = none ↔ ∀ s ∈ stack, ¬ s.hasKey key = true :=
  List.find?_eq_none

/-- What holds of some winner holds of the one that there is. -/
theorem exists_winner_iff {stack : Stack} {key : String} {w : Source} {P : Source → Prop}
    (h : stack.winner key = some w) : (∃ s, stack.winner key = some s ∧ P s) ↔ P w := by
  constructor
  · rintro ⟨s, hs, hP⟩
    cases h.symm.trans hs
    exact hP
  · intro hP
    exact ⟨w, h, hP⟩

/-- The number of sources that are asked for the key until one has it. -/
def askedFor (stack : Stack) (key : String) : Nat :=
  (stack.takeWhile fun s => !s.hasKey key).length + 1

/-- Finds the winner for a key and asks it for the value. -/
def resolve (stack : Stack) (key : String) : Logged (Option Resolution) := do
  Logged.emit (.asked (stack.askedFor key))
  match stack.winner key with
  | some source =>
    Logged.emit (.resolved key source.name)
    return some ⟨source, source.value key⟩
  | none =>
    Logged.emit (.unresolved key)
    return none

theorem result_resolve (stack : Stack) (key : String) :
    (stack.resolve key).result = (stack.winner key).map fun s => ⟨s, s.value key⟩ := by
  unfold resolve
  cases stack.winner key <;> simp

/-! ## Typed access -/

/-- The winner for a property with what the parser makes of its value; nothing if there is no
winner or it has no value. -/
def parsed (stack : Stack) (p : Property α β) :
    Logged (Option (Source × Except ParseFailure α)) := do
  match ← stack.resolve p.key with
  | some ⟨source, some raw⟩ => return some (source, p.parser.parse raw)
  | _ => return none

theorem result_parsed (stack : Stack) (p : Property α β) :
    (stack.parsed p).result =
      (stack.winner p.key).bind fun s =>
        (s.value p.key).map fun raw => (s, p.parser.parse raw) := by
  simp only [parsed, Logged.result_bind, result_resolve]
  cases h : stack.winner p.key with
  | none => simp
  | some s => cases hv : s.value p.key <;> simp [hv]

/-- Strict access: a value that is refused is an error. -/
def get (stack : Stack) (p : Property α β) : Logged (Except InvalidProperty β) := do
  match ← stack.parsed p with
  | none => return .ok p.whenMissing
  | some (_, .ok value) => return .ok (p.whenPresent value)
  | some (source, .error e) =>
    Logged.emit (.rejected p.key source.name e)
    return .error ⟨p.key, source.name, e⟩

/-- Lenient access: a value that is refused counts as missing. -/
def getLenient (stack : Stack) (p : Property α β) : Logged β := do
  match ← stack.parsed p with
  | none => return p.whenMissing
  | some (_, .ok value) => return p.whenPresent value
  | some (source, .error e) =>
    Logged.emit (match p.kind with
      | .valued => .defaulted p.key source.name e
      | _ => .ignored p.key source.name e)
    return p.whenMissing

/-- The failure of the value alone. -/
def failure (stack : Stack) (p : Property α β) : Logged (Option ParseFailure) := do
  match ← stack.parsed p with
  | some (_, .error e) => return some e
  | _ => return none

theorem result_get (stack : Stack) (p : Property α β) :
    (stack.get p).result =
      match (stack.parsed p).result with
      | none => .ok p.whenMissing
      | some (_, .ok value) => .ok (p.whenPresent value)
      | some (source, .error e) => .error ⟨p.key, source.name, e⟩ := by
  simp only [get, Logged.result_bind]
  split <;> rfl

theorem result_getLenient (stack : Stack) (p : Property α β) :
    (stack.getLenient p).result =
      match (stack.parsed p).result with
      | none => p.whenMissing
      | some (_, .ok value) => p.whenPresent value
      | some (_, .error _) => p.whenMissing := by
  simp only [getLenient, Logged.result_bind]
  split <;> rfl

theorem result_failure (stack : Stack) (p : Property α β) :
    (stack.failure p).result =
      match (stack.parsed p).result with
      | some (_, .error e) => some e
      | _ => none := by
  simp only [failure, Logged.result_bind]
  split <;> rfl

/-! ## Provenance -/

/-- Whether some source has the key. -/
def provides (stack : Stack) (key : String) : Logged Bool := do
  Logged.emit (.asked (stack.askedFor key))
  return stack.any (·.hasKey key)

/-- The name of the winner. -/
def sourceName (stack : Stack) (key : String) : Logged (Option String) := do
  return (← stack.resolve key).map (·.source.name)

/-- The origin that the winner tells, or its name. -/
def origin (stack : Stack) (key : String) : Logged (Option String) := do
  return (← stack.resolve key).map (·.source.originOrName key)

/-- The value of the winner, unread. -/
def rawValue (stack : Stack) (key : String) : Logged (Option String) := do
  return (← stack.resolve key).bind (·.value)

@[simp] theorem result_provides (stack : Stack) (key : String) :
    (stack.provides key).result = stack.any (·.hasKey key) := rfl

theorem result_provides_eq_isSome (stack : Stack) (key : String) :
    (stack.provides key).result = (stack.winner key).isSome := by
  rw [result_provides, winner, List.isSome_find?]

@[simp] theorem result_sourceName (stack : Stack) (key : String) :
    (stack.sourceName key).result = (stack.winner key).map (·.name) := by
  simp [sourceName, result_resolve, Option.map_map, Function.comp_def]

@[simp] theorem result_origin (stack : Stack) (key : String) :
    (stack.origin key).result = (stack.winner key).map (·.originOrName key) := by
  simp [origin, result_resolve, Option.map_map, Function.comp_def]

@[simp] theorem result_rawValue (stack : Stack) (key : String) :
    (stack.rawValue key).result = (stack.winner key).bind (·.value key) := by
  simp only [rawValue, Logged.result_bind, Logged.result_pure, result_resolve]
  cases stack.winner key <;> rfl

theorem rawValue_of_winner {stack : Stack} {key : String} {w : Source}
    (h : stack.winner key = some w) : (stack.rawValue key).result = w.value key := by
  rw [result_rawValue, h, Option.bind_some]

/-- The names of the sources, in order. -/
def names (stack : Stack) : List String := stack.map (·.name)

/-- A stack in diagnostics. -/
def inspectNames (names : List String) : String :=
  Text.writeRecord "PropertyConfiguration"
    [("sources", Text.writeList (names.map Text.quoted))] false

end Stack

end LayeredConfig
