import LayeredConfig.Failure

/-!
# The log

Queries and loaders tell what they do. An event is what happened, with its data; a record is the
line that an event leaves in the log, with its level. That sources were asked is an event too,
because a source may read its data at its first question, but it leaves no line.

`Logged` carries a result with the events on the way to it, in order.

* `Logged.result_bind`, `Logged.events_bind`: the events of two steps follow each other.
* `Logged.result_forEach`, `Logged.events_forEach`: a step for each element of a list, in order.
* `Logged.result_foldlM`, `Logged.log_foldlM`: a loop that carries a state, without its events,
  and the records of one whose state does not show in them.
-/

namespace LayeredConfig

open Text

/-- How important a record is. -/
inductive Level where
  | trace
  | debug
  | warn
deriving DecidableEq, Repr

def Level.name : Level → String
  | trace => "TRACE"
  | debug => "DEBUG"
  | warn => "WARN"

/-- A line of the log. -/
structure Record where
  level : Level
  message : String
deriving DecidableEq, Repr

/-- What happened during a query or while a source was loaded. -/
inductive Event where
  /-- The first sources of the stack were asked, as many as `count` says. -/
  | asked (count : Nat)
  | resolved (key source : String)
  | unresolved (key : String)
  | rejected (key source : String) (failure : ParseFailure)
  | ignored (key source : String) (failure : ParseFailure)
  | defaulted (key source : String) (failure : ParseFailure)
  | invalid (key source : String) (failure : ParseFailure)
  | stackBuilt (sources : List String)
  | commandLineRead (count : Nat)
  | variableOversized (nameSize valueSize nameLimit valueLimit : Nat)
  | environmentRead (count : Nat) (stem : Option String) (lowerCases replacesUnderscores : Bool)
  | documentRead (count : Nat) (path : String)
  | documentSkipped (application : String) (error : ConfigError)
deriving DecidableEq, Repr

/-- The line that an event leaves. -/
def Event.record? : Event → Option Record
  | asked _ => none
  | resolved key source =>
    some ⟨.trace, "Resolved key '" ++ key ++ "' from source '" ++ source ++ "'"⟩
  | unresolved key => some ⟨.trace, "Key '" ++ key ++ "' is not provided by any source"⟩
  | rejected key source e =>
    some ⟨.warn,
      "Property '" ++ key ++ "' from source '" ++ source ++ "' is invalid: " ++ e.message⟩
  | ignored key source e =>
    some ⟨.debug,
      "Ignoring invalid value for '" ++ key ++ "' from source '" ++ source ++ "': " ++ e.message⟩
  | defaulted key source e =>
    some ⟨.debug,
      "Using default for '" ++ key ++ "' after invalid value from source '" ++ source ++ "': " ++
        e.message⟩
  | invalid key source e =>
    some ⟨.warn,
      "Validation failed for '" ++ key ++ "' from source '" ++ source ++ "': " ++ e.message⟩
  | stackBuilt sources =>
    some ⟨.debug,
      "Created property configuration with " ++ toString sources.length ++ " source(s): " ++
        writeList (sources.map quoted)⟩
  | commandLineRead count =>
    some ⟨.debug, "Parsed " ++ toString count ++ " command-line properties"⟩
  | variableOversized nameSize valueSize nameLimit valueLimit =>
    some ⟨.debug,
      "Skipping oversized environment variable: key_len=" ++ toString nameSize ++
        ", value_len=" ++ toString valueSize ++ " (max key=" ++ toString nameLimit ++
        ", max value=" ++ toString valueLimit ++ ")"⟩
  | environmentRead count stem lowerCases replacesUnderscores =>
    some ⟨.debug,
      "Loaded " ++ toString count ++ " environment variables (prefix=" ++
        writeOption quoted stem ++ ", lowercase=" ++ toString lowerCases ++
        ", replace_underscores=" ++ toString replacesUnderscores ++ ")"⟩
  | documentRead count path =>
    some ⟨.debug, "Loaded " ++ toString count ++ " properties from YAML file '" ++ path ++ "'"⟩
  | documentSkipped application error =>
    some ⟨.debug,
      "Skipping default YAML configuration for '" ++ application ++ "': " ++ error.message⟩

/-- The lines that a sequence of events leaves. -/
def records (events : List Event) : List Record := events.filterMap Event.record?

theorem records_cons (event : Event) (rest : List Event) :
    records (event :: rest) = event.record?.toList ++ records rest := by
  rw [records, List.filterMap_cons]
  cases event.record? <;> rfl

theorem records_append (events later : List Event) :
    records (events ++ later) = records events ++ records later :=
  List.filterMap_append

/-! ## Results with events -/

universe u v

/-- A result, and the events on the way to it. -/
structure Logged (α : Type u) where
  result : α
  events : List Event

namespace Logged

variable {α : Type u} {β : Type v}

/-- One event. -/
def emit (event : Event) : Logged Unit := ⟨(), [event]⟩

instance : Monad Logged where
  pure a := ⟨a, []⟩
  bind x f := ⟨(f x.result).result, x.events ++ (f x.result).events⟩

/-- The records of the events. -/
def log (x : Logged α) : List Record := records x.events

@[simp] theorem result_pure (a : α) : (pure a : Logged α).result = a := rfl

@[simp] theorem events_pure (a : α) : (pure a : Logged α).events = [] := rfl

@[simp] theorem result_emit (e : Event) : (emit e).result = () := rfl

@[simp] theorem events_emit (e : Event) : (emit e).events = [e] := rfl

@[simp] theorem result_bind {β : Type u} (x : Logged α) (f : α → Logged β) :
    (x >>= f).result = (f x.result).result := rfl

@[simp] theorem events_bind {β : Type u} (x : Logged α) (f : α → Logged β) :
    (x >>= f).events = x.events ++ (f x.result).events := rfl

@[simp] theorem result_map {β : Type u} (f : α → β) (x : Logged α) :
    (f <$> x).result = f x.result := rfl

@[simp] theorem events_map {β : Type u} (f : α → β) (x : Logged α) :
    (f <$> x).events = x.events := by
  show x.events ++ [] = x.events
  simp

/-- A step for each element, in order. -/
def forEach (step : α → Logged β) : List α → Logged (List β)
  | [] => ⟨[], []⟩
  | a :: rest =>
    let first := step a
    let others := forEach step rest
    ⟨first.result :: others.result, first.events ++ others.events⟩

@[simp] theorem result_forEach (step : α → Logged β) (xs : List α) :
    (forEach step xs).result = xs.map fun a => (step a).result := by
  induction xs with
  | nil => rfl
  | cons a rest ih => simp [forEach, ih]

@[simp] theorem events_forEach (step : α → Logged β) (xs : List α) :
    (forEach step xs).events = xs.flatMap fun a => (step a).events := by
  induction xs with
  | nil => rfl
  | cons a rest ih => simp [forEach, ih]

theorem result_foldlM {σ : Type u} (step : σ → α → Logged σ) (s : σ) (xs : List α) :
    (xs.foldlM step s).result = xs.foldl (fun s a => (step s a).result) s := by
  induction xs generalizing s with
  | nil => rfl
  | cons a rest ih =>
    rw [List.foldlM_cons, result_bind, ih, List.foldl_cons]

/-! ### Records of the steps -/

@[simp] theorem log_pure (a : α) : (pure a : Logged α).log = [] := rfl

@[simp] theorem log_emit (e : Event) : (emit e).log = e.record?.toList := by
  rw [log, events_emit, records_cons]
  exact List.append_nil _

@[simp] theorem log_bind {β : Type u} (x : Logged α) (f : α → Logged β) :
    (x >>= f).log = x.log ++ (f x.result).log := by
  rw [log, events_bind, records_append]
  rfl

@[simp] theorem log_forEach (step : α → Logged β) (xs : List α) :
    (forEach step xs).log = xs.flatMap fun a => (step a).log := by
  rw [log, events_forEach, records, List.filterMap_flatMap]
  rfl

/-- A loop whose steps keep an invariant, and whose records there do not depend on the state. -/
theorem log_foldlM {σ : Type u} (Keeps : σ → Prop) {step : σ → β → Logged σ}
    {f : β → List Record}
    (hstep : ∀ s b, Keeps s → Keeps (step s b).result ∧ (step s b).log = f b)
    {s : σ} (hs : Keeps s) (xs : List β) :
    Keeps (xs.foldlM step s).result ∧ (xs.foldlM step s).log = xs.flatMap f := by
  induction xs generalizing s with
  | nil => exact ⟨hs, rfl⟩
  | cons b rest ih =>
    obtain ⟨hkeeps, hlog⟩ := hstep s b hs
    obtain ⟨hrest, hrestLog⟩ := ih hkeeps
    rw [List.foldlM_cons, result_bind, log_bind, hlog, hrestLog, List.flatMap_cons]
    exact ⟨hrest, rfl⟩

end Logged

end LayeredConfig
