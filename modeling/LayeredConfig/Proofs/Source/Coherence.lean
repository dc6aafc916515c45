import LayeredConfig.Source.CommandLine
import LayeredConfig.Source.Document
import LayeredConfig.Source.Environment
import LayeredConfig.Source.Table

/-!
# Built-in sources are coherent

Precedence goes by `hasKey` alone, so a source that claims a key without a value, or lists keys
other than those it has, shadows lower sources or is overlooked. Tables, command lines, the
environment and documents do neither, whatever they were built from.

A table keeps values and origins apart, and both are written at any time and in any order. What it
answers about a key depends on the last value and the last origin for that key alone
(`holds_applyAll`). A command line keeps values and flags apart as well, but always writes both,
so a key has a flag exactly when it has a value (`isSome_flags_read`).

* `Source.Exact`: coherent, and no origin is told for a key that the source does not have.
* `Table.faithful_of_holds`: a table answers with the last value and the last origin of a key.
* `built_in_sources_are_coherent`: all of the built-in sources, for all their inputs.
-/

namespace LayeredConfig

/-! ## Sources that tell origins for their own keys only -/

namespace Source

/-- A coherent source that tells an origin for no key but those that it has. -/
structure Exact (s : Source) : Prop extends Coherent s where
  hasKey_of_origin : ∀ k, (s.origin k).isSome = true → s.hasKey k = true

universe u

theorem exact_ofEntries {α : Type u} (name : String) (entries : Dictionary α)
    (value origin : α → String) : Exact (ofEntries name entries value origin) where
  toCoherent := coherent_ofEntries name entries value origin
  hasKey_of_origin k h := by
    have hentry : ((entries.get? k).map origin).isSome = true := h
    rwa [Option.isSome_map] at hentry

end Source

/-! ## Tables and their histories -/

namespace Table

/-- A change to a table. -/
inductive Change where
  | ofValue (key value : String)
  | ofOrigin (key origin : String)

namespace Change

/-- The key and the value that a change writes. -/
def value? : Change → Option (String × String)
  | .ofValue key value => some (key, value)
  | .ofOrigin _ _ => none

/-- The key and the origin that a change writes. -/
def origin? : Change → Option (String × String)
  | .ofValue _ _ => none
  | .ofOrigin key origin => some (key, origin)

end Change

/-- The table after a change. -/
def apply (t : Table) : Change → Table
  | .ofValue key value => t.withValue key value
  | .ofOrigin key origin => t.withOrigin key origin

/-- The table after a sequence of changes. -/
def applyAll (t : Table) (changes : List Change) : Table := changes.foldl apply t

/-- The table has the name, and was written with the values and, apart from them, the origins. -/
structure Holds (t : Table) (name : String) (values origins : List (String × String)) : Prop where
  name_eq : t.name = name
  values_eq : t.values = .ofList values
  origins_eq : t.origins = .ofList origins

theorem holds_ofList (name : String) (pairs : List (String × String)) :
    (ofList name pairs).Holds name pairs [] := ⟨rfl, rfl, rfl⟩

theorem holds_empty (name : String) : (empty name).Holds name [] [] := ⟨rfl, rfl, rfl⟩

/-- One change adds to the values or to the origins and leaves the others alone. -/
theorem holds_apply {t : Table} {name : String} {values origins : List (String × String)}
    (h : t.Holds name values origins) (change : Change) :
    (t.apply change).Holds name (values ++ change.value?.toList)
      (origins ++ change.origin?.toList) := by
  obtain ⟨hname, hvalues, horigins⟩ := h
  cases change with
  | ofValue key value =>
    refine ⟨hname, ?_, ?_⟩
    · have hinsert : (t.apply (.ofValue key value)).values = t.values.insert key value := rfl
      rw [hinsert, hvalues, Dictionary.ofList_append]
      rfl
    · simpa [Change.origin?, apply, withValue] using horigins
  | ofOrigin key origin =>
    refine ⟨hname, ?_, ?_⟩
    · simpa [Change.value?, apply, withOrigin] using hvalues
    · have hinsert : (t.apply (.ofOrigin key origin)).origins = t.origins.insert key origin := rfl
      rw [hinsert, horigins, Dictionary.ofList_append]
      rfl

theorem holds_applyAll {t : Table} {name : String} {values origins : List (String × String)}
    (h : t.Holds name values origins) (changes : List Change) :
    (t.applyAll changes).Holds name (values ++ changes.filterMap Change.value?)
      (origins ++ changes.filterMap Change.origin?) := by
  induction changes generalizing t values origins with
  | nil => simpa [applyAll] using h
  | cons change rest ih =>
    have hrest := ih (holds_apply h change)
    rw [List.append_assoc, List.append_assoc] at hrest
    cases change with
    | ofValue key value => exact hrest
    | ofOrigin key origin => exact hrest

/-- The table is coherent and answers with the last of the values, and with the last of the origins
or else its name. -/
structure Faithful (t : Table) (name : String) (values origins : List (String × String)) :
    Prop where
  coherent : t.source.Coherent
  value_eq : ∀ k, t.source.value k = (values.findRev? (·.1 == k)).map (·.2)
  origin_eq : ∀ k, t.source.origin k = some (((origins.findRev? (·.1 == k)).map (·.2)).getD name)

theorem faithful_of_holds {t : Table} {name : String} {values origins : List (String × String)}
    (h : t.Holds name values origins) : t.Faithful name values origins where
  coherent := t.coherent_source
  value_eq k := by
    have hlook : t.source.value k = t.values.get? k := rfl
    rw [hlook, h.values_eq, Dictionary.get?_ofList_eq_findRev?]
  origin_eq k := by
    have hlook : t.source.origin k = some ((t.origins.get? k).getD t.name) := rfl
    rw [hlook, h.origins_eq, h.name_eq, Dictionary.get?_ofList_eq_findRev?]

end Table

/-! ## Command lines -/

namespace CommandLine

/-- Values and flags are in step: what has the one has the other. -/
theorem isSome_flags_read (arguments : List String) (key : String) :
    ((read arguments).flags.get? key).isSome = (read arguments).values.contains key := by
  rw [Dictionary.contains, get?_flags_read, get?_values_read, Option.isSome_map,
    Option.isSome_map]

theorem exact_source_read (arguments : List String) : (read arguments).source.Exact where
  hasKey_iff_value _ := Iff.rfl
  hasKey_iff_mem_keys _ := Dictionary.mem_keys.symm
  origin_of_hasKey k hk := by
    rw [source, Option.isSome_map, isSome_flags_read]
    exact hk
  hasKey_of_origin k hk := by
    rw [source, Option.isSome_map, isSome_flags_read] at hk
    exact hk

end CommandLine

/-! ## All built-in sources -/

/-- **Built-in sources are coherent.** A table answers with the last value and the last origin of a
key, however the changes to the two were interleaved; command lines, the environment and documents
tell an origin exactly for the keys that they have. -/
theorem built_in_sources_are_coherent :
    (∀ name pairs changes, ((Table.ofList name pairs).applyAll changes).Faithful name
        (pairs ++ changes.filterMap Table.Change.value?)
        (changes.filterMap Table.Change.origin?)) ∧
      (∀ name changes, ((Table.empty name).applyAll changes).Faithful name
        (changes.filterMap Table.Change.value?) (changes.filterMap Table.Change.origin?)) ∧
      (∀ arguments, (CommandLine.ofArguments arguments).result.Exact) ∧
      (∀ (reader : EnvironmentReader) env, (reader.read env).result.Exact) ∧
      (∀ values, (EnvironmentReader.ofValues values).Exact) ∧
      ∀ document : Document, document.source.Exact := by
  refine ⟨fun name pairs changes => ?_, fun name changes => ?_, fun arguments => ?_,
    fun reader env => ?_, fun values => ?_, fun document => ?_⟩
  · exact Table.faithful_of_holds (Table.holds_applyAll (Table.holds_ofList name pairs) changes)
  · exact Table.faithful_of_holds (Table.holds_applyAll (Table.holds_empty name) changes)
  · exact CommandLine.exact_source_read arguments
  · exact Source.exact_ofEntries _ _ _ _
  · exact Source.exact_ofEntries _ _ _ _
  · exact Source.exact_ofEntries _ _ _ _

end LayeredConfig
