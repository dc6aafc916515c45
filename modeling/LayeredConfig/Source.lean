import LayeredConfig.Dictionary

/-!
# Property sources

A source supplies raw values. It answers four questions about a key, and lists the keys that it
can name. The answers need not fit together: a source may hide keys that it has, list keys that
it lacks, claim a key without a value, or say nothing about origins.

* `Source.Coherent`: the answers of a source that reads them all off one table.
* `Source.coherent_ofEntries`: sources built by `Source.ofEntries` are of that kind.
-/

namespace LayeredConfig

universe u

/-- A supplier of raw values. A source that knows nothing better tells its name as the origin of
every key. -/
structure Source where
  name : String
  hasKey : String → Bool
  value : String → Option String
  origin : String → Option String := fun _ => some name
  keys : KeySet

namespace Source

/-- The origin of a key, or the name of the source where the source tells none. -/
def originOrName (s : Source) (key : String) : String := (s.origin key).getD s.name

/-- A source that reads every answer off one table: `value` and `origin` tell what an entry
means. -/
def ofEntries {α : Type u} (name : String) (entries : Dictionary α) (value : α → String)
    (origin : α → String) : Source where
  name := name
  hasKey := entries.contains
  value key := (entries.get? key).map value
  origin key := (entries.get? key).map origin
  keys := entries.keys

/-- Having a key, having a value for it and listing it are the same, and there is an origin for
every key that the source has. -/
structure Coherent (s : Source) : Prop where
  hasKey_iff_value : ∀ k, s.hasKey k = true ↔ (s.value k).isSome
  hasKey_iff_mem_keys : ∀ k, s.hasKey k = true ↔ k ∈ s.keys
  origin_of_hasKey : ∀ k, s.hasKey k = true → (s.origin k).isSome

theorem coherent_ofEntries {α : Type u} (name : String) (entries : Dictionary α)
    (value : α → String) (origin : α → String) :
    Coherent (ofEntries name entries value origin) where
  hasKey_iff_value k := by simp [ofEntries, Dictionary.contains]
  hasKey_iff_mem_keys k := by simp [ofEntries, Dictionary.mem_keys]
  origin_of_hasKey k := by simp [ofEntries, Dictionary.contains]

end Source

end LayeredConfig
