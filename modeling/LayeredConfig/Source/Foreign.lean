import LayeredConfig.Source
import LayeredConfig.Text.Case
import LayeredConfig.Text.Pieces

/-!
# Foreign sources

Sources whose answers do not fit together: they hide keys or list keys that they lack, claim keys
without a value, tell no origin, or compute values instead of storing them.
-/

namespace LayeredConfig

/-- A source given by its parts. Without `listed` it lists the keys that it claims; an origin is
told only for keys that have one here. -/
structure Foreign where
  name : String
  values : Dictionary String
  valueless : KeySet
  origins : Dictionary String
  listed : Option KeySet

namespace Foreign

def source (f : Foreign) : Source where
  name := f.name
  hasKey key := f.values.contains key || f.valueless.contains key
  value := f.values.get?
  origin := f.origins.get?
  keys := f.listed.getD (f.values.keys.union f.valueless)

/-- A source that claims a key, without a value and without listing it. -/
def claimant (key : String) : Source :=
  source ⟨"claimant", .empty, .ofKeys [key], .empty, some .empty⟩

/-- A source that has every key with a given start, lists none of them, and takes the rest of the
key, upper-cased, for the value. -/
def echo (name start : String) : Source where
  name := name
  hasKey key := Text.startsWith start.toList key.toList
  value key := (Text.stripStart start.toList key.toList).map fun rest =>
    Text.asciiUpper (String.ofList rest)
  keys := Dictionary.empty

end Foreign

end LayeredConfig
