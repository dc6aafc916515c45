import LayeredConfig.Source

/-!
# Tables in memory

A table holds values and, apart from them, origins. The origin of a key is the one written last,
or the name of the table. It is told for every key, also for one without a value.
-/

namespace LayeredConfig

/-- Named values with origins. -/
structure Table where
  name : String
  values : Dictionary String
  origins : Dictionary String

namespace Table

def empty (name : String) : Table := ⟨name, .empty, .empty⟩

/-- The table of a list of pairs; the last pair of a key wins. -/
def ofList (name : String) (pairs : List (String × String)) : Table :=
  ⟨name, .ofList pairs, .empty⟩

def withValue (t : Table) (key value : String) : Table :=
  { t with values := t.values.insert key value }

def withOrigin (t : Table) (key origin : String) : Table :=
  { t with origins := t.origins.insert key origin }

def size (t : Table) : Nat := t.values.size

def isEmpty (t : Table) : Bool := t.values.entries.isEmpty

def source (t : Table) : Source where
  name := t.name
  hasKey := t.values.contains
  value := t.values.get?
  origin key := some ((t.origins.get? key).getD t.name)
  keys := t.values.keys

theorem coherent_source (t : Table) : t.source.Coherent where
  hasKey_iff_value _ := Iff.rfl
  hasKey_iff_mem_keys _ := Dictionary.mem_keys.symm
  origin_of_hasKey _ _ := rfl

end Table

end LayeredConfig
