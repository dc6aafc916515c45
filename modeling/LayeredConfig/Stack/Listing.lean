import LayeredConfig.Stack.Raw
import LayeredConfig.Text.Case

/-!
# The diagnostic listing

The listing shows every listed key that resolves to a value, with the source and the origin of
the value. Values of keys that look secret are shown masked.

* `Stack.result_listing`, `Stack.mem_listing`: which lines the listing has, and in which order.
-/

namespace LayeredConfig

open Text

/-- A line of the listing. -/
structure Line where
  key : String
  value : String
  source : String
  origin : String
deriving DecidableEq, Repr

namespace Line

/-- What is shown in place of a secret value. -/
def mask : String := "********"

/-- Fragments that mark a key as secret, in lower case. -/
def markers : List String := ["password", "secret", "token", "api.key", "apikey", "credential"]

/-- Whether a key looks secret: its lower-case form holds a marker. -/
def isSecretKey (key : String) : Bool :=
  let key := lower key.toList
  markers.any fun marker => holdsFragment marker.toList key

def isSecret (l : Line) : Bool := isSecretKey l.key

/-- The value as it may be shown. -/
def shownValue (l : Line) : String := if l.isSecret then mask else l.value

/-- The line with its value as it may be shown. -/
def masked (l : Line) : Line := { l with value := l.shownValue }

/-- The written line. The origin stands after the source where the two differ. -/
def write (l : Line) : String :=
  let provenance := if l.origin = l.source then l.source else l.source ++ ": " ++ l.origin
  l.key ++ " = " ++ l.shownValue ++ " [" ++ provenance ++ "]"

end Line

/-- The lines of the listing, in increasing order of the keys. -/
def Stack.listing (stack : Stack) : Logged (List Line) := do
  let keys ← stack.keys
  let found ← Logged.forEach
    (fun key => do
      return (← stack.resolve key).bind fun found =>
        found.value.map fun value =>
          Line.mk key value found.source.name (found.source.originOrName key))
    keys.toList
  return found.filterMap id

theorem Stack.result_listing (stack : Stack) :
    stack.listing.result = stack.listedKeys.toList.filterMap fun key =>
      (stack.winner key).bind fun w =>
        (w.value key).map fun value => Line.mk key value w.name (w.originOrName key) := by
  simp only [listing, Logged.result_bind, Logged.result_pure, Logged.result_forEach,
    List.filterMap_map, Function.comp_def, id_eq, result_keys, result_resolve, Option.bind_map]

theorem Stack.mem_listing {stack : Stack} {line : Line} :
    line ∈ stack.listing.result ↔
      line.key ∈ stack.listedKeys ∧ ∃ w, stack.winner line.key = some w ∧
        w.value line.key = some line.value ∧ line.source = w.name ∧
        line.origin = w.originOrName line.key := by
  obtain ⟨key, value, source, origin⟩ := line
  simp only [result_listing, List.mem_filterMap, KeySet.mem_toList, Option.bind_eq_some_iff,
    Option.map_eq_some_iff, Line.mk.injEq]
  constructor
  · rintro ⟨k, hk, w, hw, v, hv, rfl, rfl, rfl, rfl⟩
    exact ⟨hk, w, hw, hv, rfl, rfl⟩
  · rintro ⟨hk, w, hw, hv, rfl, rfl⟩
    exact ⟨key, hk, w, hw, value, hv, rfl, rfl, rfl, rfl⟩

end LayeredConfig
