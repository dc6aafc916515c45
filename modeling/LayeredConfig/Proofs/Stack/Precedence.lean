import LayeredConfig.Proofs.Stack.Access
import LayeredConfig.Proofs.Stack.Validation
import LayeredConfig.Source.Foreign
import LayeredConfig.Source.Table
import LayeredConfig.Stack.Listing
import LayeredConfig.Stack.Raw

/-!
# One winner for every query

The first source that has a key answers every query about it. This holds for sources of any kind,
also for those that hide keys, have keys without values, or tell no origin: a missing or refused
value of the winner is never made up for by a lower source.

* `silent_of_winner`: nothing is told about a key that no source has.
* `governed_of_winner`: whatever is told about a key is told by its winner.
* `winner_governs_every_query`: the two together.
-/

namespace LayeredConfig.Stack

/-! ## What the queries tell about one key -/

/-- No query tells anything about the key. -/
structure Silent (stack : Stack) (key : String) : Prop where
  provides : (stack.provides key).result = false
  sourceName : (stack.sourceName key).result = none
  origin : (stack.origin key).result = none
  rawValue : (stack.rawValue key).result = none
  raw : stack.raw.result.get? key = none
  listing : ∀ line ∈ stack.listing.result, line.key ≠ key

/-- Every query about the key tells what `w` says. A view of several keys has an entry for this
one only if some source lists it. -/
structure Governed (stack : Stack) (key : String) (w : Source) : Prop where
  provides : (stack.provides key).result = true
  sourceName : (stack.sourceName key).result = some w.name
  origin : (stack.origin key).result = some ((w.origin key).getD w.name)
  rawValue : (stack.rawValue key).result = w.value key
  strict : ∀ {α β : Type} (p : Property α β), p.key = key → ∀ err,
    (stack.get p).result = .error err ↔
      err.key = key ∧ err.sourceName = w.name ∧
        ∃ raw, w.value key = some raw ∧ p.parser.parse raw = .error err.failure
  lenient : ∀ {α β : Type} (p : Property α β), p.key = key →
    (stack.getLenient p).result =
      ((w.value key).bind fun raw => (p.parser.parse raw).toOption).elim p.whenMissing
        p.whenPresent
  failure : ∀ {α β : Type} (p : Property α β), p.key = key → ∀ e,
    (stack.failure p).result = some e ↔
      ∃ raw, w.value key = some raw ∧ p.parser.parse raw = .error e
  raw : ∀ value, stack.raw.result.get? key = some value ↔
    (∃ s ∈ stack, key ∈ s.keys) ∧ w.value key = some value
  rawMatching : ∀ (p : String → Bool) value,
    (stack.rawMatching p).result.get? key = some value ↔
      p key = true ∧ (∃ s ∈ stack, key ∈ s.keys) ∧ w.value key = some value
  rawForKeys : ∀ (wanted : List String) value,
    (stack.rawForKeys wanted).result.get? key = some value ↔
      key ∈ wanted ∧ (∃ s ∈ stack, key ∈ s.keys) ∧ w.value key = some value
  listing : ∀ line : Line, line.key = key →
    (line ∈ stack.listing.result ↔
      (∃ s ∈ stack, key ∈ s.keys) ∧ w.value key = some line.value ∧ line.source = w.name ∧
        line.origin = (w.origin key).getD w.name)
  validate : ∀ (requirements : List Requirement) (err : InvalidProperty), err.key = key →
    (err ∈ (stack.validate requirements).result.failures ↔
      err.sourceName = w.name ∧ ∃ r ∈ requirements, r.key = key ∧
        ∃ raw, w.value key = some raw ∧ r.check raw = .error err.failure)

/-! ## No winner -/

theorem silent_of_winner {stack : Stack} {key : String} (h : stack.winner key = none) :
    stack.Silent key where
  provides := by rw [result_provides_eq_isSome, h]; rfl
  sourceName := by rw [result_sourceName, h]; rfl
  origin := by rw [result_origin, h]; rfl
  rawValue := by rw [result_rawValue, h]; rfl
  raw := by
    rw [get?_raw, result_rawValue, h]
    exact ite_self none
  listing line hline hkey := by
    obtain ⟨-, w, hw, -⟩ := mem_listing.mp hline
    rw [hkey, h] at hw
    cases hw

/-! ## The winner -/

theorem get_eq_error_iff_of_winner {α β : Type} {stack : Stack} {w : Source} {p : Property α β}
    (h : stack.winner p.key = some w) (err : InvalidProperty) :
    (stack.get p).result = .error err ↔
      err.key = p.key ∧ err.sourceName = w.name ∧
        ∃ raw, w.value p.key = some raw ∧ p.parser.parse raw = .error err.failure := by
  rw [get_eq_error_iff, refusal_eq_some_iff, exists_winner_iff h]

theorem failure_eq_some_iff_of_winner {α β : Type} {stack : Stack} {w : Source}
    {p : Property α β} (h : stack.winner p.key = some w) (e : ParseFailure) :
    (stack.failure p).result = some e ↔
      ∃ raw, w.value p.key = some raw ∧ p.parser.parse raw = .error e := by
  rw [failure_eq_some_iff, exists_winner_iff h]

theorem get?_raw_of_winner {stack : Stack} {key : String} {w : Source}
    (h : stack.winner key = some w) (value : String) :
    stack.raw.result.get? key = some value ↔
      (∃ s ∈ stack, key ∈ s.keys) ∧ w.value key = some value := by
  rw [get?_raw_eq_some_iff, mem_listedKeys, rawValue_of_winner h]

theorem mem_listing_of_winner {stack : Stack} {line : Line} {w : Source}
    (h : stack.winner line.key = some w) :
    line ∈ stack.listing.result ↔
      (∃ s ∈ stack, line.key ∈ s.keys) ∧ w.value line.key = some line.value ∧
        line.source = w.name ∧ line.origin = (w.origin line.key).getD w.name := by
  rw [mem_listing, mem_listedKeys, exists_winner_iff h]
  rfl

theorem mem_failures_of_winner {stack : Stack} {w : Source} {err : InvalidProperty}
    (h : stack.winner err.key = some w) (requirements : List Requirement) :
    err ∈ (stack.validate requirements).result.failures ↔
      err.sourceName = w.name ∧ ∃ r ∈ requirements, r.key = err.key ∧
        ∃ raw, w.value err.key = some raw ∧ r.check raw = .error err.failure := by
  rw [result_validate]
  simp only [List.mem_filterMap, refusal_eq_some_iff]
  constructor
  · rintro ⟨r, hr, hkey, hfound⟩
    rw [← hkey, exists_winner_iff h] at hfound
    obtain ⟨hname, raw, hv, hp⟩ := hfound
    exact ⟨hname, r, hr, hkey.symm, raw, hv, hp⟩
  · rintro ⟨hname, r, hr, hkey, raw, hv, hp⟩
    refine ⟨r, hr, hkey.symm, ?_⟩
    rw [hkey, exists_winner_iff h]
    exact ⟨hname, raw, hv, hp⟩

theorem governed_of_winner {stack : Stack} {key : String} {w : Source}
    (h : stack.winner key = some w) : stack.Governed key w where
  provides := by rw [result_provides_eq_isSome, h]; rfl
  sourceName := by rw [result_sourceName, h]; rfl
  origin := by rw [result_origin, h]; rfl
  rawValue := rawValue_of_winner h
  strict p hkey err := by
    subst hkey
    exact get_eq_error_iff_of_winner h err
  lenient p hkey := by
    subst hkey
    rw [result_getLenient_eq, rawValue_of_winner h]
  failure p hkey e := by
    subst hkey
    exact failure_eq_some_iff_of_winner h e
  raw := get?_raw_of_winner h
  rawMatching p value := by
    rw [get?_rawMatching, ← get?_raw_of_winner h]
    split <;> simp [*]
  rawForKeys wanted value := by
    rw [get?_rawForKeys, ← get?_raw_of_winner h]
    split <;> simp [*]
  listing line hkey := by
    subst hkey
    exact mem_listing_of_winner h
  validate requirements err hkey := by
    subst hkey
    exact mem_failures_of_winner h requirements

/-- **One winner governs every query.** If no source has the key, nothing is told about it;
otherwise the first source that has it is the only one that is heard. -/
theorem winner_governs_every_query (stack : Stack) (key : String) :
    match stack.find? (·.hasKey key) with
    | none => stack.Silent key
    | some w => stack.Governed key w := by
  split
  · rename_i h
    exact silent_of_winner h
  · rename_i w h
    exact governed_of_winner h

theorem claimant_governs_key_listed_below :
    Governed [Foreign.claimant "port", (Table.ofList "defaults" [("port", "80")]).source] "port"
      (Foreign.claimant "port") :=
  winner_governs_every_query
    [Foreign.claimant "port", (Table.ofList "defaults" [("port", "80")]).source] "port"

end LayeredConfig.Stack
