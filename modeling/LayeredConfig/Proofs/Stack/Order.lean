import LayeredConfig.Proofs.Stack.Validation
import LayeredConfig.Source.Foreign
import LayeredConfig.Stack.Listing

/-!
# The order of sources

All queries see a stack through two things: the winner for each key, and the keys that are listed.
Stacks that are alike in both give the same answers (`Alike.sameAnswers`), so how a query goes about
its work need not be looked at again when a stack is rearranged.

Two neighbours without a common key may trade places: whichever of them has a key, it is the first
of the two to have it. A further copy of a source below the first wins nothing and lists nothing
new. For neither does it matter what the sources list: a source may list the keys of another, or
hide its own.

* `Alike`: one winner for each key, and the same listed keys.
* `Alike.swap`, `Alike.copy`: the two ways of rearranging.
* `SameAnswers`: no query tells two stacks apart.
* `order_matters_only_where_sources_overlap`: stacks rearranged in these ways give the same answers.
-/

namespace LayeredConfig.Stack

/-! ## Stacks that are alike -/

/-- Two stacks with one winner for each key and the same listed keys. -/
structure Alike (stack other : Stack) : Prop where
  winner : ∀ key, stack.winner key = other.winner key
  listedKeys : stack.listedKeys = other.listedKeys

theorem winner_append (stack lower : Stack) (key : String) :
    winner (stack ++ lower) key = (stack.winner key).or (lower.winner key) :=
  List.find?_append

/-- The order of the sources and their copies do not count for what is listed. -/
theorem listedKeys_congr {stack other : Stack} (h : ∀ s, s ∈ stack ↔ s ∈ other) :
    stack.listedKeys = other.listedKeys :=
  KeySet.ext_mem fun key => by simp only [mem_listedKeys, h]

theorem winner_swap {s t : Source} {key : String}
    (h : ¬ (s.hasKey key = true ∧ t.hasKey key = true)) (lower : Stack) :
    winner (s :: t :: lower) key = winner (t :: s :: lower) key := by
  simp only [winner_cons]
  by_cases hs : s.hasKey key = true
  · have ht : ¬ t.hasKey key = true := fun ht => h ⟨hs, ht⟩
    rw [if_pos hs, if_neg ht, if_pos hs]
  · rw [if_neg hs, if_neg hs]

theorem Alike.swap {s t : Source} (h : ∀ key, ¬ (s.hasKey key = true ∧ t.hasKey key = true))
    (higher lower : Stack) : Alike (higher ++ s :: t :: lower) (higher ++ t :: s :: lower) where
  winner key := by rw [winner_append, winner_append, winner_swap (h key)]
  listedKeys := listedKeys_congr fun source => by
    simp only [List.mem_append, List.mem_cons, or_left_comm]

theorem Alike.copy {s : Source} {higher : Stack} (hmem : s ∈ higher) (lower : Stack) :
    Alike (higher ++ lower) (higher ++ s :: lower) where
  winner key := by
    rw [winner_append, winner_append]
    cases hw : higher.winner key with
    | some w => rfl
    | none =>
      -- Nothing above the copy has the key, so the copy does not have it either.
      have hs := winner_eq_none_iff.mp hw s hmem
      rw [winner_cons, if_neg hs]
  listedKeys := listedKeys_congr fun source => by
    simp only [List.mem_append, List.mem_cons]
    constructor
    · rintro (hsource | hsource)
      · exact Or.inl hsource
      · exact Or.inr (Or.inr hsource)
    · rintro (hsource | rfl | hsource)
      · exact Or.inl hsource
      · exact Or.inl hmem
      · exact Or.inr hsource

/-! ## The same answers -/

/-- No query tells the two stacks apart. -/
structure SameAnswers (stack other : Stack) : Prop where
  get : ∀ {α β : Type} (p : Property α β), (stack.get p).result = (other.get p).result
  getLenient : ∀ {α β : Type} (p : Property α β),
    (stack.getLenient p).result = (other.getLenient p).result
  failure : ∀ {α β : Type} (p : Property α β), (stack.failure p).result = (other.failure p).result
  provides : ∀ key, (stack.provides key).result = (other.provides key).result
  sourceName : ∀ key, (stack.sourceName key).result = (other.sourceName key).result
  origin : ∀ key, (stack.origin key).result = (other.origin key).result
  rawValue : ∀ key, (stack.rawValue key).result = (other.rawValue key).result
  keys : stack.keys.result = other.keys.result
  raw : stack.raw.result = other.raw.result
  rawForKeys : ∀ wanted, (stack.rawForKeys wanted).result = (other.rawForKeys wanted).result
  rawMatching : ∀ p, (stack.rawMatching p).result = (other.rawMatching p).result
  rawFamily : ∀ family, (stack.rawFamily family).result = (other.rawFamily family).result
  validate : ∀ requirements,
    (stack.validate requirements).result = (other.validate requirements).result
  listing : stack.listing.result = other.listing.result

namespace Alike

variable {stack other : Stack}

theorem parsed {α β : Type} (h : Alike stack other) (p : Property α β) :
    (stack.parsed p).result = (other.parsed p).result := by
  rw [result_parsed, result_parsed, h.winner]

theorem refusal {α : Type} (h : Alike stack other) (key : String)
    (parse : String → Except ParseFailure α) :
    stack.refusal key parse = other.refusal key parse := by
  rw [Stack.refusal, Stack.refusal, h.winner]

theorem rawValue (h : Alike stack other) (key : String) :
    (stack.rawValue key).result = (other.rawValue key).result := by
  rw [result_rawValue, result_rawValue, h.winner]

theorem raw (h : Alike stack other) : stack.raw.result = other.raw.result := by
  simp only [result_raw, h.listedKeys, h.rawValue]

theorem rawMatching (h : Alike stack other) (p : String → Bool) :
    (stack.rawMatching p).result = (other.rawMatching p).result :=
  Dictionary.ext_get? fun key => by rw [get?_rawMatching, get?_rawMatching, h.raw]

theorem rawFamily (h : Alike stack other) (family : Family) :
    (stack.rawFamily family).result = (other.rawFamily family).result := by
  simp only [Stack.rawFamily, Logged.result_bind, Logged.result_pure, h.raw]

theorem sameAnswers (h : Alike stack other) : SameAnswers stack other where
  get p := by rw [result_get, result_get, h.parsed]
  getLenient p := by rw [result_getLenient, result_getLenient, h.parsed]
  failure p := by rw [result_failure, result_failure, h.parsed]
  provides key := by rw [result_provides_eq_isSome, result_provides_eq_isSome, h.winner]
  sourceName key := by rw [result_sourceName, result_sourceName, h.winner]
  origin key := by rw [result_origin, result_origin, h.winner]
  rawValue := h.rawValue
  keys := h.listedKeys
  raw := h.raw
  rawForKeys _ := h.rawMatching _
  rawMatching := h.rawMatching
  rawFamily := h.rawFamily
  validate requirements := by simp only [result_validate, h.refusal]
  listing := by simp only [result_listing, h.listedKeys, h.winner]

end Alike

/-- **Order matters only where sources overlap.** Two neighbours that have no key in common may
trade places, and a source may be added once more anywhere below itself; no query tells the
difference, whatever the sources list. -/
theorem order_matters_only_where_sources_overlap (higher lower : Stack) (s t : Source) :
    ((∀ key, ¬ (s.hasKey key = true ∧ t.hasKey key = true)) →
        SameAnswers (higher ++ [s, t] ++ lower) (higher ++ [t, s] ++ lower)) ∧
      (s ∈ higher → SameAnswers (higher ++ lower) (higher ++ s :: lower)) := by
  constructor
  · intro h
    have halike := Alike.swap h higher lower
    rw [List.append_assoc, List.append_assoc]
    exact halike.sameAnswers
  · intro hmem
    exact (Alike.copy hmem lower).sameAnswers

/-- A source that has every key below `live` and lists nothing. -/
def discreet : Source := Foreign.echo "discreet" "live."

/-- A source that has `host` and lists `live.port` instead. -/
def misleading : Source :=
  Foreign.source
    ⟨"misleading", .ofList [("host", "localhost")], .empty, .empty, some (.ofKeys ["live.port"])⟩

theorem discreet_and_misleading_may_trade_places :
    (∀ key, ¬ (discreet.hasKey key = true ∧ misleading.hasKey key = true)) ∧
      SameAnswers [discreet, misleading] [misleading, discreet] ∧
      discreet ∈ [discreet] ∧
      SameAnswers [discreet, misleading] [discreet, discreet, misleading] := by
  have hdisjoint : ∀ key, ¬ (discreet.hasKey key = true ∧ misleading.hasKey key = true) := by
    rintro key ⟨hlive, hhost⟩
    rcases (Bool.or_eq_true _ _).mp hhost with hvalue | hvalueless
    · obtain ⟨pair, hpair, rfl⟩ := Dictionary.contains_ofList.mp hvalue
      rw [List.mem_singleton.mp hpair] at hlive
      exact absurd hlive (by decide)
    · cases hvalueless
  have hmem : discreet ∈ [discreet] := List.mem_singleton_self discreet
  have hswap := (order_matters_only_where_sources_overlap [] [] discreet misleading).1 hdisjoint
  have hcopy :=
    (order_matters_only_where_sources_overlap [discreet] [misleading] discreet misleading).2 hmem
  exact ⟨hdisjoint, hswap, hmem, hcopy⟩

end LayeredConfig.Stack
