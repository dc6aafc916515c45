import LayeredConfig.Proofs.Source.Snapshot
import LayeredConfig.Proofs.Text.LowerCase

/-!
# Names of variables

By the usual convention a key is spelled as a variable name in capitals, with underscores for its
dots, behind the stem: `server.port` as `SERVER_PORT`. The name is read back by taking the stem
away, lower-casing the rest and putting dots for underscores, in this order. The stem is gone before
the rest is lower-cased, so it can be any text.

Other names give the same key, and lower-casing reads more than the capitals of ASCII. The Kelvin
sign becomes `k`, `İ` becomes `i` with a dot above, and letters of other alphabets become small
letters. None of them becomes a capital of ASCII or an underscore, though, so that a key with one of
these is not given by any name.

* `EnvironmentReader.keyOf_variableName`: what is spelled is read back.
* `EnvironmentReader.not_outOfReach_of_keyOf`: what no key has that is read.
* `EnvironmentReader.convention_reads_back_what_it_spells`: both, and what it means for sources.
-/

namespace LayeredConfig.EnvironmentReader

open Text

/-- A key as the name of a variable, without the stem. -/
def variableName (key : String) : String := key.toUpper.map fun c => if c = '.' then '_' else c

/-- A character that the convention leaves to no key: an underscore or a capital of ASCII. -/
def OutOfReach (c : Char) : Prop := c = '_' ∨ ('A' ≤ c ∧ c ≤ 'Z')

instance : DecidablePred OutOfReach := fun _ => inferInstanceAs (Decidable (_ ∨ _))

/-! ## There and back -/

/-- The character of a name for a character of a key. -/
def spelled (c : Char) : Char := if c.toUpper = '.' then '_' else c.toUpper

theorem toList_variableName (key : String) :
    (variableName key).toList = key.toList.map spelled := by
  rw [variableName, String.toList_map, String.toUpper, String.toList_map, List.map_map]
  rfl

theorem ascii_spelled {c : Char} (h : c.toNat < 128) : (spelled c).toNat < 128 := by
  unfold spelled
  split
  · decide
  · rw [toNat_toUpper]
    split <;> omega

/-- Lower case first, then the dot: an underscore on the way back can only come from a dot. -/
theorem dotted_toLower_spelled {c : Char} (h : ¬ OutOfReach c) :
    (if (spelled c).toLower = '_' then '.' else (spelled c).toLower) = c := by
  obtain ⟨hunderscore, hcapital⟩ := not_or.mp h
  have hrange : ¬ (65 ≤ c.toNat ∧ c.toNat ≤ 90) := hcapital
  have hne : c.toNat ≠ 95 := fun heq => hunderscore (Char.toNat_inj.mp heq)
  unfold spelled
  by_cases hdot : c.toUpper = '.'
  · have hc : c = '.' := by
      have hcode : c.toUpper.toNat = 46 := congrArg Char.toNat hdot
      rw [toNat_toUpper] at hcode
      refine Char.toNat_inj.mp ?_
      show c.toNat = 46
      split at hcode <;> omega
    subst hc
    rfl
  · rw [if_neg hdot]
    have hback : c.toUpper.toLower = c := by
      rw [← Char.toNat_inj, toNat_toLower, toNat_toUpper]
      by_cases hsmall : 97 ≤ c.toNat ∧ c.toNat ≤ 122
      · rw [if_pos hsmall, if_pos (by omega)]
        omega
      · rw [if_neg hsmall, if_neg hrange]
    rw [hback, if_neg hunderscore]

theorem keyOfRest_variableName {stem : Option String} {key : String}
    (h : ∀ c ∈ key.toList, c.toNat < 128 ∧ ¬ OutOfReach c) :
    (conventional stem).keyOfRest (variableName key) = key := by
  have hascii : ∀ c ∈ (variableName key).toList, c.toNat < 128 := by
    intro c hc
    rw [toList_variableName] at hc
    obtain ⟨d, hd, rfl⟩ := List.mem_map.mp hc
    exact ascii_spelled (h d hd).1
  have hback : ((lower (variableName key).toList).map fun c => if c = '_' then '.' else c) =
      key.toList := by
    rw [lower_of_ascii hascii, toList_variableName, List.map_map, List.map_map]
    refine (List.map_congr_left fun c hc => ?_).trans (List.map_id key.toList)
    exact dotted_toLower_spelled (h c hc).2
  rw [← String.ofList_toList (s := variableName key), keyOfRest_ofList, ← String.toList_inj,
    String.toList_ofList]
  exact hback

theorem keyOf_variableName {stem : Option String} {key : String}
    (h : ∀ c ∈ key.toList, c.toNat < 128 ∧ ¬ OutOfReach c) :
    (conventional stem).keyOf (stem.getD "" ++ variableName key) = some key :=
  keyOf_eq_some_iff.mpr ⟨variableName key, rfl, keyOfRest_variableName h⟩

/-! ## Out of reach -/

theorem not_outOfReach_of_keyOf {stem : Option String} {name key : String}
    (h : (conventional stem).keyOf name = some key) : ∀ c ∈ key.toList, ¬ OutOfReach c := by
  obtain ⟨rest, -, hkey⟩ := keyOf_eq_some_iff.mp h
  rw [← String.ofList_toList (s := rest), keyOfRest_ofList] at hkey
  subst hkey
  intro c hc
  rw [String.toList_ofList] at hc
  obtain ⟨d, hd, rfl⟩ := List.mem_map.mp hc
  by_cases hunderscore : d = '_'
  · rw [if_pos hunderscore]
    decide
  · rw [if_neg hunderscore]
    exact not_or.mpr ⟨hunderscore, not_capital_of_mem_lower hd⟩

theorem not_eligible_of_outOfReach {stem : Option String} {key : String} {c : Char}
    (hc : c ∈ key.toList) (hout : OutOfReach c) (v : Variable) :
    ¬ (conventional stem).Eligible key v := by
  rintro ⟨name, value, hprovides⟩
  exact not_outOfReach_of_keyOf (keyOf_eq_some_iff.mpr hprovides.key_of_rest) c hc hout

/-- **The convention reads back what it spells, and its reach ends at underscores and capitals.** An
ASCII key without these is spelled by a name that gives it back, behind any stem. A key that is read
from a name, whatever the name holds, is without them, and so no environment provides one that has
them. -/
theorem convention_reads_back_what_it_spells (stem : Option String) :
    (∀ key : String, (∀ c ∈ key.toList, c.toNat < 128 ∧ c ≠ '_' ∧ ¬ ('A' ≤ c ∧ c ≤ 'Z')) →
        (conventional stem).keyOf (stem.getD "" ++ variableName key) = some key) ∧
      (∀ name key : String, (conventional stem).keyOf name = some key →
        ∀ c ∈ key.toList, c ≠ '_' ∧ ¬ ('A' ≤ c ∧ c ≤ 'Z')) ∧
      ∀ (env : Environment) (key : String),
        (∃ c ∈ key.toList, c = '_' ∨ ('A' ≤ c ∧ c ≤ 'Z')) →
          let source := ((conventional stem).read env).result
          source.hasKey key = false ∧ source.value key = none ∧ source.origin key = none ∧
            key ∉ source.keys := by
  refine ⟨fun key hkey => ?_, fun name key hread c hc => ?_, ?_⟩
  · exact keyOf_variableName fun c hc => ⟨(hkey c hc).1, not_or.mpr (hkey c hc).2⟩
  · exact not_or.mp (not_outOfReach_of_keyOf hread c hc)
  · rintro env key ⟨c, hc, hout⟩ source
    have hcoherent : source.Coherent := Source.coherent_ofEntries _ _ _ _
    have hlacks : ¬ source.hasKey key = true := by
      intro hhas
      obtain ⟨v, -, heligible⟩ := contains_snapshot.mp hhas
      exact not_eligible_of_outOfReach hc hout v heligible
    have hentry : ((conventional stem).snapshot env).get? key = none :=
      Option.not_isSome_iff_eq_none.mp hlacks
    refine ⟨Bool.eq_false_iff.mpr hlacks, ?_, ?_, ?_⟩
    · exact Option.map_eq_none_iff.mpr hentry
    · exact Option.map_eq_none_iff.mpr hentry
    · exact fun hmem => hlacks ((hcoherent.hasKey_iff_mem_keys key).mpr hmem)

/-- A name spelled behind a stem of its own case, and one that the Kelvin sign leads to an ASCII
key. -/
theorem port_is_spelled_and_kelvin_reaches_no_capital :
    let reader := conventional (some "App_")
    reader.keyOf "App_SERVER_PORT-2" = some "server.port-2" ∧
      reader.keyOf "App_TO\u212AEN" = some "token" ∧ 'K' ∉ "token".toList ∧
      (reader.read [⟨"App_TO\u212AEN".toUTF8, "x".toUTF8⟩]).result.hasKey "toKen" = false := by
  intro reader
  have hread : reader.keyOf "App_TO\u212AEN" = some "token" := by decide +kernel
  obtain ⟨hspelled, hreach, hprovided⟩ := convention_reads_back_what_it_spells (some "App_")
  refine ⟨?_, hread, fun h => (hreach _ _ hread 'K' h).2 (by decide), ?_⟩
  · have hname : "App_SERVER_PORT-2" = "App_" ++ variableName "server.port-2" := by decide +kernel
    rw [hname]
    exact hspelled "server.port-2" (by simp)
  · exact (hprovided _ "toKen" ⟨'K', by decide, by decide⟩).1

end LayeredConfig.EnvironmentReader
