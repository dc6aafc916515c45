import LayeredConfig.Proofs.Stack.Masking
import LayeredConfig.Proofs.Text.LowerCase

/-!
# Keys that look secret

A key is secret if its lower-case form holds a marker. A longer key that holds a secret one is meant
to be secret too, and so is a key in other letters. Neither is plain from the definition, because
the lower-case form of a part need not be a part of the lower-case form of the whole: a sigma at the
end of a key is lower-cased otherwise than the same sigma in front of more letters. But a marker is
ASCII, so it is found where the pieces of the single characters have it (`infix_lower_iff`), and the
pieces of a key stand among those of every longer one.

* `Line.isSecretKey_iff`: the markers are found among the pieces.
* `secrecy_survives_nesting_and_case`: longer keys and keys in other letters.
-/

namespace LayeredConfig

open Text

namespace Line

theorem markers_ascii : ∀ marker ∈ markers, ∀ c ∈ marker.toList, c.toNat < 128 := by
  simp [markers]

theorem isSecretKey_iff {key : String} :
    isSecretKey key = true ↔ ∃ marker ∈ markers, marker.toList <:+: key.toList.flatMap piece := by
  simp only [isSecretKey, List.any_eq_true, holdsFragment_iff]
  refine exists_congr fun marker => and_congr_right fun hmarker => ?_
  exact infix_lower_iff (markers_ascii marker hmarker)

theorem isSecretKey_append {key : String} (h : isSecretKey key = true) (above below : String) :
    isSecretKey (above ++ key ++ below) = true := by
  obtain ⟨marker, hmarker, hinfix⟩ := isSecretKey_iff.mp h
  refine isSecretKey_iff.mpr ⟨marker, hmarker, hinfix.trans ?_⟩
  rw [String.toList_append, String.toList_append, List.flatMap_append, List.flatMap_append]
  exact List.infix_append _ _ _

theorem flatMap_piece_toLower (key : String) :
    key.toLower.toList.flatMap piece = key.toList.flatMap piece := by
  rw [toList_toLower, List.flatMap_map]
  simp only [piece_toLower]

theorem isSecretKey_of_toLower_eq {key other : String} (h : other.toLower = key.toLower) :
    isSecretKey other = isSecretKey key := by
  rw [Bool.eq_iff_iff, isSecretKey_iff, isSecretKey_iff, ← flatMap_piece_toLower other, h,
    flatMap_piece_toLower]

end Line

/-- **Secrecy survives nesting and the case of letters.** A line whose key holds the key of a secret
line is secret and shown masked, whatever stands around it. Lines whose keys differ in the case of
ASCII letters alone are both secret or both not. -/
theorem secrecy_survives_nesting_and_case :
    (∀ (line other : Line) (above below : String), other.key = above ++ line.key ++ below →
        line.isSecret = true → other.isSecret = true ∧ other.shownValue = "********") ∧
      ∀ line other : Line, other.key.toLower = line.key.toLower →
        other.isSecret = line.isSecret := by
  refine ⟨fun line other above below hkey hsecret => ?_, fun line other hkey => ?_⟩
  · have hother : other.isSecret = true := by
      rw [Line.isSecret, hkey]
      exact Line.isSecretKey_append hsecret above below
    exact ⟨hother, Line.shownValue_of_isSecret hother⟩
  · exact Line.isSecretKey_of_toLower_eq hkey

/-- A sigma that is final in a secret key, but not in a longer one, and not in capitals. -/
theorem secret_with_sigma_stays_secret :
    let line : Line := ⟨"tokenΣ", "hunter2", "table", "table"⟩
    let nested : Line := ⟨"app.tokenΣ.a", "hunter2", "table", "table"⟩
    let loud : Line := ⟨"TOKENΣ", "hunter2", "table", "table"⟩
    nested.key = "app." ++ line.key ++ ".a" ∧ lowered line.key = "tokenς" ∧
      lowered nested.key = "app.tokenσ.a" ∧ line.isSecret = true ∧
      nested.shownValue = "********" ∧ loud.key.toLower = line.key.toLower ∧
      loud.isSecret = true := by
  intro line nested loud
  have hkey : nested.key = "app." ++ line.key ++ ".a" := by decide
  have hsecret : line.isSecret = true := by decide +kernel
  have hcase : loud.key.toLower = line.key.toLower := by
    rw [← String.toList_inj, toList_toLower, toList_toLower]
    decide
  have hnested := secrecy_survives_nesting_and_case.1 line nested "app." ".a" hkey hsecret
  have hloud := secrecy_survives_nesting_and_case.2 line loud hcase
  exact ⟨hkey, by decide +kernel, by decide +kernel, hsecret, hnested.2, hcase,
    hloud.trans hsecret⟩

end LayeredConfig
