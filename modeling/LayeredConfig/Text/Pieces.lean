/-!
# Pieces of a text

Cutting a text at every occurrence of a character, at the first one only, after a given
beginning, and looking for a fragment.

* `pieces_append`: the pieces of `a`, the delimiter and `b` are those of `a` followed by those
  of `b`.
* `pieces_join`: joined texts are cut where they were put together.
* `cutAt_eq_some_iff`: the text is cut at its first delimiter.
* `stripStart_eq_some_iff`: what is left after a beginning is the text without it.
* `holdsFragment_iff`: a fragment is found exactly when the text has the form `a ++ f ++ b`.
-/

namespace LayeredConfig.Text

/-- The pieces between the occurrences of a character: one more than there are occurrences. -/
def pieces (delimiter : Char) : List Char → List (List Char)
  | [] => [[]]
  | c :: s =>
    if c = delimiter then [] :: pieces delimiter s
    else match pieces delimiter s with
      | [] => [[c]]
      | p :: ps => (c :: p) :: ps

/-- Splits at the first occurrence of a character. -/
def cutAt (delimiter : Char) : List Char → Option (List Char × List Char)
  | [] => none
  | c :: s =>
    if c = delimiter then some ([], s)
    else (cutAt delimiter s).map fun p => (c :: p.1, p.2)

/-- What follows a given beginning. -/
def stripStart : List Char → List Char → Option (List Char)
  | [], s => some s
  | _ :: _, [] => none
  | b :: bs, c :: s => if b = c then stripStart bs s else none

/-- Whether the text starts with the fragment. -/
def startsWith (fragment s : List Char) : Bool := (stripStart fragment s).isSome

/-- Whether the fragment stands somewhere in the text. -/
def holdsFragment (fragment : List Char) : List Char → Bool
  | [] => fragment.isEmpty
  | c :: s => startsWith fragment (c :: s) || holdsFragment fragment s

/-- Puts a separator between texts. -/
def join (separator : String) (texts : List String) : String := separator.intercalate texts

/-! ## Laws -/

theorem pieces_ne_nil (d : Char) (s : List Char) : pieces d s ≠ [] := by
  cases s with
  | nil => simp [pieces]
  | cons c s =>
    unfold pieces
    split
    · simp
    · split <;> simp

theorem pieces_append (d : Char) (a b : List Char) :
    pieces d (a ++ d :: b) = pieces d a ++ pieces d b := by
  induction a with
  | nil => simp [pieces]
  | cons c a ih =>
    by_cases h : c = d
    · simp [pieces, h, ih]
    · simp only [List.cons_append, pieces, h, if_false, ih]
      cases hp : pieces d a with
      | nil => exact absurd hp (pieces_ne_nil d a)
      | cons p ps => simp

theorem pieces_eq_singleton {d : Char} {s : List Char} (h : d ∉ s) : pieces d s = [s] := by
  induction s with
  | nil => rfl
  | cons c s ih =>
    have hc : c ≠ d := fun e => h (e ▸ List.mem_cons_self)
    simp [pieces, hc, ih fun hm => h (List.mem_cons_of_mem _ hm)]

/-- Texts without the delimiter are the pieces of what they are joined to. -/
theorem pieces_join {d : Char} {texts : List String} (hne : texts ≠ [])
    (h : ∀ t ∈ texts, d ∉ t.toList) :
    pieces d (join (String.singleton d) texts).toList = texts.map String.toList := by
  induction texts with
  | nil => exact absurd rfl hne
  | cons t rest ih =>
    obtain ⟨ht, hrest⟩ := List.forall_mem_cons.mp h
    cases rest with
    | nil =>
      rw [join, String.intercalate_singleton, pieces_eq_singleton ht]
      rfl
    | cons u more =>
      have hjoin : (join (String.singleton d) (t :: u :: more)).toList =
          t.toList ++ d :: (join (String.singleton d) (u :: more)).toList := by
        simp [join, String.intercalate_cons_cons, String.toList_append]
      rw [hjoin, pieces_append, pieces_eq_singleton ht, ih (List.cons_ne_nil _ _) hrest]
      rfl

theorem not_mem_of_mem_pieces {d : Char} {s p : List Char} (h : p ∈ pieces d s) : d ∉ p := by
  induction s generalizing p with
  | nil => simp [pieces] at h; simp [h]
  | cons c s ih =>
    unfold pieces at h
    split at h
    · rcases List.mem_cons.1 h with h | h
      · simp [h]
      · exact ih h
    · rename_i hc
      split at h
      · simp at h; subst h; simpa using fun e => hc e.symm
      · rename_i q qs hq
        rcases List.mem_cons.1 h with h | h
        · subst h
          have := ih (p := q) (by simp [hq])
          intro hm
          rcases List.mem_cons.1 hm with hm | hm
          · exact hc hm.symm
          · exact this hm
        · exact ih (by simp [hq, h])

theorem cutAt_append {d : Char} {a b : List Char} (h : d ∉ a) :
    cutAt d (a ++ d :: b) = some (a, b) := by
  induction a with
  | nil => simp [cutAt]
  | cons c a ih =>
    have hc : c ≠ d := fun e => h (e ▸ List.mem_cons_self)
    simp [cutAt, hc, ih fun hm => h (List.mem_cons_of_mem _ hm)]

theorem cutAt_eq_some_iff {d : Char} {s a b : List Char} :
    cutAt d s = some (a, b) ↔ d ∉ a ∧ s = a ++ d :: b := by
  constructor
  · intro h
    induction s generalizing a with
    | nil => cases h
    | cons c s ih =>
      unfold cutAt at h
      split at h
      · rename_i hc
        cases h
        exact ⟨List.not_mem_nil, by rw [hc, List.nil_append]⟩
      · rename_i hc
        obtain ⟨⟨first, rest⟩, hcut, heq⟩ := Option.map_eq_some_iff.mp h
        cases heq
        obtain ⟨hfirst, rfl⟩ := ih hcut
        refine ⟨?_, rfl⟩
        rw [List.mem_cons, not_or]
        exact ⟨Ne.symm hc, hfirst⟩
  · rintro ⟨ha, rfl⟩
    exact cutAt_append ha

theorem cutAt_eq_none_iff {d : Char} {s : List Char} : cutAt d s = none ↔ d ∉ s := by
  induction s with
  | nil => simp [cutAt]
  | cons c s ih =>
    unfold cutAt
    split
    · rename_i h; simp [h]
    · rename_i h
      simp only [Option.map_eq_none_iff, ih, List.mem_cons, not_or]
      exact ⟨fun hs => ⟨fun e => h e.symm, hs⟩, fun hs => hs.2⟩

theorem stripStart_eq_some_iff {b s r : List Char} : stripStart b s = some r ↔ s = b ++ r := by
  induction b generalizing s with
  | nil => simp [stripStart]
  | cons x b ih =>
    cases s with
    | nil => simp [stripStart]
    | cons c s =>
      unfold stripStart
      split
      · rename_i h; simp [h, ih]
      · rename_i h; simp [Ne.symm h]

theorem startsWith_iff {f s : List Char} : startsWith f s = true ↔ f <+: s := by
  rw [startsWith, Option.isSome_iff_exists]
  simp only [stripStart_eq_some_iff]
  exact ⟨fun ⟨r, h⟩ => ⟨r, h.symm⟩, fun ⟨r, h⟩ => ⟨r, h.symm⟩⟩

theorem holdsFragment_iff {f s : List Char} : holdsFragment f s = true ↔ f <:+: s := by
  induction s with
  | nil => simp [holdsFragment]
  | cons c s ih =>
    rw [holdsFragment, Bool.or_eq_true, ih, startsWith_iff, List.infix_cons_iff]

end LayeredConfig.Text
