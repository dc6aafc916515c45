import LayeredConfig.Stack.Listing
import Mathlib.Data.List.Forall2

/-!
# Masked listings tell no secrets

The listing holds the values of secret keys as they are; they are masked only when a line is shown.
That nothing of them gets out is a statement about two stacks: if they differ in the values of
secret keys and in nothing else, they are shown alike.

Two things have to be ruled out. The text of a line might depend on the value in another way than
by showing it; but what is shown of a line is shown of its masked copy (`Line.write_masked`). And
the value of one key might decide which source wins, or which lines there are. It does not: the
winner goes by `hasKey`, and a line is left out only where the winner has no value, which the two
stacks have in common (`map_masked_listing`).

* `Source.AlikeButForSecrets`: two sources that differ in the values of secret keys at most.
* `Line.masked_masked`, `Line.write_masked`: masking twice is masking once, and does not show.
* `rel_winner`, `listedKeys_eq`: the winners and the listed keys of two such stacks.
* `secrets_never_reach_the_listing`: what is shown of two such stacks is the same.
-/

namespace LayeredConfig

/-! ## Masked lines -/

namespace Line

theorem shownValue_of_isSecret {l : Line} (h : l.isSecret = true) : l.shownValue = mask := if_pos h

theorem shownValue_of_not_isSecret {l : Line} (h : l.isSecret = false) :
    l.shownValue = l.value := by
  rw [shownValue, h]
  rfl

theorem shownValue_masked (l : Line) : l.masked.shownValue = l.shownValue := by
  cases h : l.isSecret with
  | true =>
    have hmasked : l.masked.isSecret = true := h
    rw [shownValue_of_isSecret hmasked, shownValue_of_isSecret h]
  | false =>
    have hmasked : l.masked.isSecret = false := h
    rw [shownValue_of_not_isSecret hmasked]
    rfl

theorem masked_masked (l : Line) : l.masked.masked = l.masked := by
  rw [masked, shownValue_masked]
  rfl

/-- What is written of a line can be written of its masked copy. -/
theorem write_masked (l : Line) : l.masked.write = l.write := by
  simp only [write, shownValue_masked]
  rfl

/-- Lines of one key from one place have one masked copy if the key is secret. -/
theorem masked_eq_of_isSecretKey {key : String} (h : isSecretKey key = true)
    (value other source origin : String) :
    (Line.mk key value source origin).masked = (Line.mk key other source origin).masked := by
  have hshown (value : String) : (Line.mk key value source origin).shownValue = mask :=
    shownValue_of_isSecret h
  simp only [masked, hshown]

end Line

/-! ## Stacks that differ in secrets -/

/-- Two sources that answer alike, except that they may have different values for secret keys. They
have a value for the same keys. -/
structure Source.AlikeButForSecrets (s t : Source) : Prop where
  name : s.name = t.name
  keys : s.keys = t.keys
  hasKey : ∀ key, s.hasKey key = t.hasKey key
  origin : ∀ key, s.origin key = t.origin key
  value_isSome : ∀ key, (s.value key).isSome = (t.value key).isSome
  value : ∀ key, Line.isSecretKey key = false → s.value key = t.value key

namespace Source

/-- The line for a key that the source wins. -/
def line? (s : Source) (key : String) : Option Line :=
  (s.value key).map fun value => ⟨key, value, s.name, s.originOrName key⟩

theorem AlikeButForSecrets.originOrName {s t : Source} (h : s.AlikeButForSecrets t)
    (key : String) : s.originOrName key = t.originOrName key := by
  rw [Source.originOrName, Source.originOrName, h.origin, h.name]

theorem AlikeButForSecrets.map_masked_line? {s t : Source} (h : s.AlikeButForSecrets t)
    (key : String) : (s.line? key).map Line.masked = (t.line? key).map Line.masked := by
  rw [line?, line?, h.name, h.originOrName]
  cases hsecret : Line.isSecretKey key with
  | false => rw [h.value key hsecret]
  | true =>
    -- Whether there is a line at all is told by both sources alike.
    have hsome := h.value_isSome key
    cases hs : s.value key <;> cases ht : t.value key
    · rfl
    · simp [hs, ht] at hsome
    · simp [hs, ht] at hsome
    · exact congrArg some (Line.masked_eq_of_isSecretKey hsecret _ _ _ _)

end Source

namespace Stack

variable {stack other : Stack}

/-- The same place of the two stacks wins, if any does. -/
theorem rel_winner (h : List.Forall₂ Source.AlikeButForSecrets stack other) (key : String) :
    Option.Rel Source.AlikeButForSecrets (stack.winner key) (other.winner key) := by
  induction h with
  | nil => exact .none
  | @cons s t _ _ hst _ ih =>
    rw [winner_cons, winner_cons, hst.hasKey key]
    split
    · exact .some hst
    · exact ih

theorem listedKeys_eq (h : List.Forall₂ Source.AlikeButForSecrets stack other) :
    stack.listedKeys = other.listedKeys := by
  refine KeySet.ext_mem fun key => ?_
  rw [mem_listedKeys, mem_listedKeys]
  induction h with
  | nil => rfl
  | cons hst _ ih => simp only [List.mem_cons, exists_eq_or_imp, ih, hst.keys]

theorem map_masked_listing (h : List.Forall₂ Source.AlikeButForSecrets stack other) :
    stack.listing.result.map Line.masked = other.listing.result.map Line.masked := by
  have hlisting (stack : Stack) : stack.listing.result =
      stack.listedKeys.toList.filterMap fun key => (stack.winner key).bind (·.line? key) :=
    result_listing stack
  rw [hlisting, hlisting, List.map_filterMap, List.map_filterMap, listedKeys_eq h]
  refine List.filterMap_congr fun key _ => ?_
  have hwinner := rel_winner h key
  revert hwinner
  cases stack.winner key <;> cases other.winner key <;> intro hwinner
  · rfl
  · cases hwinner
  · cases hwinner
  · cases hwinner with
    | some hst => exact hst.map_masked_line? key

/-- What can be told of the masked copies alone is told alike of both stacks. -/
theorem map_listing_of_masked {α : Type} {view : Line → α}
    (hview : ∀ line : Line, view line.masked = view line)
    (h : List.Forall₂ Source.AlikeButForSecrets stack other) :
    stack.listing.result.map view = other.listing.result.map view := by
  have hmasked (lines : List Line) : (lines.map Line.masked).map view = lines.map view := by
    rw [List.map_map]
    exact List.map_congr_left fun line _ => hview line
  rw [← hmasked stack.listing.result, ← hmasked other.listing.result, map_masked_listing h]

/-- **Secrets never reach the listing as it is shown.** Stacks that differ in the values of secret
keys alone have the same written lines, the same shown values and the same masked copies. A masked
copy keeps everything but a secret value, is its own masked copy, and is written like the line. -/
theorem secrets_never_reach_the_listing :
    (∀ stack other : Stack, List.Forall₂ Source.AlikeButForSecrets stack other →
        stack.listing.result.map Line.write = other.listing.result.map Line.write ∧
          stack.listing.result.map Line.shownValue = other.listing.result.map Line.shownValue ∧
          stack.listing.result.map Line.masked = other.listing.result.map Line.masked) ∧
      ∀ line : Line,
        line.masked.masked = line.masked ∧ line.masked.key = line.key ∧
          line.masked.source = line.source ∧ line.masked.origin = line.origin ∧
          line.masked.value = (if line.isSecret then "********" else line.value) ∧
          line.masked.write = line.write := by
  refine ⟨fun stack other h => ⟨?_, ?_, map_masked_listing h⟩, fun line => ?_⟩
  · exact map_listing_of_masked Line.write_masked h
  · exact map_listing_of_masked Line.shownValue_masked h
  · exact ⟨line.masked_masked, rfl, rfl, rfl, rfl, line.write_masked⟩

/-- A source with a secret, a public value and a key that it claims without a value. -/
def vault (password : String) : Source where
  name := "vault"
  hasKey key := key ∈ ["db.password", "db.host", "db.token"]
  value key :=
    if key = "db.password" then some password
    else if key = "db.host" then some "localhost"
    else none
  origin _ := none
  keys := .ofKeys ["db.password", "db.host", "db.token"]

theorem vault_alikeButForSecrets (password other : String) :
    (vault password).AlikeButForSecrets (vault other) where
  name := rfl
  keys := rfl
  hasKey _ := rfl
  origin _ := rfl
  value_isSome key := by
    simp only [vault]
    split <;> rfl
  value key hpublic := by
    have hsecret : Line.isSecretKey "db.password" = true := by decide +kernel
    have hne : key ≠ "db.password" := by
      rintro rfl
      rw [hsecret] at hpublic
      cases hpublic
    simp only [vault, if_neg hne]

theorem vaults_are_shown_alike :
    List.Forall₂ Source.AlikeButForSecrets [vault "hunter2", vault "lower"]
        [vault "swordfish", vault "lower"] ∧
      (listing [vault "hunter2", vault "lower"]).result ≠
        (listing [vault "swordfish", vault "lower"]).result ∧
      (listing [vault "hunter2", vault "lower"]).result.map Line.write =
        (listing [vault "swordfish", vault "lower"]).result.map Line.write := by
  have halike : List.Forall₂ Source.AlikeButForSecrets [vault "hunter2", vault "lower"]
      [vault "swordfish", vault "lower"] :=
    .cons (vault_alikeButForSecrets _ _) (.cons (vault_alikeButForSecrets _ _) .nil)
  exact ⟨halike, by decide +kernel, (secrets_never_reach_the_listing.1 _ _ halike).1⟩

end Stack

end LayeredConfig
