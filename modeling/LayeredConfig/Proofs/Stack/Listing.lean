import LayeredConfig.Source.Foreign
import LayeredConfig.Stack.Listing

/-!
# The listing joins the raw view with provenance

The listing goes over the listed keys in a loop of its own. It takes the source and the origin of
a key before it is known whether there is a value, and drops the key afterwards if there is none.
The raw view and the two queries for provenance resolve the same keys on their own and part at
other places. They agree because all of them hear the first source that has the key, whatever
that source lists or leaves untold.

* `map_listing`: keys and values of the listing are the entries of the raw view, in the same order;
  `exists_line_iff` tells which keys have a line.
* `mem_listing_iff_provenance`: a line is a raw value with the answers of the two queries.
* `listing_joins_raw_with_provenance`: the two together, with the order of the keys.
-/

namespace LayeredConfig.Stack

theorem map_listing (stack : Stack) :
    stack.listing.result.map (fun line => (line.key, line.value)) =
      stack.raw.result.entries := by
  have hline (key : String) :
      ((stack.winner key).bind fun w =>
          (w.value key).map fun value => Line.mk key value w.name (w.originOrName key)).map
          (fun line => (line.key, line.value)) =
        (stack.rawValue key).result.map fun value => (key, value) := by
    rw [result_rawValue]
    cases stack.winner key with
    | none => rfl
    | some w => cases hv : w.value key <;> simp [hv]
  rw [result_listing, List.map_filterMap, entries_raw]
  simp only [hline]

theorem exists_line_iff {stack : Stack} {key : String} :
    (∃ line ∈ stack.listing.result, line.key = key) ↔
      (stack.raw.result.get? key).isSome = true := by
  rw [Option.isSome_iff_exists]
  simp only [Dictionary.get?_eq_some_iff, ← map_listing, List.mem_map, Prod.mk.injEq]
  constructor
  · rintro ⟨line, hline, hkey⟩
    exact ⟨line.value, line, hline, hkey, rfl⟩
  · rintro ⟨-, line, hline, hkey, -⟩
    exact ⟨line, hline, hkey⟩

theorem pairwise_listing (stack : Stack) :
    (stack.listing.result.map Line.key).Pairwise (· < ·) := by
  have hkeys : stack.listing.result.map Line.key = stack.raw.result.entries.map Prod.fst := by
    rw [← map_listing, List.map_map]
    rfl
  rw [hkeys, List.pairwise_map]
  exact stack.raw.result.pairwise_entries

theorem mem_listing_iff_provenance {stack : Stack} {line : Line} :
    line ∈ stack.listing.result ↔
      stack.raw.result.get? line.key = some line.value ∧
        (stack.sourceName line.key).result = some line.source ∧
        (stack.origin line.key).result = some line.origin := by
  rw [mem_listing, get?_raw_eq_some_iff, result_sourceName, result_origin, and_assoc]
  refine and_congr_right fun _ => ?_
  constructor
  · rintro ⟨w, hw, hvalue, hsource, horigin⟩
    rw [rawValue_of_winner hw, hw, hsource, horigin]
    exact ⟨hvalue, rfl, rfl⟩
  · rintro ⟨hvalue, hsource, horigin⟩
    obtain ⟨w, hw, hname⟩ := Option.map_eq_some_iff.mp hsource
    rw [hw, Option.map_some, Option.some.injEq] at horigin
    rw [rawValue_of_winner hw] at hvalue
    exact ⟨w, hw, hvalue, hname.symm, horigin.symm⟩

/-- **The listing is the raw view joined with provenance, in order.** The keys increase strictly in
the order of their code points, keys and values are those of the raw view, and each line tells the
source and the origin that the queries for its key tell. -/
theorem listing_joins_raw_with_provenance (stack : Stack) :
    (stack.listing.result.map Line.key).Pairwise (· < ·) ∧
      stack.listing.result.map (fun line => (line.key, line.value)) =
        stack.raw.result.entries ∧
      ∀ line, line ∈ stack.listing.result ↔
        stack.raw.result.get? line.key = some line.value ∧
          (stack.sourceName line.key).result = some line.source ∧
          (stack.origin line.key).result = some line.origin :=
  ⟨pairwise_listing stack, map_listing stack, fun _ => mem_listing_iff_provenance⟩

-- The winner for `port` has no value, and the one for `host` tells no origin.
example :
    let stack : Stack := [
      Foreign.claimant "port",
      ⟨"plain", fun _ => true, some, fun _ => none, .ofKeys ["port", "host"]⟩]
    stack.listing.result = [⟨"host", "host", "plain", "plain"⟩] := by
  decide +kernel

end LayeredConfig.Stack
