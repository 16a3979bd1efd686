import QuoteGateway.Net.Punycode
import QuoteGateway.Net.Url
import QuoteGateway.Proofs.Pieces

/-!
# Hosts in ASCII and addresses without a query

An ASCII host is only brought into small letters. A text with no question mark and no hash sign is
read as an address without a query, whatever the forms of hosts: nothing that is done to the text on
the way brings in one of these marks.
-/

namespace QuoteGateway.Net

namespace Punycode

theorem isBasic_toLower {c : Char} (h : isBasic c = true) : isBasic c.toLower = true := by
  unfold Char.toLower
  split
  · rename_i capital
    have bounds : 65 ≤ c.val.toNat ∧ c.val.toNat ≤ 90 := capital
    have shift : ('a'.val - 'A'.val).toNat = 32 := rfl
    refine decide_eq_true ?_
    change (c.val + ('a'.val - 'A'.val)).toNat < 0x80
    rw [UInt32.toNat_add]
    omega
  · exact h

theorem isFullStop_of_isBasic {c : Char} (h : isBasic c = true) : isFullStop c = false := by
  refine Bool.eq_false_iff.mpr fun stop => ?_
  have beyond : "。．｡".toList.all (!isBasic ·) = true := by decide +kernel
  have other := List.all_eq_true.mp beyond c (List.contains_iff_mem.mp stop)
  rw [h] at other
  cases other

/-- An ASCII host is only brought into small letters. -/
theorem hostForm_of_all {host : List Char} (all : ∀ c ∈ host, isBasic c = true) :
    hostForm host = some (host.map Char.toLower) := by
  have basic : ∀ c ∈ host.map Char.toLower, isBasic c = true :=
    List.forall_mem_map.mpr fun c member => isBasic_toLower (all c member)
  have small : host.flatMap Text.smallLetter = host.map Char.toLower := by
    have each : host.map Text.smallLetter = host.map fun c => [c.toLower] :=
      List.map_congr_left fun c member => if_pos (of_decide_eq_true (all c member))
    rw [List.flatMap_def, each, ← List.flatMap_def, ← List.map_eq_flatMap]
  have stops : (host.map Char.toLower).map (fun c => if isFullStop c then '.' else c) =
      host.map Char.toLower := by
    rw [List.map_congr_left fun c member => if_neg (by simp [isFullStop_of_isBasic (basic c member)]),
      List.map_id']
  have labels : (Text.pieces '.' (host.map Char.toLower)).map (fun label =>
      if label.all isBasic then label else "xn--".toList ++ encode label) =
        Text.pieces '.' (host.map Char.toLower) := by
    have plain : ∀ label ∈ Text.pieces '.' (host.map Char.toLower), label.all isBasic = true :=
      fun label member => List.all_eq_true.mpr fun c inside =>
        basic c (Text.subset_of_mem_pieces member inside)
    rw [List.map_congr_left fun label member => if_pos (plain label member), List.map_id']
  simp only [hostForm, hostText, small, stops, labels, Text.joined_pieces]

end Punycode

/-- The text has no mark at which a query or a fragment begins. -/
def Unmarked (cs : List Char) : Prop := '?' ∉ cs ∧ '#' ∉ cs

instance (cs : List Char) : Decidable (Unmarked cs) := inferInstanceAs (Decidable (_ ∧ _))

namespace Unmarked

variable {cs ds : List Char}

theorem mono (h : Unmarked cs) (sub : ds ⊆ cs) : Unmarked ds :=
  ⟨fun mem => h.1 (sub mem), fun mem => h.2 (sub mem)⟩

theorem append (h : Unmarked cs) (h' : Unmarked ds) : Unmarked (cs ++ ds) := by
  unfold Unmarked
  rw [List.mem_append, List.mem_append, not_or, not_or]
  exact ⟨⟨h.1, h'.1⟩, h.2, h'.2⟩

theorem drop (h : Unmarked cs) (count : Nat) : Unmarked (cs.drop count) :=
  h.mono (List.drop_subset _ _)

theorem dropWhile (h : Unmarked cs) (p : Char → Bool) : Unmarked (cs.dropWhile p) :=
  h.mono (List.dropWhile_sublist p).subset

theorem reverse (h : Unmarked cs) : Unmarked cs.reverse :=
  h.mono fun _ mem => List.mem_reverse.mp mem

theorem filter (h : Unmarked cs) (p : Char → Bool) : Unmarked (cs.filter p) :=
  h.mono List.filter_sublist.subset

theorem map_slashes (h : Unmarked cs) :
    Unmarked (cs.map fun c => if c == '\\' then '/' else c) := by
  have kept {mark : Char} (other : mark ≠ '/')
      (mem : mark ∈ cs.map fun c => if c == '\\' then '/' else c) : mark ∈ cs := by
    obtain ⟨origin, there, same⟩ := List.mem_map.mp mem
    split at same
    · exact absurd same.symm other
    · exact same ▸ there
  exact ⟨mt (kept (by decide)) h.1, mt (kept (by decide)) h.2⟩

end Unmarked

namespace Url

variable {form : HostForm} {cs rest scheme : List Char} {special : Bool} {url : Url}

theorem query_withRest (h : Unmarked cs) (host : Option (List Char)) (port : Option Nat)
    (path : List Char → Path) : (withRest special scheme host port path cs).query = none := by
  have all : cs.takeWhile (fun c => c != '?' && c != '#') = cs := by
    have each : ∀ c ∈ cs, (c != '?' && c != '#') = true := by
      intro c mem
      rw [Bool.and_eq_true, bne_iff_ne, bne_iff_ne]
      exact ⟨fun same => h.1 (same ▸ mem), fun same => h.2 (same ▸ mem)⟩
    rw [← List.append_nil cs, List.takeWhile_append_of_pos each]
    rfl
  simp [withRest, all, queryPart]

theorem unmarked_schemePart (h : Unmarked cs) (found : schemePart? cs = some (scheme, rest)) :
    Unmarked rest := by
  unfold schemePart? at found
  dsimp only at found
  split at found
  · rename_i first others more name left
    split at found
    · cases found
      have dropped := h.drop (cs.takeWhile isSchemeChar).length
      rw [left] at dropped
      exact dropped.mono (List.subset_cons_self _ _)
    · cases found
  · cases found

theorem query_withAuthority (h : Unmarked cs) (found : withAuthority? form special scheme cs = some url) :
    url.query = none := by
  unfold withAuthority? at found
  simp only [Option.bind_eq_bind, Option.bind_eq_some_iff] at found
  obtain ⟨port, -, found⟩ := found
  split at found
  all_goals
    simp only [Option.bind_eq_some_iff, Option.some.injEq] at found
    obtain ⟨host, -, rfl⟩ := found
    exact query_withRest (h.drop _) _ _ _

theorem query_withoutPort (h : Unmarked cs) (found : withoutPort? form cs = some url) :
    url.query = none := by
  have slashes := h.map_slashes
  unfold withoutPort? at found
  split at found
  · rename_i rest shape
    rw [shape] at slashes
    dsimp only at found
    split at found
    all_goals
      simp only [Option.bind_eq_bind, Option.bind_eq_some_iff, Option.some.injEq] at found
      obtain ⟨host, -, rfl⟩ := found
      exact query_withRest ((slashes.drop 2).drop _) _ _ _
  · rw [← Option.some.inj found]
    exact query_withRest slashes _ _ _

/-- The address of an unmarked text has no query. -/
theorem query_of_read? {s : String} (h : Unmarked s.toList) (found : read? form s = some url) :
    url.query = none := by
  unfold read? at found
  simp only [Option.bind_eq_bind, Option.bind_eq_some_iff] at found
  obtain ⟨⟨scheme, rest⟩, parts, found⟩ := found
  have trimmed := ((h.dropWhile fun c => c.toNat ≤ 0x20).reverse.dropWhile
    fun c => c.toNat ≤ 0x20).reverse
  have unmarked := unmarked_schemePart (trimmed.filter _) parts
  split at found
  · exact query_withAuthority (unmarked.dropWhile _) found
  · split at found
    · exact query_withoutPort unmarked found
    · split at found
      · rename_i after shape
        have shape : rest = '/' :: '/' :: after := shape
        rw [shape] at unmarked
        exact query_withAuthority (unmarked.drop 2) found
      · rw [← Option.some.inj found]
        exact query_withRest unmarked _ _ _
      · rw [← Option.some.inj found]
        exact query_withRest unmarked _ _ _

end Url

end QuoteGateway.Net
