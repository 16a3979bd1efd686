import Mathlib.Data.List.Basic
import QuoteGateway.Cache.TimedMap
import QuoteGateway.CacheKey
import QuoteGateway.Proofs.PairText

/-!
# Keys of cache entries are told apart

The log of an API key has a key of its own, which is never the key of a rate. Two pairs share the
key of their rates exactly if their currencies have the same small letters, as long as one of them
comes from the text of a pair.
-/

namespace QuoteGateway

namespace Text

/-- Every letter of a run has its small form beyond the underscore. -/
theorem underscore_lt_lowerRuns : ∀ run ∈ lowerRuns, 0x5F < (run.first + run.shift).toNat := by
  decide +kernel

theorem underscore_lt_image {run : LetterRun} (h : run ∈ lowerRuns) {n m : Nat}
    (image : run.image? n = some m) : 0x5F < m := by
  have first := underscore_lt_lowerRuns run h
  unfold LetterRun.image? at image
  split at image
  · obtain rfl := Option.some.inj image
    omega
  · cases image

theorem ofNat_ne_underscore {n : Nat} (h : 0x5F < n) : Char.ofNat n ≠ '_' := by
  intro same
  have number : (Char.ofNat n).toNat = 0x5F := by
    rw [same]
    rfl
  rw [Char.ofNat] at number
  by_cases valid : n.isValidChar
  · rw [dif_pos valid] at number
    have whole : n = 0x5F := number
    omega
  · rw [dif_neg valid] at number
    cases number

theorem toLower_ne_underscore {c : Char} (h : c ≠ '_') : c.toLower ≠ '_' := by
  unfold Char.toLower
  split
  · rename_i capital
    intro same
    have value : c.val + ('a'.val - 'A'.val) = '_'.val := congrArg Char.val same
    have number := congrArg UInt32.toNat value
    have bounds : 65 ≤ c.val.toNat ∧ c.val.toNat ≤ 90 := capital
    rw [UInt32.toNat_add] at number
    have shift : ('a'.val - 'A'.val).toNat = 32 := rfl
    have code : '_'.val.toNat = 95 := rfl
    omega
  · exact h

theorem underscore_notMem_smallLetter {c : Char} (h : c ≠ '_') : '_' ∉ smallLetter c := by
  unfold smallLetter
  split
  · rw [List.mem_singleton]
    exact fun same => toLower_ne_underscore h same.symm
  · split
    · decide
    · split
      · rename_i n found
        obtain ⟨run, member, image⟩ := List.exists_of_findSome?_eq_some found
        rw [List.mem_singleton]
        exact fun same => ofNat_ne_underscore (underscore_lt_image member image) same.symm
      · rw [List.mem_singleton]
        exact fun same => h same.symm

theorem underscore_notMem_smallLettersAfter (before : List Char) {cs : List Char} (h : '_' ∉ cs) :
    '_' ∉ smallLettersAfter before cs := by
  induction cs generalizing before with
  | nil => exact List.not_mem_nil
  | cons c rest ih =>
    rw [List.mem_cons, not_or] at h
    rw [smallLettersAfter, List.mem_append, not_or]
    refine ⟨?_, ih _ h.2⟩
    split
    · split <;> decide
    · exact underscore_notMem_smallLetter (Ne.symm h.1)

theorem underscore_notMem_lowercase {s : String} (h : '_' ∉ s.toList) :
    '_' ∉ (lowercase s).toList := by
  rw [lowercase, String.toList_ofList]
  exact underscore_notMem_smallLettersAfter [] h

end Text

namespace CacheKey

theorem toList_ofApiKey (id : String) :
    (ofApiKey id).toList = 'a' :: 'p' :: 'i' :: '_' :: 'k' :: 'e' :: 'y' :: '_' :: id.toList := by
  rw [ofApiKey, String.toList_append]
  rfl

theorem toList_ofRate (base target : String) :
    (ofRate base target).toList = 'r' :: 'a' :: 't' :: 'e' :: '_' ::
      ((Text.lowercase base).toList ++ '_' :: (Text.lowercase target).toList) := by
  rw [ofRate, String.toList_append, String.toList_append, String.toList_append,
    List.append_assoc, List.append_assoc]
  rfl

theorem ofApiKey_injective : Function.Injective ofApiKey := by
  intro id other same
  have letters := congrArg String.toList same
  rw [toList_ofApiKey, toList_ofApiKey] at letters
  simp only [List.cons.injEq, true_and] at letters
  exact String.toList_inj.mp letters

theorem ofApiKey_ne_ofRate (id base target : String) : ofApiKey id ≠ ofRate base target := by
  intro same
  have letters := congrArg String.toList same
  rw [toList_ofApiKey, toList_ofRate] at letters
  simp at letters

/-- Two pairs share a key if and only if their names agree in small letters, where one pair comes
from a text. The names of the other may hold underscores. -/
theorem ofRate_eq_ofRate_iff {s : String} {pair : CurrencyPair}
    (h : CurrencyPair.parse? s = some pair) (base target : String) :
    ofRate base target = ofRate pair.base pair.target ↔
      Text.lowercase base = Text.lowercase pair.base ∧
        Text.lowercase target = Text.lowercase pair.target := by
  obtain ⟨⟨-, -, inBase, inTarget⟩, -⟩ := CurrencyPair.parse?_eq_some_iff.mp h
  constructor
  · intro same
    have letters := congrArg String.toList same
    rw [toList_ofRate, toList_ofRate] at letters
    have names : (Text.lowercase pair.base).toList ++ '_' :: (Text.lowercase pair.target).toList =
        (Text.lowercase base).toList ++ '_' :: (Text.lowercase target).toList := by
      simpa using letters.symm
    -- The pair's side has a single underscore, so both sides part there.
    have parts := (List.append_cons_inj_of_notMem
      (Text.underscore_notMem_lowercase inBase)
      (Text.underscore_notMem_lowercase inTarget)).mp names
    exact ⟨String.toList_inj.mp parts.1.symm, String.toList_inj.mp parts.2.2.symm⟩
  · rintro ⟨sameBase, sameTarget⟩
    rw [ofRate, ofRate, sameBase, sameTarget]

/-- No key is taken for another: that of a pair read from a text is the key of any two names only if
these have the small letters of the pair, and that of an API key is the key of no rate and of no
other API key. -/
theorem told_apart :
    (∀ text pair, CurrencyPair.parse text = .ok pair → ∀ base target,
      ofRate base target = ofRate pair.base pair.target ↔
        Text.lowercase base = Text.lowercase pair.base ∧
          Text.lowercase target = Text.lowercase pair.target) ∧
    (∀ id base target, ofApiKey id ≠ ofRate base target) ∧
    Function.Injective ofApiKey :=
  ⟨fun _ _ parsed => ofRate_eq_ofRate_iff (CurrencyPair.parse?_of_parse parsed),
    ofApiKey_ne_ofRate, ofApiKey_injective⟩

/-- One capital letter has two small ones here, and the last letter of a word a form of its own. The
underscore of the other names is not where that of the pair is. -/
theorem told_apart_manyLetters :
    CurrencyPair.parse "İ_ΟΔΟΣ" = .ok ⟨"İ", "ΟΔΟΣ"⟩ ∧
      ofRate "i\u0307" "οδος" = ofRate "İ" "ΟΔΟΣ" ∧
      ofRate "İ_ΟΔΟΣ" "" ≠ ofRate "İ" "ΟΔΟΣ" ∧ ofRate "" "İ_ΟΔΟΣ" ≠ ofRate "İ" "ΟΔΟΣ" := by
  have parsed : CurrencyPair.parse "İ_ΟΔΟΣ" = .ok ⟨"İ", "ΟΔΟΣ"⟩ := by rfl
  have keys := told_apart.1 _ _ parsed
  refine ⟨parsed, (keys _ _).mpr ⟨by decide +kernel, by decide +kernel⟩, ?_, ?_⟩
  · exact fun same => absurd ((keys _ _).mp same).1 (by decide +kernel)
  · exact fun same => absurd ((keys _ _).mp same).1 (by decide +kernel)

end CacheKey

theorem Cache.TimedMap.get?_put_ofApiKey (map : TimedMap) (now : Nat) (owner value : String)
    (lifetime : Duration) (id : String) :
    (map.put now (CacheKey.ofApiKey owner) value lifetime).entries.get? (CacheKey.ofApiKey id) =
      if owner = id then some ⟨value, now + lifetime.nanos⟩
      else map.entries.get? (CacheKey.ofApiKey id) := by
  rw [TimedMap.put]
  by_cases same : owner = id
  · subst same
    rw [Table.get?_put_self, if_pos rfl]
  · have differs : CacheKey.ofApiKey id ≠ CacheKey.ofApiKey owner :=
      fun keys => same (CacheKey.ofApiKey_injective keys).symm
    rw [Table.get?_put_of_ne _ _ differs, if_neg same]

end QuoteGateway
