import Mathlib.Data.String.Basic
import QuoteGateway.Net.Octets

/-!
# The order of texts by their octets

Texts in the order of their characters are in the order of their octets in UTF-8 too.
-/

namespace QuoteGateway.Net

theorem toListLoop_eq (octets : ByteArray) (i : Nat) (before : List UInt8) :
    ByteArray.toList.loop octets i before = before.reverse ++ octets.data.toList.drop i := by
  fun_induction ByteArray.toList.loop octets i before with
  | case1 i before within ih =>
    have more : i < octets.data.toList.length := within
    have first : octets.get! i = octets.data.toList[i] := getElem!_pos octets.data i within
    rw [ih, List.drop_eq_getElem_cons more, first, List.reverse_cons, List.append_assoc,
      List.singleton_append]
  | case2 i before beyond =>
    have all : octets.data.toList.length ≤ i := Nat.le_of_not_lt beyond
    rw [List.drop_eq_nil_of_le all, List.append_nil]

theorem octetsOf_eq (s : String) : octetsOf s = s.toList.flatMap String.utf8EncodeChar := by
  have octets : s.toUTF8.data.toList = s.toList.flatMap String.utf8EncodeChar := by
    conv_lhs => rw [← String.ofList_toList (s := s)]
    rw [String.toUTF8_eq_toByteArray, String.toByteArray_ofList, List.utf8Encode,
      List.toList_data_toByteArray]
  rw [octetsOf, ByteArray.toList, toListLoop_eq, octets]
  rfl

/-- Numbers are compared by their digits in base 64, the greatest ones first. -/
theorem digits_lt {n m : Nat} (h : n < m) :
    n / 262144 < m / 262144 ∨ n / 262144 = m / 262144 ∧
      (n / 4096 < m / 4096 ∨ n / 4096 = m / 4096 ∧
        (n / 64 < m / 64 ∨ n / 64 = m / 64 ∧ n % 64 < m % 64)) := by
  omega

theorem utf8EncodeChar_lt {c d : Char} (h : c < d) (after behind : List UInt8) :
    String.utf8EncodeChar c ++ after < String.utf8EncodeChar d ++ behind := by
  have lt : c.val.toNat < d.val.toNat := h
  have top : d.val.toNat < 0x110000 := by
    have valid := d.valid
    unfold UInt32.isValidChar Nat.isValidChar at valid
    omega
  have digits := digits_lt lt
  unfold String.utf8EncodeChar
  dsimp only
  generalize c.val.toNat = n at *
  generalize d.val.toNat = m at *
  split_ifs <;>
    simp only [List.cons_append, List.nil_append, List.cons_lt_cons_iff, UInt8.lt_iff_toNat_lt,
      ← UInt8.toNat_inj, UInt8.toNat_ofNat'] <;>
    rcases digits with first | ⟨first, second | ⟨second, third | ⟨third, fourth⟩⟩⟩ <;>
    omega

/-- Texts in the order of their characters are in the order of their octets. -/
theorem octetsOf_lt_octetsOf {s t : String} (h : s < t) : octetsOf s < octetsOf t := by
  rw [octetsOf_eq, octetsOf_eq]
  rw [String.lt_iff_toList_lt] at h
  generalize s.toList = cs at h
  generalize t.toList = ds at h
  induction h with
  | @nil d ds =>
    rw [List.flatMap_cons]
    obtain ⟨first, others, shape⟩ := List.exists_cons_of_ne_nil (@String.utf8EncodeChar_ne_nil d)
    rw [shape]
    exact List.nil_lt_cons _ _
  | rel lt => exact utf8EncodeChar_lt lt _ _
  | @cons c cs ds less ih => exact List.append_left_lt ih

end QuoteGateway.Net
