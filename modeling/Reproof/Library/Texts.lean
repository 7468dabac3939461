/-! The characters of a text. Where they are all of ASCII they are its bytes, and a check of them need not
decode the text. -/

namespace Reproof.Library

/-- A character whose bytes are all of ASCII is its one byte. -/
theorem map_utf8EncodeChar {c : Char} (ascii : ∀ byte ∈ String.utf8EncodeChar c, byte < 128) :
    ((String.utf8EncodeChar c).map fun byte => Char.ofNat byte.toNat) = [c] := by
  by_cases small : c.val.toNat ≤ 0x7f
  · have encoded : String.utf8EncodeChar c = [UInt8.ofNat c.val.toNat] := if_pos small
    rw [encoded, List.map_singleton, UInt8.toNat_ofNat_of_lt' (Nat.lt_of_le_of_lt small (by decide))]
    exact congrArg (fun found => [found]) (Char.ofNat_toNat c)
  · have last : UInt8.ofNat (c.val.toNat % 64 + 128) ∈ String.utf8EncodeChar c := by
      rw [show String.utf8EncodeChar c = _ from if_neg small]
      split
      · simp
      · split <;> simp
    have bound : c.val.toNat % 64 + 128 < UInt8.size :=
      Nat.lt_of_lt_of_le (Nat.add_lt_add_right (Nat.mod_lt _ (by decide)) 128) (by decide : 64 + 128 ≤ UInt8.size)
    have low := UInt8.lt_iff_toNat_lt.mp (ascii _ last)
    rw [UInt8.toNat_ofNat_of_lt' bound] at low
    exact absurd low (Nat.not_lt.mpr (Nat.le_add_left 128 _))

theorem toList_of_ascii {text : String} (ascii : ∀ byte ∈ text.toByteArray.data.toList, byte < 128) :
    text.toList = text.toByteArray.data.toList.map fun byte => Char.ofNat byte.toNat := by
  have bytes : text.toByteArray.data.toList = text.toList.flatMap String.utf8EncodeChar := by
    rw [← String.utf8Encode_toList, List.utf8Encode, List.data_toByteArray]
  rw [bytes] at ascii ⊢
  generalize text.toList = chars at ascii ⊢
  induction chars with
  | nil => rfl
  | cons c chars ih =>
    rw [List.flatMap_cons, List.forall_mem_append] at ascii
    rw [List.flatMap_cons, List.map_append, ← ih ascii.2, map_utf8EncodeChar ascii.1]
    rfl

/-- `text.toList`. -/
def charsOf : String → List Char
  | ⟨bytes, valid⟩ =>
    if bytes.data.toList.all (· < 128) then bytes.data.toList.map fun byte => Char.ofNat byte.toNat
    else String.toList ⟨bytes, valid⟩

theorem charsOf_eq (text : String) : charsOf text = text.toList := by
  cases text with
  | ofByteArray bytes valid =>
    by_cases ascii : bytes.data.toList.all (· < 128)
    · have low : ∀ byte ∈ bytes.data.toList, byte < 128 := by simpa only [List.all_eq_true, decide_eq_true_eq] using ascii
      exact (if_pos ascii).trans (@toList_of_ascii ⟨bytes, valid⟩ low).symm
    · exact if_neg ascii

def decidableText (text : String) (p : List Char → Prop) [DecidablePred p] : Decidable (p text.toList) :=
  decidable_of_iff (p (charsOf text)) (by rw [charsOf_eq])

end Reproof.Library
