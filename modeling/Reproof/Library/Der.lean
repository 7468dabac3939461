import Mathlib.Data.List.Flatten
import Mathlib.Data.Nat.Digits.Lemmas

/-! Items of a tag, a definite length in as few octets as it needs, and a payload. -/

namespace Reproof.Library.Der

/-- `int.from_bytes(octets, "big")`. -/
def fromBytes (octets : List UInt8) : Nat := Nat.ofDigits 256 (octets.reverse.map UInt8.toNat)

/-- The octets of a number, none of them to spare and the most significant first. -/
def toBytes (n : Nat) : List UInt8 := ((Nat.digits 256 n).map UInt8.ofNat).reverse

def lengthOctets (n : Nat) : List UInt8 :=
  if n < 128 then [UInt8.ofNat n] else UInt8.ofNat (128 + (toBytes n).length) :: toBytes n

abbrev Item := UInt8 × List UInt8

def encode (item : Item) : List UInt8 := item.1 :: (lengthOctets item.2.length ++ item.2)

def encodeAll (items : List Item) : List UInt8 := items.flatMap encode

/-- A tag of one octet, and a length of at most four. -/
structure Fits (item : Item) : Prop where
  tag : item.1 &&& 31 ≠ 31
  short : item.2.length < 2 ^ 32

variable {n : Nat} {octets : List UInt8}

theorem fromBytes_toBytes : fromBytes (toBytes n) = n := by
  have same : (Nat.digits 256 n).map (UInt8.toNat ∘ UInt8.ofNat) = Nat.digits 256 n := by
    refine (List.map_congr_left fun d mem => ?_).trans (List.map_id _)
    exact UInt8.toNat_ofNat_of_lt' (Nat.digits_lt_base (by decide) mem)
  rw [fromBytes, toBytes, List.reverse_reverse, List.map_map, same, Nat.ofDigits_digits]

theorem toBytes_fromBytes (h : octets.head? ≠ some 0) : toBytes (fromBytes octets) = octets := by
  have digits : Nat.digits 256 (fromBytes octets) = octets.reverse.map UInt8.toNat := by
    refine Nat.digits_ofDigits 256 (by decide) _ (fun d mem => ?_) fun long => ?_
    · obtain ⟨octet, -, rfl⟩ := List.mem_map.mp mem
      exact octet.toNat_lt
    · rw [List.getLast_map, List.getLast_reverse]
      intro zero
      have first : octets.head _ = 0 := UInt8.toNat_inj.mp zero
      exact h ((List.head?_eq_some_head _).trans (congrArg some first))
  have same : (octets.reverse.map UInt8.toNat).map UInt8.ofNat = octets.reverse := by
    rw [List.map_map]
    exact (List.map_congr_left fun octet _ => UInt8.ofNat_toNat).trans (List.map_id _)
  rw [toBytes, digits, same, List.reverse_reverse]

theorem length_toBytes {k : Nat} : (toBytes n).length ≤ k ↔ n < 256 ^ k := by
  rw [toBytes, List.length_reverse, List.length_map]
  exact Nat.digits_length_le_iff (by decide) n

theorem head_toBytes : (toBytes n).head? ≠ some 0 := by
  intro zero
  rw [toBytes, List.head?_reverse, List.getLast?_map, Option.map_eq_some_iff] at zero
  obtain ⟨d, last, zero⟩ := zero
  have long : Nat.digits 256 n ≠ [] := fun empty => by
    rw [empty] at last
    nomatch last
  obtain rfl : (Nat.digits 256 n).getLast long = d :=
    Option.some.inj ((List.getLast?_eq_some_getLast long).symm.trans last)
  have below : (Nat.digits 256 n).getLast long < 256 :=
    Nat.digits_lt_base (by decide) (List.getLast_mem long)
  have same := congrArg UInt8.toNat zero
  rw [UInt8.toNat_ofNat_of_lt' below] at same
  exact Nat.getLast_digit_ne_zero 256 (Nat.digits_ne_nil_iff_ne_zero.mp long) same

theorem lengthOctets_short (short : n < 128) : lengthOctets n = [UInt8.ofNat n] := if_pos short

theorem lengthOctets_long (long : 128 ≤ n) (bound : n < 2 ^ 32) :
    ∃ first, lengthOctets n = first :: toBytes n ∧ first.toNat = 128 + (toBytes n).length ∧
      1 ≤ (toBytes n).length ∧ (toBytes n).length ≤ 4 := by
  have most : (toBytes n).length ≤ 4 := length_toBytes.mpr bound
  have least : 1 ≤ (toBytes n).length := by
    refine Nat.lt_of_not_le fun none => ?_
    have := length_toBytes.mp none
    omega
  exact ⟨_, if_neg (Nat.not_lt.mpr long), UInt8.toNat_ofNat_of_lt' (show _ < 256 by omega), least, most⟩

theorem length_encode (item : Item) :
    (encode item).length = 1 + (lengthOctets item.2.length).length + item.2.length := by
  rw [encode, List.length_cons, List.length_append, Nat.add_right_comm, Nat.add_comm 1, Nat.add_assoc,
    Nat.add_comm 1, ← Nat.add_assoc]

theorem length_lengthOctets_pos : 0 < (lengthOctets n).length := by
  rw [lengthOctets]
  split <;> exact Nat.succ_pos _

theorem length_payload_lt (item : Item) : item.2.length < (encode item).length := by
  rw [length_encode]
  omega

theorem length_payload_le {item : Item} {items : List Item} (mem : item ∈ items) :
    item.2.length ≤ (encodeAll items).length := by
  have inside := ((List.singleton_sublist.mpr mem).flatMap encode).length_le
  rw [List.flatMap_singleton] at inside
  exact (length_payload_lt item).le.trans inside

end Reproof.Library.Der
