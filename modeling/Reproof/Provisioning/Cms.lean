import Mathlib.Data.Nat.Bitwise
import Reproof.Contracts.Documents
import Reproof.Library.Der

/-! The shape that a profile's SignedData has to have before it is verified. -/

namespace Reproof.Provisioning

open Library Der Contracts

def maxProfileBytes : Nat := 4 * 1024 * 1024

def signedData : Bytes := [0x2a, 0x86, 0x48, 0x86, 0xf7, 0x0d, 0x01, 0x07, 0x02]

def data : Bytes := [0x2a, 0x86, 0x48, 0x86, 0xf7, 0x0d, 0x01, 0x07, 0x01]

def digests : List Bytes :=
  [0x2b, 0x0e, 0x03, 0x02, 0x1a] ::
    [0x01, 0x02, 0x03].map fun last => [0x60, 0x86, 0x48, 0x01, 0x65, 0x03, 0x04, 0x02, last]

/-- `body[start:stop]`. -/
def slice (body : Bytes) (start stop : Nat) : Bytes := (body.take stop).drop start

/-- Where the payload starts and how long it is, for the first octet of its length. -/
def payloadOf (body : Bytes) (offset : Nat) (length : UInt8) : Except String (Nat × Nat) :=
  if length &&& 128 ≠ 0 then do
    let count := (length &&& 127).toNat
    require (1 ≤ count ∧ count ≤ 4 ∧ offset + 2 + count ≤ body.length ∧ body[offset + 2]? ≠ some 0)
      "cms_invalid"
    let length := fromBytes (slice body (offset + 2) (offset + 2 + count))
    require (128 ≤ length) "cms_invalid"
    pure (offset + 2 + count, length)
  else pure (offset + 2, length.toNat)

def tlv (body : Bytes) (offset : Nat) : Except String (UInt8 × Bytes × Nat) := do
  require (offset + 2 ≤ body.length) "cms_invalid"
  match slice body offset (offset + 2) with
  | [tag, length] =>
    require (tag &&& 31 ≠ 31) "cms_invalid"
    let (start, length) ← payloadOf body offset length
    require (start + length ≤ body.length) "cms_invalid"
    pure (tag, slice body start (start + length), start + length)
  | _ => .error "cms_invalid"

section Reading

variable {body payload : Bytes} {offset stop : Nat} {tag : UInt8}

theorem slice_eq {start n : Nat} : slice body start (start + n) = (body.drop start).take n := by
  rw [slice, List.drop_take, Nat.add_sub_cancel_left]

theorem and_128 (x : UInt8) : x &&& 128 ≠ 0 ↔ 128 ≤ x.toNat := by
  have bit : x.toNat &&& 2 ^ 7 = (x.toNat.testBit 7).toNat * 2 ^ 7 := Nat.and_two_pow x.toNat 7
  have below := x.toNat_lt
  rw [Nat.testBit_eq_decide_div_mod_eq] at bit
  rw [ne_eq, ← UInt8.toNat_inj, UInt8.toNat_and]
  change ¬ x.toNat &&& 2 ^ 7 = 0 ↔ _
  rw [bit]
  by_cases high : x.toNat / 2 ^ 7 % 2 = 1
  · simp only [high]
    simp
    omega
  · simp only [high]
    simp
    omega

theorem and_127 (x : UInt8) : (x &&& 127).toNat = x.toNat % 128 := by
  rw [UInt8.toNat_and]
  exact Nat.and_two_pow_sub_one_eq_mod x.toNat 7

theorem payloadOf_short {length : UInt8} {start n : Nat} (short : length.toNat < 128) :
    payloadOf body offset length = .ok (start, n) ↔ start = offset + 2 ∧ n = length.toNat := by
  rw [payloadOf, if_neg ((and_128 length).not.mpr (Nat.not_le.mpr short)), pure_eq_ok, Prod.mk.injEq,
    eq_comm, @eq_comm _ n]

/-- The octets of the length stand before the payload. -/
theorem payloadOf_eq_ok {length : UInt8} {rest : Bytes} {start n : Nat}
    (header : body.drop offset = tag :: length :: rest) :
    payloadOf body offset length = .ok (start, n) ↔
      n < 2 ^ 32 ∧ start = offset + 1 + (lengthOctets n).length ∧
        lengthOctets n <+: length :: rest := by
  have tail : body.drop (offset + 2) = rest := by
    rw [← List.drop_drop, header]
    rfl
  have size : body.length = offset + 2 + rest.length := by
    have sizes := congrArg List.length header
    simp only [List.length_drop, List.length_cons] at sizes
    omega
  have second : body[offset + 2]? = rest.head? := by
    rw [← tail, List.head?_drop]
  have below := length.toNat_lt
  cases Nat.lt_or_ge length.toNat 128 with
  | inl short =>
    rw [payloadOf_short short]
    constructor
    · rintro ⟨rfl, rfl⟩
      rw [lengthOctets, if_pos short, UInt8.ofNat_toNat]
      exact ⟨by omega, rfl, List.prefix_cons_inj length |>.mpr List.nil_prefix⟩
    · rintro ⟨bound, rfl, found⟩
      cases Nat.lt_or_ge n 128 with
      | inl small =>
        rw [lengthOctets_short small] at found ⊢
        have same := (List.cons_prefix_cons.mp found).1
        rw [← same, UInt8.toNat_ofNat_of_lt' (show n < 256 by omega)]
        exact ⟨rfl, rfl⟩
      | inr large =>
        obtain ⟨first, octets, mark, -⟩ := lengthOctets_long large bound
        rw [octets] at found
        have same := (List.cons_prefix_cons.mp found).1
        rw [same] at mark
        omega
  | inr long =>
    rw [payloadOf, if_pos ((and_128 length).mpr long)]
    simp only [bind_eq_ok, require_eq_ok, pure_eq_ok, Prod.mk.injEq, and_127, slice_eq, tail, second,
      size]
    constructor
    · rintro ⟨_, ⟨low, high, inside, lead⟩, _, big, rfl, rfl⟩
      have taken : (rest.take (length.toNat % 128)).length = length.toNat % 128 :=
        List.length_take_of_le (by omega)
      have octets : toBytes (fromBytes (rest.take (length.toNat % 128))) =
          rest.take (length.toNat % 128) := by
        refine toBytes_fromBytes ?_
        rwa [List.head?_take, if_neg (by omega)]
      have bound : fromBytes (rest.take (length.toNat % 128)) < 2 ^ 32 := by
        refine (length_toBytes (k := 4)).mp ?_
        rw [octets, taken]
        exact high
      obtain ⟨first, form, mark, -⟩ := lengthOctets_long big bound
      rw [octets, taken] at mark
      have same : first = length := UInt8.toNat_inj.mp (by omega)
      rw [form, octets, same, List.length_cons, taken]
      exact ⟨bound, by omega, List.cons_prefix_cons.mpr ⟨rfl, List.take_prefix _ _⟩⟩
    · rintro ⟨bound, rfl, found⟩
      cases Nat.lt_or_ge n 128 with
      | inl small =>
        rw [lengthOctets_short small] at found
        have same := (List.cons_prefix_cons.mp found).1
        rw [← same, UInt8.toNat_ofNat_of_lt' (show n < 256 by omega)] at long
        omega
      | inr large =>
        obtain ⟨first, form, mark, low, high⟩ := lengthOctets_long large bound
        rw [form] at found
        obtain ⟨same, octets⟩ := List.cons_prefix_cons.mp found
        have count : length.toNat % 128 = (toBytes n).length := by
          rw [← same, mark]
          omega
        have taken : rest.take (toBytes n).length = toBytes n := (List.prefix_iff_eq_take.mp octets).symm
        have lead : rest.head? ≠ some 0 := by
          obtain ⟨more, rfl⟩ := octets
          rw [List.head?_append_of_ne_nil _ (List.ne_nil_of_length_pos low)]
          exact head_toBytes
        have inside := octets.length_le
        rw [count, taken, fromBytes_toBytes, form, List.length_cons]
        exact ⟨(), ⟨low, high, by omega, lead⟩, (), large, by omega, rfl⟩

/-- An item is read where its encoding stands. -/
theorem tlv_eq_ok : tlv body offset = .ok (tag, payload, stop) ↔
    Fits (tag, payload) ∧ stop = offset + (encode (tag, payload)).length ∧
      encode (tag, payload) <+: body.drop offset := by
  rw [tlv, bind_eq_ok, slice_eq]
  cases rest : body.drop offset with
  | nil =>
    have sizes := congrArg List.length rest
    rw [List.length_drop, List.length_nil] at sizes
    simp only [require_eq_ok]
    constructor
    · rintro ⟨_, inside, _⟩
      omega
    · rintro ⟨_, _, found⟩
      cases List.prefix_nil.mp found
  | cons first more =>
    cases more with
    | nil =>
      have sizes := congrArg List.length rest
      simp only [List.length_drop, List.length_singleton] at sizes
      simp only [require_eq_ok]
      constructor
      · rintro ⟨_, inside, _⟩
        omega
      · rintro ⟨_, _, found⟩
        have short := found.length_le
        have long := @length_lengthOctets_pos payload.length
        rw [length_encode, List.length_singleton] at short
        dsimp only at short
        omega
    | cons length more =>
      have sizes := congrArg List.length rest
      simp only [List.length_drop, List.length_cons] at sizes
      simp only [require_eq_ok, List.take_succ_cons, List.take_zero, bind_eq_ok, payloadOf_eq_ok rest,
        pure_eq_ok, Prod.mk.injEq, Prod.exists, slice_eq]
      constructor
      · rintro ⟨_, _, _, low, start, n, ⟨bound, rfl, octets⟩, _, inside, rfl, found, rfl⟩
        obtain ⟨after, octets⟩ := octets
        have behind : body.drop (offset + 1 + (lengthOctets n).length) = after := by
          rw [Nat.add_assoc, ← List.drop_drop, rest, Nat.add_comm, List.drop_succ_cons, ← octets,
            List.drop_left]
        have size : (after.take n).length = n := by
          refine List.length_take_of_le ?_
          rw [← behind, List.length_drop]
          omega
        rw [behind] at found
        subst found
        have short : (after.take n).length < 2 ^ 32 := size.symm ▸ bound
        refine ⟨⟨low, short⟩, ?_, ?_⟩
        · rw [length_encode, size]
          omega
        · rw [encode, size, ← octets, List.cons_prefix_cons, List.prefix_append_right_inj]
          exact ⟨rfl, List.take_prefix n after⟩
      · rintro ⟨⟨low, short⟩, rfl, found⟩
        rw [encode, List.cons_prefix_cons] at found
        obtain ⟨rfl, after, octets⟩ := found
        rw [List.append_assoc] at octets
        have behind : body.drop (offset + 1 + (lengthOctets payload.length).length) = payload ++ after := by
          rw [Nat.add_assoc, ← List.drop_drop, rest, Nat.add_comm, List.drop_succ_cons, ← octets,
            List.drop_left]
        have inside := congrArg List.length octets
        simp only [List.length_append, List.length_cons] at inside
        have positive := @length_lengthOctets_pos payload.length
        refine ⟨(), by omega, (), low, _, payload.length, ⟨short, rfl, _, octets⟩, (), ?_, rfl, ?_, ?_⟩
        · omega
        · rw [behind, List.take_left]
        · rw [length_encode]
          dsimp only
          omega

theorem tlv_advances (h : tlv body offset = .ok (tag, payload, stop)) :
    offset < stop ∧ offset < body.length := by
  obtain ⟨-, rfl, found⟩ := tlv_eq_ok.mp h
  have long := length_payload_lt (tag, payload)
  have inside := found.length_le
  rw [List.length_drop] at inside
  omega

end Reading

/-- The loop over the items from an offset on. -/
def childrenFrom (body : Bytes) (maximum : Nat) (values : List Item) (offset : Nat) :
    Except String (List Item) :=
  if offset < body.length then
    if values.length < maximum then
      match _ : tlv body offset with
      | .ok (tag, payload, stop) => childrenFrom body maximum (values ++ [(tag, payload)]) stop
      | .error code => .error code
    else .error "cms_invalid"
  else .ok values
termination_by body.length - offset
decreasing_by
  have advances := tlv_advances ‹tlv body offset = _›
  omega

def children (body : Bytes) (maximum : Nat) : Except String (List Item) :=
  childrenFrom body maximum [] 0

theorem tlv_encode {body : Bytes} {offset : Nat} {item : Item} {items : List Item} (fits : Fits item)
    (here : body.drop offset = encodeAll (item :: items)) :
    tlv body offset = .ok (item.1, item.2, offset + (encode item).length) ∧
      body.drop (offset + (encode item).length) = encodeAll items := by
  have front : body.drop offset = encode item ++ encodeAll items := here
  refine ⟨tlv_eq_ok.mpr ⟨fits, rfl, _, front.symm⟩, ?_⟩
  rw [← List.drop_drop, front, List.drop_left]

theorem exists_cons {body : Bytes} {offset : Nat} {items : List Item} (inside : offset < body.length)
    (here : body.drop offset = encodeAll items) : ∃ item more, items = item :: more := by
  cases items with
  | nil =>
    have none := List.drop_eq_nil_iff.mp here
    omega
  | cons item more => exact ⟨item, more, rfl⟩

theorem childrenFrom_eq_ok {body : Bytes} {maximum offset : Nat} {values out : List Item}
    (room : values.length ≤ maximum) :
    childrenFrom body maximum values offset = .ok out ↔ ∃ more, out = values ++ more ∧
      out.length ≤ maximum ∧ (∀ item ∈ more, Fits item) ∧ body.drop offset = encodeAll more := by
  fun_induction childrenFrom body maximum values offset with
  | case1 values offset inside more tag payload stop found ih =>
    have room' : (values ++ [(tag, payload)]).length ≤ maximum := by
      rw [List.length_append]
      exact more
    rw [ih room']
    obtain ⟨fits, rfl, front⟩ := tlv_eq_ok.mp found
    constructor
    · rintro ⟨others, rfl, bound, each, rest⟩
      refine ⟨(tag, payload) :: others, by rw [List.append_assoc]; rfl, bound,
        List.forall_mem_cons.mpr ⟨fits, each⟩, ?_⟩
      obtain ⟨tail, front⟩ := front
      rw [← List.drop_drop, ← front, List.drop_left] at rest
      rw [← front, rest]
      rfl
    · rintro ⟨others, rfl, bound, each, rest⟩
      obtain ⟨item, others, rfl⟩ := exists_cons inside rest
      obtain ⟨first, each⟩ := List.forall_mem_cons.mp each
      obtain ⟨read, after⟩ := tlv_encode first rest
      obtain ⟨rfl, rfl, -⟩ : item.1 = tag ∧ item.2 = payload ∧ _ := by
        simpa using read.symm.trans found
      exact ⟨others, by rw [List.append_assoc]; rfl, bound, each, after⟩
  | case2 values offset inside more code found =>
    refine iff_of_false nofun ?_
    rintro ⟨others, rfl, bound, each, rest⟩
    obtain ⟨item, others, rfl⟩ := exists_cons inside rest
    have read := (tlv_encode (each item (.head _)) rest).1
    exact nomatch read.symm.trans found
  | case3 values offset inside full =>
    refine iff_of_false nofun ?_
    rintro ⟨others, rfl, bound, each, rest⟩
    obtain ⟨item, others, rfl⟩ := exists_cons inside rest
    rw [List.length_append, List.length_cons] at bound
    omega
  | case4 values offset ended =>
    have none : body.drop offset = [] := List.drop_eq_nil_iff.mpr (Nat.not_lt.mp ended)
    constructor
    · rintro ⟨⟩
      exact ⟨[], (List.append_nil _).symm, room, nofun, none⟩
    · rintro ⟨others, rfl, bound, each, rest⟩
      cases others with
      | nil => rw [List.append_nil]
      | cons item others =>
        exact absurd (none.symm.trans rest) (List.cons_ne_nil _ _).symm

/-- What is read is what the bytes encode. -/
theorem children_eq_ok {body : Bytes} {maximum : Nat} {items : List Item} :
    children body maximum = .ok items ↔
      items.length ≤ maximum ∧ (∀ item ∈ items, Fits item) ∧ body = encodeAll items := by
  rw [children, childrenFrom_eq_ok (Nat.zero_le maximum)]
  constructor
  · rintro ⟨_, rfl, bound, each, rest⟩
    exact ⟨bound, each, rest⟩
  · exact fun ⟨bound, each, rest⟩ => ⟨items, rfl, bound, each, rest⟩

theorem fits_each {items : List Item} (low : ∀ item ∈ items, item.1 &&& 31 ≠ 31)
    (short : (encodeAll items).length < 2 ^ 32) : ∀ item ∈ items, Fits item :=
  fun item mem => ⟨low item mem, (length_payload_le mem).trans_lt short⟩

theorem children_encodeAll {items : List Item} {maximum : Nat} (room : items.length ≤ maximum)
    (low : ∀ item ∈ items, item.1 &&& 31 ≠ 31) (short : (encodeAll items).length < 2 ^ 32) :
    children (encodeAll items) maximum = .ok items :=
  children_eq_ok.mpr ⟨room, fits_each low short, rfl⟩

/-- The payload of the one item that the bytes are. -/
def whole (body : Bytes) (expected : UInt8) : Except String Bytes := do
  let (tag, payload, stop) ← tlv body 0
  require (tag = expected ∧ stop = body.length) "cms_invalid"
  pure payload

/-- What stands behind an object identifier. -/
def tagged (body oid : Bytes) : Except String Bytes := do
  match ← children body 2 with
  | [kind, content] =>
    require (kind = (6, oid) ∧ content.1 = 0xa0) "cms_invalid"
    pure content.2
  | _ => .error "cms_invalid"

def algorithm (value : Item) : Except String Bytes := do
  require (value.1 = 0x30) "cms_invalid"
  let parts ← children value.2 2
  match parts with
  | [] => .error "cms_invalid"
  | oid :: parameters =>
    require (oid.1 = 6 ∧ oid.2 ∈ digests ∧ (parts.length = 1 ∨ parameters = [(5, [])])) "cms_invalid"
    pure oid.2

def signer (algorithms : List Bytes) (value : Item) : Except String Unit := do
  require (value.1 = 0x30) "cms_invalid"
  match ← children value.2 7 with
  | version :: identifier :: digest :: more =>
    require (5 ≤ 3 + more.length ∧ version.1 = 2 ∧ (identifier.1 = 0x30 ∨ identifier.1 = 0x80))
      "cms_invalid"
    let used ← algorithm digest
    require (used ∈ algorithms) "cms_invalid"
  | _ => .error "cms_invalid"

def preflight (python : Interpreter) (body : Bytes) : Except String String := do
  let outer ← whole body 0x30
  let wrapped ← tagged outer signedData
  let value ← whole wrapped 0x30
  match ← children value 6 with
  | version :: declared :: encapsulated :: rest =>
    require (4 ≤ 3 + rest.length ∧ version.1 = 2 ∧ (version.2 = [1] ∨ version.2 = [3]) ∧
      declared.1 = 0x31) "cms_invalid"
    let algorithms ← (← children declared.2 4).mapM algorithm
    require (algorithms ≠ [] ∧ encapsulated.1 = 0x30) "cms_invalid"
    let content ← tagged encapsulated.2 data
    let payload ← whole content 4
    require (0 < payload.length ∧ payload.length ≤ maxProfileBytes) "cms_invalid"
    let last ← orFail rest.getLast? "cms_invalid"
    require (rest.dropLast.map Prod.fst ∈ [[], [0xa0], [0xa1], [0xa0, 0xa1]] ∧ last.1 = 0x31)
      "cms_invalid"
    let signers ← children last.2 8
    require (signers ≠ []) "cms_invalid"
    each signers (signer algorithms)
    pure (python.sha256 payload)
  | _ => .error "cms_invalid"

section Grammar

/-- A digest algorithm that is allowed, with or without its null parameter. -/
structure Algorithm where
  oid : Bytes
  null : Bool
  allowed : oid ∈ digests

def Algorithm.item (a : Algorithm) : Item :=
  (0x30, encodeAll ((6, a.oid) :: if a.null then [(5, [])] else []))

/-- A signer, named by its issuer or by its key; its signature and attributes are not looked into. -/
structure Signer where
  version : Bytes
  issuer : Bool
  identifier : Bytes
  algorithm : Algorithm
  more : List Item
  count : 2 ≤ more.length ∧ more.length ≤ 4
  low : ∀ item ∈ more, item.1 &&& 31 ≠ 31

def Signer.item (s : Signer) : Item :=
  (0x30, encodeAll ((2, s.version) :: (if s.issuer then 0x30 else 0x80, s.identifier) ::
    s.algorithm.item :: s.more))

/-- Signed content of the documented shape. -/
structure SignedData where
  version : UInt8
  known : version = 1 ∨ version = 3
  algorithms : List Algorithm
  declared : 1 ≤ algorithms.length ∧ algorithms.length ≤ 4
  content : Bytes
  bounded : 0 < content.length ∧ content.length ≤ maxProfileBytes
  certificates : Option Bytes
  revocations : Option Bytes
  signers : List Signer
  signed : 1 ≤ signers.length ∧ signers.length ≤ 8
  among : ∀ s ∈ signers, s.algorithm.oid ∈ algorithms.map Algorithm.oid

namespace SignedData

variable (s : SignedData)

/-- The optional items between the content and the signers. -/
def options : List Item :=
  (s.certificates.map fun payload => (0xa0, payload)).toList ++
    (s.revocations.map fun payload => (0xa1, payload)).toList

def encapsulated : List Item := [(6, data), (0xa0, encode (4, s.content))]

def fields : List Item :=
  (2, [s.version]) :: (0x31, encodeAll (s.algorithms.map Algorithm.item)) ::
    (0x30, encodeAll s.encapsulated) ::
    (s.options ++ [(0x31, encodeAll (s.signers.map Signer.item))])

def item : Item := (0x30, encodeAll [(6, signedData), (0xa0, encode (0x30, encodeAll s.fields))])

theorem options_length : s.options.length ≤ 2 := by
  rw [options]
  cases s.certificates <;> cases s.revocations <;> simp

theorem length_fields : s.fields.length ≤ 6 := by
  have few := s.options_length
  simp only [fields, List.length_cons, List.length_append, List.length_nil]
  omega

theorem fields_low : ∀ item ∈ s.fields, item.1 &&& 31 ≠ 31 := by
  simp only [fields, options, List.forall_mem_cons, List.forall_mem_append]
  refine ⟨by decide, by decide, by decide, ⟨?_, ?_⟩, by decide, nofun⟩
  · cases s.certificates with
    | none => exact nofun
    | some payload =>
      simp only [Option.map_some, Option.toList_some, List.forall_mem_cons]
      exact ⟨by decide, nofun⟩
  · cases s.revocations with
    | none => exact nofun
    | some payload =>
      simp only [Option.map_some, Option.toList_some, List.forall_mem_cons]
      exact ⟨by decide, nofun⟩

theorem signers_mem : (0x31, encodeAll (s.signers.map Signer.item)) ∈ s.fields :=
  .tail _ (.tail _ (.tail _ (List.mem_append_right _ (.head _))))

end SignedData

end Grammar

theorem whole_eq_ok {body payload : Bytes} {tag : UInt8} :
    whole body tag = .ok payload ↔ Fits (tag, payload) ∧ body = encode (tag, payload) := by
  simp only [whole, bind_eq_ok, require_eq_ok, pure_eq_ok, Prod.exists, tlv_eq_ok, Nat.zero_add,
    List.drop_zero]
  constructor
  · rintro ⟨_, _, _, ⟨fits, size, front⟩, _, ⟨rfl, rfl⟩, rfl⟩
    exact ⟨fits, (front.eq_of_length size.symm).symm⟩
  · rintro ⟨fits, rfl⟩
    exact ⟨tag, payload, _, ⟨fits, rfl, List.prefix_rfl⟩, (), ⟨rfl, rfl⟩, rfl⟩

theorem tagged_eq_ok {body oid payload : Bytes} (short : body.length < 2 ^ 32) :
    tagged body oid = .ok payload ↔ body = encodeAll [(6, oid), (0xa0, payload)] := by
  rw [tagged, bind_eq_ok]
  constructor
  · rintro ⟨items, read, h⟩
    obtain ⟨-, -, rfl⟩ := children_eq_ok.mp read
    split at h
    · simp only [bind_eq_ok, require_eq_ok, pure_eq_ok] at h
      obtain ⟨_, ⟨rfl, tag⟩, rfl⟩ := h
      rw [← tag]
    · cases h
  · rintro rfl
    refine ⟨_, children_encodeAll le_rfl ?_ short, ?_⟩
    · simp only [List.forall_mem_cons]
      exact ⟨by decide, by decide, by rintro _ ⟨⟩⟩
    · simp [require]

theorem algorithm_eq_ok {value : Item} {oid : Bytes} (short : value.2.length < 2 ^ 32) :
    algorithm value = .ok oid ↔ ∃ a : Algorithm, value = a.item ∧ oid = a.oid := by
  simp only [algorithm, bind_eq_ok, require_eq_ok]
  constructor
  · rintro ⟨_, tag, parts, read, h⟩
    obtain ⟨room, -, whole⟩ := children_eq_ok.mp read
    split at h
    · cases h
    · rename_i first parameters
      obtain ⟨kind, oid⟩ := first
      simp only [bind_eq_ok, require_eq_ok, pure_eq_ok] at h
      obtain ⟨_, ⟨rfl, allowed, parameters⟩, rfl⟩ := h
      cases parameters with
      | inl alone =>
        obtain rfl := List.length_eq_zero_iff.mp (Nat.succ.inj alone)
        exact ⟨⟨oid, false, allowed⟩, Prod.ext tag whole, rfl⟩
      | inr null =>
        subst null
        exact ⟨⟨oid, true, allowed⟩, Prod.ext tag whole, rfl⟩
  · rintro ⟨⟨oid, null, allowed⟩, rfl, rfl⟩
    cases null with
    | false =>
      refine ⟨(), rfl, _, children_encodeAll (Nat.succ_le_succ (Nat.zero_le 1)) ?_ short, ?_⟩
      · simp only [List.forall_mem_cons]
        exact ⟨by decide, by rintro _ ⟨⟩⟩
      · simp [require, allowed]
    | true =>
      refine ⟨(), rfl, _, children_encodeAll le_rfl ?_ short, ?_⟩
      · simp only [List.forall_mem_cons, if_true]
        exact ⟨by decide, by decide, by rintro _ ⟨⟩⟩
      · simp [require, allowed]

theorem signer_eq_ok {algorithms : List Bytes} {value : Item} (short : value.2.length < 2 ^ 32) :
    signer algorithms value = .ok () ↔
      ∃ s : Signer, value = s.item ∧ s.algorithm.oid ∈ algorithms := by
  simp only [signer, bind_eq_ok, require_eq_ok]
  constructor
  · rintro ⟨_, tag, parts, read, h⟩
    obtain ⟨room, fits, whole⟩ := children_eq_ok.mp read
    split at h
    · rename_i version identifier digest more
      obtain ⟨two, version⟩ := version
      obtain ⟨named, identifier⟩ := identifier
      simp only [bind_eq_ok, require_eq_ok] at h
      obtain ⟨_, ⟨least, rfl, named⟩, oid, used, among⟩ := h
      simp only [List.forall_mem_cons] at fits
      obtain ⟨a, rfl, rfl⟩ := (algorithm_eq_ok fits.2.2.1.short).mp used
      simp only [List.length_cons] at room
      have low : ∀ item ∈ more, item.1 &&& 31 ≠ 31 := fun item mem => (fits.2.2.2 item mem).tag
      have count : 2 ≤ more.length ∧ more.length ≤ 4 := by omega
      cases named with
      | inl issuer =>
        exact ⟨⟨version, true, identifier, a, more, count, low⟩,
          Prod.ext tag (whole.trans (by rw [show named = 0x30 from issuer]; rfl)), among⟩
      | inr key =>
        exact ⟨⟨version, false, identifier, a, more, count, low⟩,
          Prod.ext tag (whole.trans (by rw [show named = 0x80 from key]; rfl)), among⟩
    · cases h
  · rintro ⟨s, rfl, among⟩
    have room := s.count
    refine ⟨(), rfl, _, children_encodeAll ?_ ?_ short, ?_⟩
    · simp only [List.length_cons]
      omega
    · simp only [List.forall_mem_cons]
      refine ⟨by decide, ?_, show (0x30 : UInt8) &&& 31 ≠ 31 by decide, s.low⟩
      cases s.issuer <;> decide
    · have inner : s.algorithm.item.2.length < 2 ^ 32 :=
        (length_payload_le (.tail _ (.tail _ (.head _)))).trans_lt short
      simp only [bind_eq_ok, require_eq_ok]
      refine ⟨(), ⟨by omega, trivial, ?_⟩, _, (algorithm_eq_ok inner).mpr ⟨_, rfl, rfl⟩, among⟩
      cases s.issuer
      · exact .inr rfl
      · exact .inl rfl

/-- A list of items that each stand for something is one of such things. -/
theorem exists_map {α : Type} {f : α → Item} {p : α → Prop} {items : List Item} :
    (∀ item ∈ items, ∃ a, item = f a ∧ p a) ↔ ∃ as : List α, items = as.map f ∧ ∀ a ∈ as, p a := by
  induction items with
  | nil => exact iff_of_true nofun ⟨[], rfl, nofun⟩
  | cons item items ih =>
    rw [List.forall_mem_cons, ih]
    constructor
    · rintro ⟨⟨a, rfl, first⟩, as, rfl, rest⟩
      exact ⟨a :: as, rfl, List.forall_mem_cons.mpr ⟨first, rest⟩⟩
    · rintro ⟨as, same, each⟩
      cases as with
      | nil => nomatch same
      | cons a as =>
        obtain ⟨rfl, rfl⟩ := List.cons.inj same
        obtain ⟨first, rest⟩ := List.forall_mem_cons.mp each
        exact ⟨⟨a, rfl, first⟩, as, rfl, rest⟩

theorem algorithms_eq_ok {items : List Item} {oids : List Bytes}
    (short : ∀ item ∈ items, item.2.length < 2 ^ 32) :
    items.mapM algorithm = .ok oids ↔
      ∃ as : List Algorithm, items = as.map Algorithm.item ∧ oids = as.map Algorithm.oid := by
  induction items generalizing oids with
  | nil =>
    rw [List.mapM_nil, pure_eq_ok]
    constructor
    · rintro rfl
      exact ⟨[], rfl, rfl⟩
    · rintro ⟨as, none, rfl⟩
      rw [List.map_eq_nil_iff.mp none.symm]
      rfl
  | cons item items ih =>
    obtain ⟨first, rest⟩ := List.forall_mem_cons.mp short
    simp only [List.mapM_cons, bind_eq_ok, pure_eq_ok, algorithm_eq_ok first, ih rest]
    constructor
    · rintro ⟨_, ⟨a, rfl, rfl⟩, _, ⟨as, rfl, rfl⟩, rfl⟩
      exact ⟨a :: as, rfl, rfl⟩
    · rintro ⟨as, same, rfl⟩
      cases as with
      | nil => cases same
      | cons a as =>
        obtain ⟨rfl, rfl⟩ := List.cons.inj same
        exact ⟨_, ⟨a, rfl, rfl⟩, _, ⟨as, rfl, rfl⟩, rfl⟩

theorem map_fst_singleton {items : List Item} {tag : UInt8} (h : items.map Prod.fst = [tag]) :
    ∃ payload, items = [(tag, payload)] := by
  obtain ⟨⟨_, payload⟩, rfl, rfl⟩ := List.map_eq_singleton_iff.mp h
  exact ⟨payload, rfl⟩

/-- The items before the signers. -/
theorem options_eq {items : List Item} :
    items.map Prod.fst ∈ [[], [0xa0], [0xa1], [0xa0, 0xa1]] ↔
      ∃ certificates revocations : Option Bytes, items =
        (certificates.map fun payload => (0xa0, payload)).toList ++
          (revocations.map fun payload => (0xa1, payload)).toList := by
  simp only [List.mem_cons, List.not_mem_nil, or_false]
  constructor
  · rintro (none | first | second | both)
    · exact ⟨.none, .none, List.map_eq_nil_iff.mp none⟩
    · obtain ⟨payload, rfl⟩ := map_fst_singleton first
      exact ⟨some payload, .none, rfl⟩
    · obtain ⟨payload, rfl⟩ := map_fst_singleton second
      exact ⟨.none, some payload, rfl⟩
    · obtain ⟨⟨_, first⟩, more, rfl, rfl, last⟩ := List.map_eq_cons_iff.mp both
      obtain ⟨second, rfl⟩ := map_fst_singleton last
      exact ⟨some first, some second, rfl⟩
  · rintro ⟨certificates, revocations, rfl⟩
    cases certificates <;> cases revocations <;> simp

/-- A profile passes exactly when it is the encoding of signed content of the documented shape. -/
theorem preflight_eq_ok {python : Interpreter} {body : Bytes} {found : String} :
    preflight python body = .ok found ↔ ∃ s : SignedData,
      s.item.2.length < 2 ^ 32 ∧ body = encode s.item ∧ found = python.sha256 s.content := by
  simp only [preflight, bind_eq_ok, whole_eq_ok]
  constructor
  · rintro ⟨outer, ⟨fits, rfl⟩, wrapped, first, value, second, items, read, h⟩
    have short := fits.short
    rw [tagged_eq_ok short] at first
    subst first
    obtain ⟨-, rfl⟩ := second
    obtain ⟨room, each, rfl⟩ := children_eq_ok.mp read
    split at h
    · rename_i version declared encapsulated rest
      obtain ⟨two, version⟩ := version
      obtain ⟨set, declared⟩ := declared
      obtain ⟨sequence, encapsulated⟩ := encapsulated
      simp only [bind_eq_ok, require_eq_ok, orFail_eq_ok, each_eq_ok, whole_eq_ok, pure_eq_ok] at h
      obtain ⟨_, ⟨least, rfl, known, rfl⟩, items', listed, oids, algorithms, _, ⟨some, rfl⟩, content,
        inner, payload, ⟨_, rfl⟩, _, bounded, last, ended, _, ⟨options, set⟩, signers, signed, _, any, _,
        checked, rfl⟩ := h
      simp only [List.forall_mem_cons] at each
      obtain ⟨four, each', rfl⟩ := children_eq_ok.mp listed
      obtain ⟨as, rfl, rfl⟩ := (algorithms_eq_ok fun item mem => (each' item mem).short).mp algorithms
      rw [tagged_eq_ok each.2.2.1.short] at inner
      subst inner
      obtain ⟨options', rfl⟩ := List.getLast?_eq_some_iff.mp ended
      rw [List.dropLast_concat] at options
      obtain ⟨certificates, revocations, rfl⟩ := options_eq.mp options
      obtain ⟨tag, last⟩ := last
      obtain rfl : tag = 0x31 := set
      obtain ⟨eight, each'', rfl⟩ := children_eq_ok.mp signed
      have signer : ∀ item ∈ signers, ∃ s : Signer, item = s.item ∧
          s.algorithm.oid ∈ as.map Algorithm.oid :=
        fun item mem => (signer_eq_ok (each'' item mem).short).mp (checked item mem)
      obtain ⟨ss, rfl, among⟩ := exists_map.mp signer
      obtain ⟨v, rfl, known'⟩ : ∃ v : UInt8, version = [v] ∧ (v = 1 ∨ v = 3) :=
        known.elim (fun one => ⟨1, one, .inl rfl⟩) fun three => ⟨3, three, .inr rfl⟩
      rw [List.length_map] at four eight
      have oneAlgorithm := List.length_pos_of_ne_nil some
      have oneSigner := List.length_pos_of_ne_nil any
      rw [List.length_map] at oneAlgorithm oneSigner
      exact ⟨⟨v, known', as, ⟨oneAlgorithm, four⟩, payload, bounded, certificates, revocations, ss,
        ⟨oneSigner, eight⟩, among⟩, short, rfl, rfl⟩
    · cases h
  · rintro ⟨s, short, rfl, rfl⟩
    have contained : (encode (0x30, encodeAll s.fields)).length ≤ s.item.2.length :=
      @length_payload_le (0xa0, encode (0x30, encodeAll s.fields)) [_, _] (.tail _ (.head _))
    have inner := ((length_payload_lt (0x30, encodeAll s.fields)).trans_le contained).trans short
    have sequence : (0x30 : UInt8) &&& 31 ≠ 31 := by decide
    refine ⟨_, ⟨⟨sequence, short⟩, rfl⟩, _, (tagged_eq_ok short).mpr rfl, _, ⟨⟨sequence, inner⟩, rfl⟩,
      s.fields, children_encodeAll s.length_fields s.fields_low inner, ?_⟩
    have declared : (encodeAll (s.algorithms.map Algorithm.item)).length < 2 ^ 32 :=
      (@length_payload_le (0x31, _) s.fields (.tail _ (.head _))).trans_lt inner
    have content : (encodeAll s.encapsulated).length < 2 ^ 32 :=
      (@length_payload_le (0x30, _) s.fields (.tail _ (.tail _ (.head _)))).trans_lt inner
    have signers : (encodeAll (s.signers.map Signer.item)).length < 2 ^ 32 :=
      (@length_payload_le (0x31, _) s.fields s.signers_mem).trans_lt inner
    have payload : s.content.length < 2 ^ 32 :=
      ((length_payload_lt (4, s.content)).trans_le
        (@length_payload_le (0xa0, _) s.encapsulated (.tail _ (.head _)))).trans content
    simp only [SignedData.fields, bind_eq_ok, require_eq_ok, orFail_eq_ok, each_eq_ok, whole_eq_ok,
      pure_eq_ok]
    have octets : (4 : UInt8) &&& 31 ≠ 31 := by decide
    refine ⟨(), ⟨?_, trivial, ?_, trivial⟩, _, children_encodeAll ?_ ?_ declared, _,
      (algorithms_eq_ok ?_).mpr ⟨_, rfl, rfl⟩, (), ⟨?_, trivial⟩, _, (tagged_eq_ok content).mpr rfl, _,
      ⟨⟨octets, payload⟩, rfl⟩, (), s.bounded, _, List.getLast?_concat, (), ⟨?_, rfl⟩, _,
      children_encodeAll ?_ ?_ signers, (), ?_, (), ?_, rfl⟩
    · rw [List.length_append, List.length_singleton]
      omega
    · exact s.known.imp (congrArg fun v => [v]) (congrArg fun v => [v])
    · rw [List.length_map]
      exact s.declared.2
    · exact List.forall_mem_map.mpr fun a _ => sequence
    · exact fun item mem => (length_payload_le mem).trans_lt declared
    · exact List.ne_nil_of_length_pos (by rw [List.length_map]; exact s.declared.1)
    · rw [List.dropLast_concat, options_eq]
      exact ⟨s.certificates, s.revocations, rfl⟩
    · rw [List.length_map]
      exact s.signed.2
    · exact List.forall_mem_map.mpr fun a _ => sequence
    · exact List.ne_nil_of_length_pos (by rw [List.length_map]; exact s.signed.1)
    · intro item mem
      refine (signer_eq_ok ((length_payload_le mem).trans_lt signers)).mpr ?_
      obtain ⟨signer, inside, rfl⟩ := List.mem_map.mp mem
      exact ⟨signer, rfl, s.among signer inside⟩

/-- Reading is exact: a list of items is read from its encoding only, and what passes before the
native parser is one encoding of signed content. -/
theorem reading_exact (python : Interpreter) :
    (∀ body maximum items, children body maximum = .ok items ↔
      items.length ≤ maximum ∧ (∀ item ∈ items, Fits item) ∧ body = encodeAll items) ∧
    (∀ body body' maximum maximum' items, children body maximum = .ok items →
      children body' maximum' = .ok items → body = body') ∧
    ∀ body found, preflight python body = .ok found ↔ ∃ s : SignedData,
      s.item.2.length < 2 ^ 32 ∧ body = encode s.item ∧ found = python.sha256 s.content := by
  refine ⟨fun _ _ _ => children_eq_ok, fun body body' maximum maximum' items first second => ?_,
    fun _ _ => preflight_eq_ok⟩
  exact (children_eq_ok.mp first).2.2.trans (children_eq_ok.mp second).2.2.symm

end Reproof.Provisioning
