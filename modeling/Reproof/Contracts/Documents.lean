import Reproof.Contracts.Versions
import Reproof.Library.Checked
import Reproof.Library.Json

/-! The rules that documents of several components share. -/

namespace Reproof.Contracts

open Library

abbrev Bytes := List UInt8

def utf8 (text : String) : Bytes := text.toByteArray.data.toList

/-- The parts of the interpreter that come from tables or from hash functions; `depth` is what its
recursion limit leaves to the JSON encoder and decoder. -/
structure Interpreter where
  lower : String → String
  casefold : String → String
  nfc : String → String
  float : List Char → String
  depth : Nat
  sha256 : Bytes → String
  hmac : Bytes → Bytes → String

def exactly (document : Json) (required : List String) : Except String (List (String × Json)) :=
  match document with
  | .dict pairs => do
    require ((pairs.map Prod.fst).Perm required) "Unknown or missing contract field"
    pure pairs
  | _ => .error "Contract must be an object"

/-- `document[key]`. -/
def item (pairs : List (String × Json)) (key : String) : Except String Json :=
  orFail ((pairs.find? fun pair => pair.1 = key).map Prod.snd) key

def validateId (value : Json) : Except String String :=
  match value with
  | .str text => do
    require (isIdentifier text) "Invalid id"
    pure text
  | _ => .error "Invalid id"

def validateDigest (value : Json) : Except String String :=
  match value with
  | .str text => do
    require (isDigest text) "Invalid digest"
    pure text
  | _ => .error "Invalid digest"

def boundedInt (value : Json) (field : String) (low high : Int) : Except String Int :=
  match value with
  | .int n => do
    require (low ≤ n ∧ n ≤ high) ("Invalid " ++ field)
    pure n
  | _ => .error ("Invalid " ++ field)

def boundedList (value : Json) (field : String) (maximum minimum : Nat) :
    Except String (List Json) :=
  match value with
  | .list items => do
    require (minimum ≤ items.length ∧ items.length ≤ maximum) ("Invalid " ++ field)
    pure items
  | _ => .error ("Invalid " ++ field)

def boundedText (value : Json) (field : String) (limit : Nat) : Except String String :=
  match value with
  | .str text => do
    require (0 < text.length ∧ text.length ≤ limit) ("Invalid " ++ field)
    require (∀ c ∈ text.toList, ¬ (c.toNat < 32 ∨ c.toNat = 127)) ("Invalid " ++ field)
    require ((utf8 text).length ≤ limit) ("Invalid " ++ field)
    pure text
  | _ => .error ("Invalid " ++ field)

/-- `value.split('/')`. -/
def pathParts (value : String) : List String := (value.toList.splitOn '/').map String.ofList

/-- `str(PurePosixPath(value))` of a relative path. -/
def purePosixPath (value : String) : String :=
  match (pathParts value).filter (· ∉ ["", "."]) with
  | [] => "."
  | parts => "/".intercalate parts

def endsWith (text : String) (suffixes : List String) : Prop :=
  ∃ ending ∈ suffixes, ending.toList <:+ text.toList

instance (text : String) (suffixes : List String) : Decidable (endsWith text suffixes) :=
  inferInstanceAs (Decidable (∃ ending ∈ suffixes, _))

def secrets : List String :=
  ["auth.json", "credentials", "credentials.json", "id_rsa", "id_ed25519", "id_ecdsa", "id_dsa",
    ".netrc", ".npmrc", ".pypirc"]

def secretSuffixes : List String := [".keystore", ".jks", ".p12", ".pfx", ".pem", ".key"]

def safeRelativePath (python : Interpreter) (value : Json) : Except String String := do
  let text ← boundedText value "path" 1024
  require ('\\' ∉ text.toList ∧ ¬ ['/'] <+: text.toList) "Invalid path"
  require (∀ part ∈ pathParts text, part ∉ ["", ".", ".."]) "Invalid path"
  require (purePosixPath text = text) "Invalid path"
  require (∀ part ∈ (pathParts text).map python.lower,
    ¬ (part ∈ secrets ∨ ".env".toList <+: part.toList ∨ endsWith part secretSuffixes)) "Invalid path"
  pure text

/-- The bytes of `json.dumps(value, sort_keys=True, separators=(",", ":"), ensure_ascii=False,
allow_nan=False)`. -/
def dumps (python : Interpreter) (value : Json) : Option Bytes :=
  (value.write python.depth).map fun text => utf8 (String.ofList text)

def digest (python : Interpreter) (value : Json) : Except String String := do
  let raw ← orFail (dumps python value) "Contract contains non-JSON data"
  pure (python.sha256 raw)

theorem exactly_eq {document : Json} {required : List String} {pairs : List (String × Json)}
    (h : exactly document required = .ok pairs) :
    document = .dict pairs ∧ (pairs.map Prod.fst).Perm required := by
  cases document with
  | dict found =>
    simp only [exactly, bind_eq_ok, require_eq_ok, pure_eq_ok] at h
    obtain ⟨_, perm, rfl⟩ := h
    exact ⟨rfl, perm⟩
  | _ => cases h

theorem mem_of_item {pairs : List (String × Json)} {key : String} {value : Json}
    (h : item pairs key = .ok value) : (key, value) ∈ pairs := by
  simp only [item, orFail_eq_ok, Option.map_eq_some_iff] at h
  obtain ⟨⟨k, v⟩, found, rfl⟩ := h
  have same : k = key := by simpa using List.find?_some found
  exact same ▸ List.mem_of_find?_eq_some found

/-- A document with exactly the keys of `qs`, and a value under each that is the same. -/
theorem exactly_same {document : Json} {pairs qs : List (String × Json)}
    (h : exactly document (qs.map Prod.fst) = .ok pairs) (nodup : (qs.map Prod.fst).Nodup)
    (items : ∀ key b, (key, b) ∈ qs → ∃ a, item pairs key = .ok a ∧ a.Same b) :
    document.Same (.dict qs) := by
  obtain ⟨rfl, perm⟩ := exactly_eq h
  have once := perm.nodup_iff.mpr nodup
  refine .dict once perm fun key a b left right => ?_
  obtain ⟨found, hfound, same⟩ := items key b right
  have unique : a = found :=
    congrArg Prod.snd (List.inj_on_of_nodup_map once left (mem_of_item hfound) rfl)
  rw [unique]
  exact same

theorem validateDigest_eq {value : Json} {text : String} (h : validateDigest value = .ok text) :
    value = .str text ∧ isDigest text := by
  cases value with
  | str found =>
    simp only [validateDigest, bind_eq_ok, require_eq_ok, pure_eq_ok] at h
    obtain ⟨_, valid, rfl⟩ := h
    exact ⟨rfl, valid⟩
  | _ => cases h

theorem boundedInt_eq {value : Json} {field : String} {low high n : Int}
    (h : boundedInt value field low high = .ok n) : value = .int n ∧ low ≤ n ∧ n ≤ high := by
  cases value with
  | int found =>
    simp only [boundedInt, bind_eq_ok, require_eq_ok, pure_eq_ok] at h
    obtain ⟨_, bounds, rfl⟩ := h
    exact ⟨rfl, bounds⟩
  | _ => cases h

theorem boundedList_eq {value : Json} {field : String} {maximum minimum : Nat} {items : List Json}
    (h : boundedList value field maximum minimum = .ok items) : value = .list items := by
  cases value with
  | list found =>
    simp only [boundedList, bind_eq_ok, require_eq_ok, pure_eq_ok] at h
    obtain ⟨_, _, rfl⟩ := h
    rfl
  | _ => cases h

theorem safeRelativePath_eq {python : Interpreter} {value : Json} {text : String}
    (h : safeRelativePath python value = .ok text) : value = .str text := by
  cases value with
  | str found =>
    simp only [safeRelativePath, boundedText, bind_eq_ok, require_eq_ok, pure_eq_ok] at h
    obtain ⟨_, ⟨_, _, _, _, _, _, rfl⟩, _, _, _, _, _, _, _, _, rfl⟩ := h
    rfl
  | _ =>
    simp only [safeRelativePath, boundedText, bind_eq_ok] at h
    obtain ⟨_, bad, _⟩ := h
    cases bad

theorem utf8_injective {a b : String} (h : utf8 a = utf8 b) : a = b := by
  apply String.toByteArray_inj.mp
  exact ByteArray.ext (Array.toList_inj.mp h)

theorem utf8_ofList {text : List Char} :
    utf8 (String.ofList text) = text.flatMap String.utf8EncodeChar := by
  simp [utf8, List.utf8Encode]

theorem fromUTF8?_utf8 {text : String} : String.fromUTF8? ⟨(utf8 text).toArray⟩ = some text := by
  unfold utf8 String.fromUTF8?
  have bytes : (⟨text.toByteArray.data.toList.toArray⟩ : ByteArray) = text.toByteArray := by
    rw [Array.toArray_toList]
  simp only [bytes, dif_pos text.isValidUTF8]
  rfl

theorem dumps_eq {python : Interpreter} {value : Json} :
    dumps python value = (value.write python.depth).map (·.flatMap String.utf8EncodeChar) := by
  simp only [dumps, utf8_ofList]

theorem digest_eq {python : Interpreter} {value : Json} :
    digest python value = (orFail (value.write python.depth) "Contract contains non-JSON data").map
      fun text => python.sha256 (text.flatMap String.utf8EncodeChar) := by
  rw [digest, dumps_eq]
  cases value.write python.depth <;> rfl

/-- A list in another order is dumped to as many bytes. -/
theorem dumps_perm {python : Interpreter} {items items' : List Json} {raw : Bytes}
    (perm : items.Perm items') (dumped : dumps python (.list items) = some raw) :
    ∃ raw', dumps python (.list items') = some raw' ∧ raw'.length = raw.length := by
  simp only [dumps, Option.map_eq_some_iff] at dumped ⊢
  obtain ⟨text, written, rfl⟩ := dumped
  obtain ⟨text', written', perm'⟩ := Json.write_perm perm written
  refine ⟨_, ⟨text', written', rfl⟩, ?_⟩
  rw [utf8_ofList, utf8_ofList]
  exact (perm'.flatMap_right _).symm.length_eq

theorem dumps_same {python : Interpreter} {v w : Json} {raw : Bytes} (hv : dumps python v = some raw)
    (hw : dumps python w = some raw) : v.Same w := by
  simp only [dumps, Option.map_eq_some_iff] at hv hw
  obtain ⟨first, hfirst, rfl⟩ := hv
  obtain ⟨second, hsecond, same⟩ := hw
  have texts := String.ofList_injective (utf8_injective same)
  subst texts
  exact Json.write_same hfirst hsecond

end Reproof.Contracts
