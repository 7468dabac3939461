import Mathlib.Data.List.TakeWhile
import Mathlib.Data.List.Forall2
import Mathlib.Data.List.Sort
import Mathlib.Data.String.Basic
import Reproof.Library.Texts

/-! JSON values as a Python interpreter keeps them, their compact text with sorted keys, and the
reader of such texts. -/

namespace Reproof.Library

/-- A float stands under its `repr`. -/
inductive Json
  | null
  | bool (value : Bool)
  | int (value : Int)
  | float (repr : String)
  | str (value : String)
  | list (items : List Json)
  | dict (pairs : List (String × Json))

namespace Json

/-- The order of `sort_keys`. -/
abbrev ByKey (a b : String × Json) : Prop := a.1 ≤ b.1

instance : Std.Total ByKey := ⟨fun a b => le_total a.1 b.1⟩

instance : IsTrans (String × Json) ByKey := ⟨fun _ _ _ => le_trans⟩

instance : DecidableRel ByKey := fun a b =>
  have := fun first => decidableText b.1 fun second => ¬ second < first
  decidableText a.1 fun first => ¬ b.1.toList < first

mutual

/-- The same value with the keys of every dictionary in order. -/
def sorted : Json → Json
  | .list items => .list (sortedItems items)
  | .dict pairs => .dict ((sortedPairs pairs).insertionSort ByKey)
  | value => value

def sortedItems : List Json → List Json
  | [] => []
  | value :: rest => sorted value :: sortedItems rest

def sortedPairs : List (String × Json) → List (String × Json)
  | [] => []
  | (key, value) :: rest => (key, sorted value) :: sortedPairs rest

end

/-- Equality of values, where a dictionary has no order. -/
def Same (a b : Json) : Prop := a.sorted = b.sorted

/-- `sys.int_info.default_max_str_digits`. -/
def maxDigits : Nat := 4300

section Writer

/-- `ESCAPE_DCT`. -/
def escape (c : Char) : List Char :=
  if c = '"' then ['\\', '"']
  else if c = '\\' then ['\\', '\\']
  else if c = '\n' then ['\\', 'n']
  else if c = '\r' then ['\\', 'r']
  else if c = '\t' then ['\\', 't']
  else if c = '\x08' then ['\\', 'b']
  else if c = '\x0c' then ['\\', 'f']
  else if c.toNat < 32 then
    ['\\', 'u', '0', '0', Nat.digitChar (c.toNat / 16), Nat.digitChar (c.toNat % 16)]
  else [c]

def quote (text : String) : List Char :=
  '"' :: (text.toList.flatMap escape ++ ['"'])

/-- The digits at the front of a text, and what follows them. -/
def digits (text : List Char) : List Char × List Char :=
  (text.takeWhile Char.isDigit, text.dropWhile Char.isDigit)

/-- `-?(0|[1-9][0-9]*)`. -/
def whole : List Char → Option (List Char × List Char)
  | [] => none
  | c :: text =>
    if c = '-' then (unsigned text).map fun (found, rest) => ('-' :: found, rest)
    else unsigned (c :: text)
where
  unsigned : List Char → Option (List Char × List Char)
    | [] => none
    | c :: text =>
      if c = '0' then some (['0'], text)
      else if c.isDigit then some (digits (c :: text))
      else none

/-- `(\.[0-9]+)?`. -/
def fraction : List Char → List Char × List Char
  | [] => ([], [])
  | c :: text =>
    if c = '.' ∧ (digits text).1 ≠ [] then ('.' :: (digits text).1, (digits text).2)
    else ([], c :: text)

/-- `([eE][-+]?[0-9]+)?`. -/
def exponent : List Char → List Char × List Char
  | [] => ([], [])
  | e :: text =>
    if (e = 'e' ∨ e = 'E') ∧ (digits (signed text).2).1 ≠ [] then
      (e :: ((signed text).1 ++ (digits (signed text).2).1), (digits (signed text).2).2)
    else ([], e :: text)
where
  signed : List Char → List Char × List Char
    | [] => ([], [])
    | c :: text => if c = '-' ∨ c = '+' then ([c], text) else ([], c :: text)

/-- A number's whole part, its fraction with its exponent, and what follows. -/
def literal (text : List Char) : Option (List Char × List Char × List Char) :=
  (whole text).map fun (front, text) =>
    ((front, (fraction text).1 ++ (exponent (fraction text).2).1, (exponent (fraction text).2).2))

/-- `repr(value)` of an integer; a longer one is refused. -/
def integer (value : Int) : Option (List Char) :=
  let found := Nat.toDigits 10 value.natAbs
  if found.length ≤ maxDigits then some (if value < 0 then '-' :: found else found) else none

/-- The text of a value that holds no other; `nan` and the infinities have none. -/
def scalar : Json → Option (List Char)
  | .null => some ['n', 'u', 'l', 'l']
  | .bool true => some ['t', 'r', 'u', 'e']
  | .bool false => some ['f', 'a', 'l', 's', 'e']
  | .int value => integer value
  | .float repr =>
    match literal repr.toList with
    | some (_, _ :: _, []) => some repr.toList
    | _ => none
  | .str text => some (quote text)
  | .list _ => none
  | .dict _ => none

def join : List (List Char) → List Char
  | [] => []
  | [part] => part
  | part :: rest => part ++ ',' :: join rest

/-- The text of a value whose lists and dictionaries are at most `depth` deep. -/
def write : Nat → Json → Option (List Char)
  | depth + 1, .list items => (items.mapM (write depth)).map fun parts => '[' :: (join parts ++ [']'])
  | depth + 1, .dict pairs =>
    ((pairs.insertionSort ByKey).mapM fun pair =>
      (write depth pair.2).map fun text => quote pair.1 ++ ':' :: text).map fun parts =>
        '\x7b' :: (join parts ++ ['\x7d'])
  | _, value => scalar value

/-- `write`, with the text of a string from elsewhere. -/
def writeWith (quoted : String → List Char) : Nat → Json → Option (List Char)
  | depth + 1, .list items => (items.mapM (writeWith quoted depth)).map fun parts => '[' :: (join parts ++ [']'])
  | depth + 1, .dict pairs =>
    ((pairs.insertionSort ByKey).mapM fun pair =>
      (writeWith quoted depth pair.2).map fun text => quoted pair.1 ++ ':' :: text).map fun parts =>
        '\x7b' :: (join parts ++ ['\x7d'])
  | _, .str text => some (quoted text)
  | _, value => scalar value

theorem writeWith_quote : ∀ {depth : Nat}, writeWith quote depth = write depth
  | 0 => by
    funext value
    cases value <;> rfl
  | depth + 1 => by
    funext value
    cases value with
    | list items => rw [writeWith, write, writeWith_quote]
    | dict pairs => rw [writeWith, write, writeWith_quote]
    | _ => rfl

/-- A text is evaluated from the bytes of its strings. -/
theorem write_eq {depth : Nat} :
    write depth = writeWith (fun text => '"' :: ((charsOf text).flatMap escape ++ ['"'])) depth := by
  rw [← writeWith_quote, show quote = _ from funext fun text => by rw [quote, ← charsOf_eq]]

end Writer

section Reader

/-- `float(text)`, as the `repr` of its result, and `object_pairs_hook`. -/
structure Reader where
  float : List Char → String
  hook : List (String × Json) → Option (List (String × Json))

def skip (text : List Char) : List Char :=
  text.dropWhile fun c => c = ' ' ∨ c = '\t' ∨ c = '\n' ∨ c = '\r'

def unescape (c : Char) : Option Char :=
  if c = '"' then some '"'
  else if c = '\\' then some '\\'
  else if c = '/' then some '/'
  else if c = 'b' then some '\x08'
  else if c = 'f' then some '\x0c'
  else if c = 'n' then some '\n'
  else if c = 'r' then some '\r'
  else if c = 't' then some '\t'
  else none

def hexValue (c : Char) : Option Nat :=
  if '0' ≤ c ∧ c ≤ '9' then some (c.toNat - 48)
  else if 'a' ≤ c ∧ c ≤ 'f' then some (c.toNat - 87)
  else if 'A' ≤ c ∧ c ≤ 'F' then some (c.toNat - 55)
  else none

def codePoint (a b c d : Char) : Option Nat := do
  let a ← hexValue a
  let b ← hexValue b
  let c ← hexValue c
  let d ← hexValue d
  some (4096 * a + 256 * b + 16 * c + d)

/-- A string after its opening quote. One with a lone surrogate, which has no UTF-8 form, is refused
here and not when it is next encoded. -/
def scan : List Char → Option (List Char × List Char)
  | [] => none
  | c :: text =>
    if c = '"' then some ([], text)
    else if c = '\\' then
      match text with
      | 'u' :: a :: b :: c :: d :: text => do
        let code ← codePoint a b c d
        if 0xd800 ≤ code ∧ code < 0xdc00 then
          match text with
          | '\\' :: 'u' :: a :: b :: c :: d :: text => do
            let low ← codePoint a b c d
            if 0xdc00 ≤ low ∧ low < 0xe000 then
              (scan text).map fun (found, rest) =>
                (Char.ofNat (0x10000 + 1024 * (code - 0xd800) + (low - 0xdc00)) :: found, rest)
            else none
          | _ => none
        else if 0xdc00 ≤ code ∧ code < 0xe000 then none
        else (scan text).map fun (found, rest) => (Char.ofNat code :: found, rest)
      | c :: text => do
        let c ← unescape c
        (scan text).map fun (found, rest) => (c :: found, rest)
      | [] => none
    else if c.toNat < 32 then none
    else (scan text).map fun (found, rest) => (c :: found, rest)

/-- `int(text)`. -/
def ofWhole : List Char → Option Int
  | '-' :: found => if found.length ≤ maxDigits then some (-Nat.ofDigitChars 10 found 0) else none
  | found => if found.length ≤ maxDigits then some (Nat.ofDigitChars 10 found 0) else none

def number (r : Reader) (text : List Char) : Option (Json × List Char) :=
  match literal text with
  | some (front, [], rest) => (ofWhole front).map fun value => (.int value, rest)
  | some (front, part, rest) => some (.float (r.float (front ++ part)), rest)
  | none => none

/-- `NaN` and the infinities are no constants here. -/
def single (r : Reader) : List Char → Option (Json × List Char)
  | '"' :: text => (scan text).map fun (found, rest) => (.str (String.ofList found), rest)
  | 'n' :: 'u' :: 'l' :: 'l' :: text => some (.null, text)
  | 't' :: 'r' :: 'u' :: 'e' :: text => some (.bool true, text)
  | 'f' :: 'a' :: 'l' :: 's' :: 'e' :: text => some (.bool false, text)
  | text => number r text

/-- Items with commas between them, up to `close`. -/
def elements {α : Type} (read : List Char → Option (α × List Char)) (close : Char) :
    Nat → List Char → Option (List α × List Char)
  | 0, _ => none
  | room + 1, text => do
    let (item, text) ← read text
    match skip text with
    | [] => none
    | c :: text =>
      if c = ',' then
        (elements read close room (skip text)).map fun (items, rest) => (item :: items, rest)
      else if c = close then some ([item], text)
      else none

/-- A key with its value. -/
def member (read : List Char → Option (Json × List Char)) :
    List Char → Option ((String × Json) × List Char)
  | '"' :: text => do
    let (key, text) ← scan text
    match skip text with
    | ':' :: text => (read (skip text)).map fun (item, rest) => ((String.ofList key, item), rest)
    | _ => none
  | _ => none

/-- `scan_once`, with `depth` more lists and dictionaries to enter. -/
def value (r : Reader) : Nat → List Char → Option (Json × List Char)
  | depth + 1, '[' :: text =>
    match skip text with
    | ']' :: text => some (.list [], text)
    | text =>
      (elements (value r depth) ']' text.length text).map fun (items, rest) => (.list items, rest)
  | depth + 1, '\x7b' :: text =>
    match skip text with
    | '\x7d' :: text => (r.hook []).map fun pairs => (.dict pairs, text)
    | text => do
      let (pairs, rest) ← elements (member (value r depth)) '\x7d' text.length text
      (r.hook pairs).map fun pairs => (.dict pairs, rest)
  | _, text => single r text

/-- `json.loads(text)`. -/
def read (r : Reader) (depth : Nat) (text : List Char) : Option Json := do
  let (found, rest) ← value r depth (skip text)
  if skip rest = [] then some found else none

end Reader

section Strings

theorem hexValue_digitChar : ∀ n < 16, hexValue (Nat.digitChar n) = some n := by decide

theorem codePoint_control {n : Nat} (control : n < 32) :
    codePoint '0' '0' (Nat.digitChar (n / 16)) (Nat.digitChar (n % 16)) = some n := by
  have zero : hexValue '0' = some 0 := by decide
  have high := hexValue_digitChar (n / 16) (by omega)
  have low := hexValue_digitChar (n % 16) (by omega)
  simp only [codePoint, zero, high, low, Option.bind_eq_bind, Option.bind_some, Option.some.injEq]
  omega

@[simp] theorem scan_close {text : List Char} : scan ('"' :: text) = some ([], text) := by
  rw [scan.eq_def]
  rfl

theorem scan_plain {c : Char} {text : List Char} (quoted : c ≠ '"') (slash : c ≠ '\\')
    (control : ¬ c.toNat < 32) :
    scan (c :: text) = (scan text).map fun (found, rest) => (c :: found, rest) := by
  rw [scan.eq_def]
  simp only [if_neg quoted, if_neg slash, if_neg control]

theorem scan_unescape {c k : Char} {text : List Char} (h : unescape c = some k) :
    scan ('\\' :: c :: text) = (scan text).map fun (found, rest) => (k :: found, rest) := by
  have unicode : c ≠ 'u' := by
    rintro rfl
    nomatch h
  rw [scan]
  · simp [h]
  · exact fun _ _ _ _ _ same => absurd same unicode

theorem scan_escape (c : Char) (text : List Char) :
    scan (escape c ++ text) = (scan text).map fun (found, rest) => (c :: found, rest) := by
  unfold escape
  split_ifs with quoted slash newline ret tab back feed control
  case pos => exact scan_unescape (by subst quoted; decide)
  case pos => exact scan_unescape (by subst slash; decide)
  case pos => exact scan_unescape (by subst newline; decide)
  case pos => exact scan_unescape (by subst ret; decide)
  case pos => exact scan_unescape (by subst tab; decide)
  case pos => exact scan_unescape (by subst back; decide)
  case pos => exact scan_unescape (by subst feed; decide)
  case pos =>
    have below : ¬ (0xd800 ≤ c.toNat) := by omega
    have low : ¬ (0xdc00 ≤ c.toNat) := by omega
    rw [scan.eq_def]
    simp [codePoint_control control, below, low, Char.ofNat_toNat]
  case neg => exact scan_plain quoted slash control

theorem scan_quote (text : List Char) (rest : List Char) :
    scan (text.flatMap escape ++ '"' :: rest) = some (text, rest) := by
  induction text with
  | nil => exact scan_close
  | cons c text ih =>
    rw [List.flatMap_cons, List.append_assoc, scan_escape, ih]
    rfl

end Strings

section Numbers

variable {text front part after rest : List Char}

/-- A text that no number goes on into. -/
def Stops (rest : List Char) : Prop :=
  ∀ c ∈ rest.head?, ¬ c.isDigit ∧ c ≠ '.' ∧ c ≠ 'e' ∧ c ≠ 'E'

theorem stops_cons {c : Char} (h : c = ',' ∨ c = ']' ∨ c = '\x7d') : Stops (c :: rest) := by
  intro k hk
  simp only [List.head?_cons, Option.mem_def, Option.some.injEq] at hk
  subst hk
  obtain rfl | rfl | rfl := h <;> decide

theorem stops_nil : Stops [] := nofun

theorem digits_append (stops : Stops rest) :
    digits (text ++ rest) = ((digits text).1, (digits text).2 ++ rest) := by
  induction text with
  | nil =>
    cases rest with
    | nil => rfl
    | cons c rest => simp [digits, (stops c rfl).1]
  | cons c text ih =>
    simp only [digits, Prod.mk.injEq] at ih
    by_cases digit : c.isDigit
    · simp [digits, digit, ih]
    · simp [digits, digit]

theorem digits_eq : (digits text).1 ++ (digits text).2 = text := List.takeWhile_append_dropWhile

theorem unsigned_append (h : whole.unsigned text = some (front, after)) (stops : Stops rest) :
    whole.unsigned (text ++ rest) = some (front, after ++ rest) := by
  cases text with
  | nil => nomatch h
  | cons c text =>
    simp only [List.cons_append, whole.unsigned] at h ⊢
    split_ifs at h ⊢ with zero digit
    · cases h
      rfl
    · rw [← List.cons_append, digits_append stops]
      cases h
      rfl

theorem whole_append (h : whole text = some (front, after)) (stops : Stops rest) :
    whole (text ++ rest) = some (front, after ++ rest) := by
  cases text with
  | nil => nomatch h
  | cons c text =>
    simp only [List.cons_append, whole] at h ⊢
    split_ifs at h ⊢ with minus
    · simp only [Option.map_eq_some_iff, Prod.mk.injEq] at h ⊢
      obtain ⟨found, hfound, rfl, rfl⟩ := h
      exact ⟨_, unsigned_append hfound stops, rfl, rfl⟩
    · exact unsigned_append h stops

theorem fraction_append (stops : Stops rest) :
    fraction (text ++ rest) = ((fraction text).1, (fraction text).2 ++ rest) := by
  cases text with
  | nil =>
    cases rest with
    | nil => rfl
    | cons c rest => simp [fraction, (stops c rfl).2.1]
  | cons c text =>
    simp only [List.cons_append, fraction, digits_append stops]
    split_ifs <;> rfl

theorem exponent_append (h : exponent text = (part, [])) (stops : Stops rest) :
    exponent (text ++ rest) = (part, rest) := by
  cases text with
  | nil =>
    cases h
    cases rest with
    | nil => rfl
    | cons c rest => simp [exponent, (stops c rfl).2.2.1, (stops c rfl).2.2.2]
  | cons e text =>
    simp only [List.cons_append, exponent] at h ⊢
    split at h
    case isFalse => cases h
    case isTrue found =>
      have signed : exponent.signed (text ++ rest) =
          ((exponent.signed text).1, (exponent.signed text).2 ++ rest) := by
        cases text with
        | nil => exact absurd rfl found.2
        | cons c text =>
          simp only [List.cons_append, exponent.signed]
          split_ifs <;> rfl
      simp only [Prod.mk.injEq] at h
      simp only [signed, digits_append stops]
      rw [if_pos found, h.1, h.2]
      rfl

theorem literal_append (h : literal text = some (front, part, [])) (stops : Stops rest) :
    literal (text ++ rest) = some (front, part, rest) := by
  simp only [literal, Option.map_eq_some_iff, Prod.mk.injEq] at h ⊢
  obtain ⟨⟨_, after⟩, hwhole, rfl, hpart, hafter⟩ := h
  have hexponent : exponent (fraction after).2 = ((exponent (fraction after).2).1, []) :=
    Prod.ext rfl hafter
  refine ⟨_, whole_append hwhole stops, rfl, ?_⟩
  rw [fraction_append stops]
  simp only [exponent_append hexponent stops]
  exact ⟨hpart, trivial⟩

theorem whole_eq (h : whole text = some (front, after)) : front ++ after = text := by
  have unsigned {text front : List Char} (h : whole.unsigned text = some (front, after)) :
      front ++ after = text := by
    cases text with
    | nil => cases h
    | cons c text =>
      simp only [whole.unsigned] at h
      split_ifs at h with zero digit
      · cases h
        rw [zero]
        rfl
      · cases h
        exact List.takeWhile_append_dropWhile
  cases text with
  | nil => cases h
  | cons c text =>
    simp only [whole] at h
    split_ifs at h with minus
    · simp only [Option.map_eq_some_iff, Prod.mk.injEq] at h
      obtain ⟨found, hfound, rfl, rfl⟩ := h
      rw [List.cons_append, unsigned hfound, minus]
    · exact unsigned h

theorem fraction_eq : (fraction text).1 ++ (fraction text).2 = text := by
  cases text with
  | nil => rfl
  | cons c text =>
    simp only [fraction]
    split_ifs with point
    · rw [List.cons_append, digits_eq, point.1]
    · rfl

theorem exponent_eq : (exponent text).1 ++ (exponent text).2 = text := by
  cases text with
  | nil => rfl
  | cons e text =>
    have signed : (exponent.signed text).1 ++ (exponent.signed text).2 = text := by
      cases text with
      | nil => rfl
      | cons c text =>
        simp only [exponent.signed]
        split_ifs <;> rfl
    simp only [exponent]
    split_ifs
    · rw [List.cons_append, List.append_assoc, digits_eq, signed]
    · rfl

theorem literal_eq (h : literal text = some (front, part, after)) :
    front ++ part ++ after = text := by
  simp only [literal, Option.map_eq_some_iff, Prod.mk.injEq] at h
  obtain ⟨⟨_, rest⟩, hwhole, rfl, rfl, rfl⟩ := h
  rw [← whole_eq hwhole, List.append_assoc, List.append_assoc, exponent_eq, fraction_eq]

theorem head_toDigits {n : Nat} (positive : 0 < n) : (Nat.toDigits 10 n).head? ≠ some '0' := by
  induction n using Nat.strongRecOn with
  | ind n ih =>
    by_cases small : n < 10
    · have single : ∀ m < 10, 0 < m → [Nat.digitChar m].head? ≠ some '0' := by decide
      rw [Nat.toDigits_of_lt_base small]
      exact single n small positive
    · rw [Nat.toDigits_of_base_le (by decide) (by omega),
        List.head?_append_of_ne_nil _ Nat.toDigits_ne_nil]
      exact ih (n / 10) (by omega) (by omega)

theorem literal_digits {n : Nat} :
    whole.unsigned (Nat.toDigits 10 n) = some (Nat.toDigits 10 n, []) := by
  obtain rfl | positive := Nat.eq_zero_or_pos n
  · rw [Nat.toDigits_zero]
    rfl
  · have head := head_toDigits positive
    have all : ∀ c ∈ Nat.toDigits 10 n, c.isDigit = true :=
      fun c => Nat.isDigit_of_mem_toDigits (by decide) (by decide)
    cases h : Nat.toDigits 10 n with
    | nil => exact absurd h Nat.toDigits_ne_nil
    | cons c found =>
      rw [h] at head all
      have nonzero : c ≠ '0' := fun same => head (congrArg some same)
      simp only [whole.unsigned, if_neg nonzero, all c List.mem_cons_self, if_true, digits,
        Option.some.injEq, Prod.mk.injEq]
      exact ⟨List.takeWhile_eq_self_iff.mpr all, List.dropWhile_eq_nil_iff.mpr all⟩

theorem literal_integer {v : Int} (h : integer v = some text) :
    literal text = some (text, [], []) ∧ ofWhole text = some v := by
  simp only [integer] at h
  split_ifs at h with short negative
  · cases h
    have minus : whole ('-' :: Nat.toDigits 10 v.natAbs) =
        some ('-' :: Nat.toDigits 10 v.natAbs, []) := by
      simp [whole, literal_digits]
    refine ⟨by simp [literal, minus, fraction, exponent], ?_⟩
    simp only [ofWhole, if_pos short, Nat.ofDigitChars_ten_toDigits, Option.some.injEq]
    omega
  · cases h
    have all : ∀ c ∈ Nat.toDigits 10 v.natAbs, c.isDigit = true :=
      fun c => Nat.isDigit_of_mem_toDigits (by decide) (by decide)
    have plain := @literal_digits v.natAbs
    have value := @Nat.ofDigitChars_ten_toDigits v.natAbs
    cases hd : Nat.toDigits 10 v.natAbs with
    | nil => exact absurd hd Nat.toDigits_ne_nil
    | cons c found =>
      rw [hd] at all plain value short
      have unsigned : c ≠ '-' := by
        rintro rfl
        exact absurd (all '-' List.mem_cons_self) (by decide)
      refine ⟨by simp [literal, whole, unsigned, plain, fraction, exponent], ?_⟩
      rw [ofWhole]
      · rw [if_pos short, value]
        simp only [Option.some.injEq]
        omega
      · exact fun _ same => absurd (List.cons.inj same).1 unsigned

end Numbers

/-- The reader that keeps every pair and the text of every float. -/
def Reader.plain : Reader := ⟨String.ofList, some⟩

section Values

variable {v : Json} {text rest : List Char} {c : Char} {depth : Nat}

/-- The first characters of the texts of values. -/
abbrev Opens (c : Char) : Prop :=
  c = '"' ∨ c = 'n' ∨ c = 't' ∨ c = 'f' ∨ c = '-' ∨ c.isDigit ∨ c = '[' ∨ c = '\x7b'

theorem Opens.visible (h : Opens c) :
    ¬ (c = ' ' ∨ c = '\t' ∨ c = '\n' ∨ c = '\r') ∧ c ≠ ']' ∧ c ≠ '\x7d' := by
  rcases h with rfl | rfl | rfl | rfl | rfl | digit | rfl | rfl
  case inr.inr.inr.inr.inr.inl =>
    refine ⟨?_, ?_, ?_⟩
    · rintro (rfl | rfl | rfl | rfl) <;> exact absurd digit (by decide)
    · rintro rfl
      exact absurd digit (by decide)
    · rintro rfl
      exact absurd digit (by decide)
  all_goals decide

theorem skip_cons (h : ¬ (c = ' ' ∨ c = '\t' ∨ c = '\n' ∨ c = '\r')) :
    skip (c :: text) = c :: text := by
  simp [skip, h]

theorem number_single (h : c = '-' ∨ c.isDigit) (r : Reader) :
    single r (c :: text) = number r (c :: text) := by
  unfold single
  split
  case h_5 => rfl
  all_goals
    rename_i same
    cases same
    exact absurd h (by decide)

theorem value_single (list : c ≠ '[') (dict : c ≠ '\x7b') (r : Reader) :
    value r depth (c :: text) = single r (c :: text) := by
  cases depth with
  | zero => rfl
  | succ depth =>
    unfold value
    split
    case h_1 same => cases same; exact absurd rfl list
    case h_2 same => cases same; exact absurd rfl dict
    case h_3 => rfl

theorem literal_head {out : List Char × List Char × List Char} (h : literal text = some out) :
    ∃ c more, text = c :: more ∧ (c = '-' ∨ c.isDigit) := by
  cases text with
  | nil => nomatch h
  | cons c text =>
    refine ⟨c, text, rfl, ?_⟩
    by_contra bad
    obtain ⟨minus, digit⟩ := not_or.mp bad
    have nonzero : c ≠ '0' := by
      rintro rfl
      exact digit (by decide)
    simp [literal, whole, whole.unsigned, minus, digit, nonzero] at h

theorem scalar_opens (h : scalar v = some text) : ∃ c more, text = c :: more ∧ Opens c := by
  have number {out : List Char × List Char × List Char} (h : literal text = some out) :
      ∃ c more, text = c :: more ∧ Opens c := by
    obtain ⟨c, more, same, minus | digit⟩ := literal_head h
    · exact ⟨c, more, same, by simp [Opens, minus]⟩
    · exact ⟨c, more, same, by simp [Opens, digit]⟩
  cases v with
  | null => cases h; exact ⟨_, _, rfl, by decide⟩
  | bool b => cases b <;> cases h <;> exact ⟨_, _, rfl, by decide⟩
  | int v => exact number (literal_integer h).1
  | float repr =>
    simp only [scalar] at h
    split at h
    case h_1 found => cases h; exact number found
    case h_2 => nomatch h
  | str s => cases h; exact ⟨_, _, rfl, .inl rfl⟩
  | list => nomatch h
  | dict => nomatch h

theorem value_scalar (h : scalar v = some text) (stops : Stops rest) :
    value .plain depth (text ++ rest) = some (v, rest) := by
  have number {out : List Char × List Char × List Char} (h : literal text = some out) :
      value .plain depth (text ++ rest) = number .plain (text ++ rest) := by
    obtain ⟨c, more, rfl, head⟩ := literal_head h
    have list : c ≠ '[' := by
      rintro rfl
      exact absurd head (by decide)
    have dict : c ≠ '\x7b' := by
      rintro rfl
      exact absurd head (by decide)
    rw [List.cons_append, value_single list dict, number_single head]
  cases v with
  | null => cases h; exact value_single (by decide) (by decide) _
  | bool b => cases b <;> cases h <;> exact value_single (by decide) (by decide) _
  | int v =>
    obtain ⟨found, same⟩ := literal_integer h
    rw [number found, Json.number, literal_append found stops]
    simp [same]
  | float repr =>
    simp only [scalar] at h
    split at h
    case h_1 found =>
      cases h
      rw [number found, Json.number, literal_append found stops]
      have same := literal_eq found
      rw [List.append_nil] at same
      simp [Reader.plain, same]
    case h_2 => nomatch h
  | str s =>
    cases h
    rw [quote, List.cons_append, value_single (by decide) (by decide), single, List.append_assoc,
      List.singleton_append, scan_quote]
    simp
  | list => nomatch h
  | dict => nomatch h

/-- The text `part` opens as a value does, and `read` reads `a` from it. -/
structure Reads {α : Type} (read : List Char → Option (α × List Char)) (a : α) (part : List Char) :
    Prop where
  opens : ∃ c more, part = c :: more ∧ Opens c
  reads : ∀ rest, Stops rest → read (part ++ rest) = some (a, rest)

theorem Reads.skip_append {α : Type} {read : List Char → Option (α × List Char)} {a : α}
    (h : Reads read a text) : skip (text ++ rest) = text ++ rest := by
  obtain ⟨c, more, rfl, opens⟩ := h.opens
  exact skip_cons opens.visible.1

section Elements

variable {α : Type} {read : List Char → Option (α × List Char)} {close : Char} {a : α} {items : List α}
  {part : List Char} {parts : List (List Char)}

theorem skip_join (rest : List Char)
    (h : List.Forall₂ (Reads read) (a :: items) (part :: parts)) :
    skip (join (part :: parts) ++ rest) = join (part :: parts) ++ rest := by
  cases h with
  | cons first _ =>
    cases parts with
    | nil => exact first.skip_append
    | cons other parts =>
      rw [join, List.append_assoc]
      · exact first.skip_append
      · exact fun same => nomatch same

theorem length_join (h : List.Forall₂ (Reads read) items parts) :
    items.length ≤ (join parts).length := by
  induction h with
  | nil => exact Nat.le_refl _
  | @cons item part items parts first others ih =>
    obtain ⟨c, more, rfl, _⟩ := first.opens
    cases others with
    | nil => simp [join]
    | cons =>
      rw [join]
      · simp only [List.length_cons, List.length_append] at ih ⊢
        omega
      · exact fun same => nomatch same

theorem elements_join (rest : List Char) (h : List.Forall₂ (Reads read) items parts) {room : Nat}
    (closes : close = ']' ∨ close = '\x7d') (nonempty : items ≠ []) (enough : items.length ≤ room) :
    elements read close room (join parts ++ close :: rest) = some (items, rest) := by
  have white : ¬ (close = ' ' ∨ close = '\t' ∨ close = '\n' ∨ close = '\r') ∧ close ≠ ',' := by
    obtain rfl | rfl := closes <;> decide
  induction h generalizing room with
  | nil => exact absurd rfl nonempty
  | @cons item part items parts first others ih =>
    cases room with
    | zero => exact absurd enough (Nat.not_succ_le_zero _)
    | succ room =>
      cases others with
      | nil =>
        rw [join, elements, first.reads _ (stops_cons (.inr closes))]
        simp [skip_cons white.1, white.2]
      | @cons next other items parts second others =>
        have more := ih (List.cons_ne_nil _ _) (Nat.le_of_succ_le_succ enough)
        have same := skip_join (close :: rest) (.cons second others)
        rw [join, List.append_assoc, List.cons_append, elements,
          first.reads _ (stops_cons (.inl rfl))]
        · simp [skip_cons, same, more]
        · exact fun same => nomatch same

end Elements

theorem Reads.member {read : List Char → Option (Json × List Char)} (h : Reads read v text)
    (key : String) : Reads (Json.member read) (key, v) (quote key ++ ':' :: text) where
  opens := ⟨_, _, rfl, .inl rfl⟩
  reads rest stops := by
    rw [quote, List.cons_append, List.cons_append, Json.member, List.append_assoc, List.append_assoc,
      List.singleton_append, scan_quote]
    have colon : skip (':' :: (text ++ rest)) = ':' :: (text ++ rest) := skip_cons (by decide)
    simp [colon, h.skip_append, h.reads rest stops]

theorem forall₂_of_mapM {α β : Type} {f : α → Option β} {as : List α} {bs : List β}
    (h : as.mapM f = some bs) : List.Forall₂ (fun a b => f a = some b) as bs := by
  induction as generalizing bs with
  | nil => cases h; exact .nil
  | cons a as ih =>
    simp only [List.mapM_cons, Option.bind_eq_bind, Option.bind_eq_some_iff] at h
    obtain ⟨b, hb, rest, hrest, same⟩ := h
    cases same
    exact .cons hb (ih hrest)

theorem mapM_perm {α β : Type} {f : α → Option β} {as as' : List α} (perm : as.Perm as') :
    ∀ {bs}, as.mapM f = some bs → ∃ bs', as'.mapM f = some bs' ∧ bs.Perm bs' := by
  induction perm with
  | nil => exact fun h => ⟨_, h, .refl _⟩
  | cons a _ ih =>
    intro bs h
    simp only [List.mapM_cons, Option.bind_eq_bind, Option.bind_eq_some_iff] at h ⊢
    obtain ⟨b, hb, rest, hrest, ⟨⟩⟩ := h
    obtain ⟨rest', hrest', perm⟩ := ih hrest
    exact ⟨_, ⟨b, hb, rest', hrest', rfl⟩, perm.cons b⟩
  | swap a c rest =>
    intro bs h
    simp only [List.mapM_cons, Option.bind_eq_bind, Option.bind_eq_some_iff] at h ⊢
    obtain ⟨b, hb, -, ⟨d, hd, rest, hrest, ⟨⟩⟩, ⟨⟩⟩ := h
    exact ⟨_, ⟨d, hd, _, ⟨b, hb, rest, hrest, rfl⟩, rfl⟩, .swap d b rest⟩
  | trans _ _ ih ih' =>
    intro bs h
    obtain ⟨bs', h', perm⟩ := ih h
    obtain ⟨bs'', h'', perm'⟩ := ih' h'
    exact ⟨bs'', h'', perm.trans perm'⟩

theorem join_comma : ∀ {parts : List (List Char)}, parts ≠ [] →
    join parts ++ [','] = parts.flatMap (· ++ [','])
  | [part], _ => by simp [join]
  | part :: next :: rest, _ => by
    have tail : join (next :: rest) ++ [','] = _ := join_comma (List.cons_ne_nil next rest)
    rw [List.flatMap_cons, ← tail]
    change part ++ ',' :: join (next :: rest) ++ [','] = _
    simp

theorem join_perm {parts parts' : List (List Char)} (perm : parts.Perm parts') :
    (join parts).Perm (join parts') := by
  cases parts with
  | nil => rw [perm.nil_eq]
  | cons part rest =>
    have filled : parts' ≠ [] := fun none => List.cons_ne_nil part rest (none ▸ perm).eq_nil
    rw [← List.perm_append_right_iff [','], join_comma (List.cons_ne_nil part rest),
      join_comma filled]
    exact perm.flatMap_right _

/-- A list in another order is written with the same characters. -/
theorem write_perm {depth : Nat} {items items' : List Json} {text : List Char}
    (perm : items.Perm items') (written : write depth (.list items) = some text) :
    ∃ text', write depth (.list items') = some text' ∧ text.Perm text' := by
  cases depth with
  | zero => cases written
  | succ depth =>
    simp only [write, Option.map_eq_some_iff] at written ⊢
    obtain ⟨parts, found, rfl⟩ := written
    obtain ⟨parts', found', perm'⟩ := mapM_perm perm found
    exact ⟨_, ⟨parts', found', rfl⟩, ((join_perm perm').append_right _).cons _⟩

theorem sortedItems_eq {items : List Json} : sortedItems items = items.map sorted := by
  induction items with
  | nil => rfl
  | cons item items ih => rw [sortedItems, ih, List.map_cons]

theorem sortedPairs_eq {pairs : List (String × Json)} :
    sortedPairs pairs = pairs.map fun pair => (pair.1, pair.2.sorted) := by
  induction pairs with
  | nil => rfl
  | cons pair pairs ih => rw [sortedPairs, ih, List.map_cons]

theorem scalar_sorted (h : scalar v = some text) : v.sorted = v := by
  cases v with
  | list => nomatch h
  | dict => nomatch h
  | _ => rfl

theorem head_join {α : Type} {read : List Char → Option (α × List Char)} {items : List α}
    {parts : List (List Char)} (rest : List Char) (h : List.Forall₂ (Reads read) items parts) (nonempty : items ≠ []) :
    skip (join parts ++ rest) = join parts ++ rest ∧
      ∃ c more, join parts ++ rest = c :: more ∧ c ≠ ']' ∧ c ≠ '\x7d' := by
  cases h with
  | nil => exact absurd rfl nonempty
  | @cons _ part _ parts first others =>
    refine ⟨skip_join rest (.cons first others), ?_⟩
    obtain ⟨c, more, rfl, opens⟩ := first.opens
    cases parts with
    | nil => exact ⟨c, more ++ rest, rfl, opens.visible.2⟩
    | cons other parts =>
      refine ⟨c, more ++ ',' :: join (other :: parts) ++ rest, ?_, opens.visible.2⟩
      rw [join]
      · simp
      · exact fun same => nomatch same

theorem Reads.list {r : Reader} {items : List Json} {parts : List (List Char)}
    (h : List.Forall₂ (Reads (value r depth)) items parts) :
    Reads (value r (depth + 1)) (.list items) ('[' :: (join parts ++ [']'])) where
  opens := ⟨_, _, rfl, by decide⟩
  reads rest _ := by
    rw [List.cons_append, value, List.append_assoc, List.singleton_append]
    by_cases empty : items = []
    · subst empty
      cases h
      rw [join, List.nil_append, skip_cons (by decide)]
      rfl
    · obtain ⟨same, c, more, split, close, _⟩ := head_join (']' :: rest) h empty
      have room : items.length ≤ (join parts ++ ']' :: rest).length := by
        have := length_join h
        rw [List.length_append]
        omega
      have all := elements_join rest h (.inl rfl) empty room
      rw [split] at same all
      rw [split, same]
      split
      · rename_i bad
        exact absurd (List.cons.inj bad).1 close
      · rw [all]
        rfl

theorem Reads.dict {r : Reader} {pairs : List (String × Json)} {parts : List (List Char)}
    (keeps : ∀ pairs, r.hook pairs = some pairs)
    (h : List.Forall₂ (Reads (Json.member (value r depth))) pairs parts) :
    Reads (value r (depth + 1)) (.dict pairs) ('\x7b' :: (join parts ++ ['\x7d'])) where
  opens := ⟨_, _, rfl, by decide⟩
  reads rest _ := by
    rw [List.cons_append, value, List.append_assoc, List.singleton_append]
    by_cases empty : pairs = []
    · subst empty
      cases h
      rw [join, List.nil_append, skip_cons (by decide)]
      simp [keeps]
    · obtain ⟨same, c, more, split, _, close⟩ := head_join ('\x7d' :: rest) h empty
      have room : pairs.length ≤ (join parts ++ '\x7d' :: rest).length := by
        have := length_join h
        rw [List.length_append]
        omega
      have all := elements_join rest h (.inr rfl) empty room
      rw [split] at same all
      rw [split, same]
      split
      · rename_i bad
        exact absurd (List.cons.inj bad).1 close
      · rw [all]
        simp [keeps]

/-- What is written is read back, with its keys in order. -/
theorem reads_write {limit : Nat} (h : write depth v = some text) (deep : depth ≤ limit) :
    Reads (value .plain limit) v.sorted text := by
  induction depth generalizing v text limit with
  | zero =>
    rw [scalar_sorted h]
    exact ⟨scalar_opens h, fun rest => value_scalar h⟩
  | succ depth ih =>
    cases limit with
    | zero => exact absurd deep (Nat.not_succ_le_zero _)
    | succ limit =>
      have inner {v text} (h : write depth v = some text) := ih h (Nat.le_of_succ_le_succ deep)
      cases v with
      | list items =>
        simp only [write, Option.map_eq_some_iff] at h
        obtain ⟨parts, hparts, rfl⟩ := h
        rw [sorted, sortedItems_eq]
        exact .list (List.forall₂_map_left_iff.mpr ((forall₂_of_mapM hparts).imp fun _ _ => inner))
      | dict pairs =>
        simp only [write, Option.map_eq_some_iff] at h
        obtain ⟨parts, hparts, rfl⟩ := h
        have order := (List.map_insertionSort ByKey ByKey
          (fun pair : String × Json => (pair.1, pair.2.sorted)) pairs fun _ _ _ _ => Iff.rfl).symm
        rw [sorted, sortedPairs_eq, order]
        apply Reads.dict (fun _ => rfl)
        rw [List.forall₂_map_left_iff]
        apply (forall₂_of_mapM hparts).imp
        intro pair part hpart
        simp only [Option.map_eq_some_iff] at hpart
        obtain ⟨text, htext, rfl⟩ := hpart
        exact (inner htext).member pair.1
      | null | bool | int | float | str =>
        have plain : scalar _ = some text := h
        rw [scalar_sorted plain]
        exact ⟨scalar_opens plain, fun rest => value_scalar plain⟩

/-- Two values with one text are the same. -/
theorem write_same {w : Json} {other : Nat} (hv : write depth v = some text)
    (hw : write other w = some text) : Same v w := by
  have first := (reads_write hv (Nat.le_max_left depth other)).reads [] stops_nil
  have second := (reads_write hw (Nat.le_max_right depth other)).reads [] stops_nil
  rw [second] at first
  exact (congrArg Prod.fst (Option.some.inj first)).symm

end Values

namespace Same

variable {a b c : Json} {ps qs : List (String × Json)} {key : String}

theorem symm (h : Same a b) : Same b a := Eq.symm h

theorem trans (hab : Same a b) (hbc : Same b c) : Same a c := Eq.trans hab hbc

theorem str {a b : String} (h : Same (.str a) (.str b)) : a = b := Json.str.inj h

theorem int {a b : Int} (h : Same (.int a) (.int b)) : a = b := Json.int.inj h

theorem item (key : String) (h : Same (.dict ps) (.dict qs)) (nodup : (qs.map Prod.fst).Nodup)
    (left : (key, a) ∈ ps) (right : (key, b) ∈ qs) : Same a b := by
  simp only [Same, sorted, dict.injEq, sortedPairs_eq] at h
  have here : (key, a.sorted) ∈ ps.map fun pair => (pair.1, pair.2.sorted) :=
    List.mem_map_of_mem left
  rw [← List.mem_insertionSort ByKey, h, List.mem_insertionSort, List.mem_map] at here
  obtain ⟨⟨other, value⟩, mem, same⟩ := here
  simp only [Prod.mk.injEq] at same
  obtain ⟨rfl, same⟩ := same
  have unique : value = b := congrArg Prod.snd (List.inj_on_of_nodup_map nodup mem right rfl)
  rw [unique] at same
  exact same.symm

theorem list {as bs : List Json} : Same (.list as) (.list bs) ↔ as.map sorted = bs.map sorted := by
  simp only [Same, sorted, list.injEq, sortedItems_eq]

theorem dict (nodup : (ps.map Prod.fst).Nodup)
    (keys : (ps.map Prod.fst).Perm (qs.map Prod.fst))
    (items : ∀ key a b, (key, a) ∈ ps → (key, b) ∈ qs → Same a b) :
    Same (.dict ps) (.dict qs) := by
  have mapped (ps : List (String × Json)) :
      ((ps.map fun pair => (pair.1, pair.2.sorted)).map Prod.fst) = ps.map Prod.fst := by
    rw [List.map_map]
    rfl
  have inside {key : String} {value : Json} {ps qs : List (String × Json)}
      (keys : (ps.map Prod.fst).Perm (qs.map Prod.fst))
      (items : ∀ key a b, (key, a) ∈ ps → (key, b) ∈ qs → Same a b)
      (mem : (key, value) ∈ ps.map fun pair => (pair.1, pair.2.sorted)) :
      (key, value) ∈ qs.map fun pair => (pair.1, pair.2.sorted) := by
    obtain ⟨⟨_, a⟩, left, same⟩ := List.mem_map.mp mem
    cases same
    obtain ⟨⟨_, b⟩, right, same⟩ := List.mem_map.mp (keys.subset (List.mem_map_of_mem left))
    cases same
    exact List.mem_map.mpr ⟨_, right, Prod.ext rfl (items _ a b left right).symm⟩
  have nodups : (ps.map fun pair => (pair.1, pair.2.sorted)).Nodup :=
    .of_map Prod.fst ((mapped ps).symm ▸ nodup)
  have nodups' : (qs.map fun pair => (pair.1, pair.2.sorted)).Nodup :=
    .of_map Prod.fst ((mapped qs).symm ▸ keys.nodup_iff.mp nodup)
  have perm : (ps.map fun pair => (pair.1, pair.2.sorted)).Perm
      (qs.map fun pair => (pair.1, pair.2.sorted)) := by
    rw [List.perm_ext_iff_of_nodup nodups nodups']
    exact fun _ => ⟨inside keys items,
      inside keys.symm fun key a b left right => (items key b a right left).symm⟩
  simp only [Same, sorted, dict.injEq, sortedPairs_eq]
  refine List.Perm.eq_of_pairwise (fun x y hx hy le ge => ?_) (List.pairwise_insertionSort ByKey _)
    (List.pairwise_insertionSort ByKey _)
    ((List.perm_insertionSort _ _).trans (perm.trans (List.perm_insertionSort _ _).symm))
  rw [List.mem_insertionSort] at hx hy
  exact List.inj_on_of_nodup_map ((mapped ps).symm ▸ nodup) hx (perm.symm.subset hy)
    (le_antisymm le ge)

end Same

end Json

end Reproof.Library
