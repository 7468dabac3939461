import Reproof.Simple.TreeDigest

/-! The trees that one manifest text stands for: where a link's text ends and the next path begins. -/

namespace Reproof.Simple.WorkCopy

open Contracts Library

/-- What a manifest shows of an item. -/
def Item.seen : Item → Item
  | .file mode content => .file (mode &&& 0o111) content
  | item => item

/-- A name of a POSIX file system. -/
def Named (name : Bytes) : Prop :=
  name ≠ [] ∧ 0 ∉ name ∧ slash ∉ name ∧ name ≠ ascii "." ∧ name ≠ ascii ".."

mutual

/-- The names of a directory differ, and no name or link text has what a POSIX one cannot. -/
def Node.Valid : Node → Prop
  | .dir children => Valid children
  | .link text => text ≠ [] ∧ 0 ∉ text
  | .file _ _ => True
  | .special => True

def Valid : Children → Prop
  | [] => True
  | (name, node) :: rest => Named name ∧ name ∉ rest.map Prod.fst ∧ node.Valid ∧ Valid rest

end

/-- The run from a link's text to the next path, or the next path behind any other item. -/
def Moves : Option Item → Bytes → Option Item → Bytes → Prop
  | some (.link text), path, some (.link text'), path' =>
    text ++ newline :: path = text' ++ newline :: path'
  | item, path, item', path' => item.map Item.seen = item'.map Item.seen ∧ path = path'

/-- The entries are of the same kinds and permissions, and differ only in where a link's text ends and
the next path begins. -/
inductive Resplit : Option Item → List Entry → Option Item → List Entry → Prop
  | nil {item item' : Option Item} (same : item.map Item.seen = item'.map Item.seen) :
      Resplit item [] item' []
  | cons {item item' : Option Item} {entry entry' : Entry} {rest rest' : List Entry}
      (moves : Moves item entry.relative item' entry'.relative)
      (kind : entry.item.kind = entry'.item.kind)
      (executable : entry.item.executable = entry'.item.executable)
      (later : Resplit (some entry.item) rest (some entry'.item) rest') :
      Resplit item (entry :: rest) item' (entry' :: rest')

/-- What a manifest shows of a tree, in the order of its lines. -/
def shown (python : Interpreter) (root : Children) : List Entry :=
  (inOrder python root).map fun entry => ⟨entry.relative, entry.item.seen⟩

/-- No text of a link and no path that follows a link has a newline. -/
def Plain (entries : List Entry) : Prop :=
  entries.IsChain fun entry next => ∀ text, entry.item = .link text →
    newline ∉ text ∧ newline ∉ next.relative

/-- The contents and the manifests of two trees have different digests where they differ. -/
def Apart (python : Interpreter) (root root' : Children) : Prop :=
  (∀ entry ∈ listing [] root, ∀ entry' ∈ listing [] root', ∀ mode content mode' content',
    entry.item = .file mode content → entry'.item = .file mode' content' →
    python.sha256 content = python.sha256 content' → content = content') ∧
  (python.sha256 (text python (inOrder python root)) = python.sha256 (text python (inOrder python root')) →
    text python (inOrder python root) = text python (inOrder python root'))

section Splitting

variable {a b a' b' : Bytes} {c : UInt8}

theorem split_iff (free : c ∉ a) (free' : c ∉ a') : a ++ c :: b = a' ++ c :: b' ↔ a = a' ∧ b = b' := by
  induction a generalizing a' with
  | nil =>
    cases a' with
    | nil => simp
    | cons d a' =>
      simp only [List.mem_cons, not_or] at free'
      simp [free'.1]
  | cons d a ih =>
    simp only [List.mem_cons, not_or] at free
    cases a' with
    | nil => simp [Ne.symm free.1]
    | cons d' a' =>
      simp only [List.mem_cons, not_or] at free'
      rw [List.cons_append, List.cons_append, List.cons.injEq, ih free.2 free'.2, List.cons.injEq, and_assoc]

/-- A text with one separator is split in one way. -/
theorem split_once (free : c ∉ a) (free' : c ∉ b) (same : a ++ c :: b = a' ++ c :: b') : a = a' ∧ b = b' := by
  have one := congrArg (List.count c) same
  simp only [List.count_append, List.count_cons_self, List.count_eq_zero_of_not_mem free,
    List.count_eq_zero_of_not_mem free'] at one
  have free'' : c ∉ a' := List.count_eq_zero.mp (by omega)
  exact (split_iff free free'').mp same

end Splitting

section Fields

variable {python : Interpreter}

theorem ascii_digits {n : Nat} : ascii (String.ofList (Nat.toDigits 8 n)) =
    (Nat.toDigits 8 n).map fun c => UInt8.ofNat c.toNat := by
  rw [ascii, String.toList_ofList]

theorem digit_bounds {c : Char} (digit : c.isDigit) : 48 ≤ c.toNat ∧ c.toNat ≤ 57 := by
  simp only [Char.isDigit, Bool.and_eq_true, decide_eq_true_eq] at digit
  exact ⟨digit.1, digit.2⟩

theorem octal_free (n : Nat) : (0 : UInt8) ∉ ascii (String.ofList (Nat.toDigits 8 n)) := by
  rw [ascii_digits, List.mem_map]
  rintro ⟨c, mem, zero⟩
  have bounds := digit_bounds (Nat.isDigit_of_mem_toDigits (by decide) (by decide) mem)
  have value := congrArg UInt8.toNat zero
  rw [UInt8.toNat_ofNat'] at value
  simp only [UInt8.toNat_zero] at value
  omega

theorem octal_injective {n m : Nat} (same : ascii (String.ofList (Nat.toDigits 8 n)) =
    ascii (String.ofList (Nat.toDigits 8 m))) : n = m := by
  have back (k : Nat) : (ascii (String.ofList (Nat.toDigits 8 k))).map (fun u => Char.ofNat u.toNat) =
      Nat.toDigits 8 k := by
    rw [ascii_digits, List.map_map]
    refine (List.map_congr_left fun c mem => ?_).trans (List.map_id _)
    have bounds := digit_bounds (Nat.isDigit_of_mem_toDigits (by decide) (by decide) mem)
    rw [Function.comp_apply, UInt8.toNat_ofNat', Nat.mod_eq_of_lt (by omega), Char.ofNat_toNat]
    rfl
  have digits : Nat.toDigits 8 n = Nat.toDigits 8 m := by rw [← back n, same, back m]
  rw [← @Nat.ofDigitChars_toDigits 8 n (by decide) (by decide), digits,
    Nat.ofDigitChars_toDigits (by decide) (by decide)]

def kinds : List String := ["dir", "link", "file", ""]

theorem kind_mem (item : Item) : item.kind ∈ kinds := by
  cases item <;> simp [Item.kind, kinds]

theorem kind_free (item : Item) : (0 : UInt8) ∉ ascii item.kind := by
  have free : ∀ kind ∈ kinds, (0 : UInt8) ∉ ascii kind := by decide
  exact free _ (kind_mem item)

theorem kind_injective {item item' : Item} (same : ascii item.kind = ascii item'.kind) :
    item.kind = item'.kind := by
  have injective : ∀ kind ∈ kinds, ∀ kind' ∈ kinds, ascii kind = ascii kind' → kind = kind' := by decide
  exact injective _ (kind_mem item) _ (kind_mem item') same

inductive SameKind : Item → Item → Prop
  | dir : SameKind .dir .dir
  | link (text text' : Bytes) : SameKind (.link text) (.link text')
  | file (mode : Nat) (content : Bytes) (mode' : Nat) (content' : Bytes) :
      SameKind (.file mode content) (.file mode' content')
  | special : SameKind .special .special

theorem sameKind {item item' : Item} (same : item.kind = item'.kind) : SameKind item item' := by
  cases item <;> cases item' <;> first | constructor | simp [Item.kind] at same

/-- The digests are 64 bytes without a zero. -/
structure Hashes (python : Interpreter) : Prop where
  length : ∀ content, (utf8 (python.sha256 content)).length = 64
  free : ∀ content, 0 ∉ utf8 (python.sha256 content)

/-- Nothing of the entry has a zero byte. -/
def Entry.Clear (entry : Entry) : Prop :=
  0 ∉ entry.relative ∧ ∀ text, entry.item = .link text → 0 ∉ text

theorem value_free (hashes : Hashes python) {item : Item} (clear : ∀ text, item = .link text → 0 ∉ text) :
    0 ∉ item.value python := by
  cases item with
  | link text => exact clear text rfl
  | file mode content => exact hashes.free content
  | dir => exact List.not_mem_nil
  | special => exact List.not_mem_nil

/-- Files with one digest have one content. -/
def Told (python : Interpreter) (item item' : Item) : Prop :=
  ∀ mode content mode' content', item = .file mode content → item' = .file mode' content' →
    python.sha256 content = python.sha256 content' → content = content'

/-- Items of one kind with the same permissions. -/
def Alike (item item' : Item) : Prop := item.kind = item'.kind ∧ item.executable = item'.executable

theorem value_iff {item item' : Item} (told : Told python item item') (alike : Alike item item') :
    item.value python = item'.value python ↔ item.seen = item'.seen := by
  obtain ⟨kind, executable⟩ := alike
  cases sameKind kind with
  | dir => exact ⟨fun _ => rfl, fun _ => rfl⟩
  | link text text' => exact ⟨congrArg Item.link, Item.link.inj⟩
  | file mode content mode' content' =>
    constructor
    · intro same
      have content := told _ _ _ _ rfl rfl (utf8_injective same)
      exact congrArg₂ Item.file executable content
    · intro same
      rw [Item.value, Item.value, (Item.file.inj same).2]
  | special => exact ⟨fun _ => rfl, fun _ => rfl⟩

/-- What stands between the permissions of an item and the kind of the next one. -/
theorem moves_iff (hashes : Hashes python) {item item' : Item} {path path' : Bytes}
    (told : Told python item item') (alike : Alike item item') :
    item.value python ++ newline :: path = item'.value python ++ newline :: path' ↔
      Moves (some item) path (some item') path' := by
  have apart (size : (item.value python).length = (item'.value python).length) :
      item.value python ++ newline :: path = item'.value python ++ newline :: path' ↔
        (some item).map Item.seen = (some item').map Item.seen ∧ path = path' := by
    rw [Option.map_some, Option.map_some, Option.some.injEq, ← value_iff told alike]
    constructor
    · intro same
      obtain ⟨value, rest⟩ := List.append_inj same size
      exact ⟨value, (List.cons.inj rest).2⟩
    · rintro ⟨value, rfl⟩
      rw [value]
  cases sameKind alike.1 with
  | dir => exact apart rfl
  | link text text' => exact Iff.rfl
  | file mode content mode' content' =>
    exact apart ((hashes.length content).trans (hashes.length content').symm)
  | special => exact apart rfl

end Fields

section Texts

variable {python : Interpreter} {entries entries' : List Entry} {item item' : Option Item}

/-- The text behind the permissions of an item. -/
def ending (python : Interpreter) (item : Option Item) (rest : Bytes) : Bytes :=
  match item with
  | none => rest
  | some item => item.value python ++ newline :: rest

theorem text_cons {entry : Entry} : text python (entry :: entries) = entry.relative ++
    0 :: (ascii entry.item.kind ++ 0 :: (ascii (String.ofList (Nat.toDigits 8 entry.item.executable)) ++
      0 :: ending python (some entry.item) (text python entries))) := by
  rw [text, List.flatMap_cons, Entry.line]
  simp only [List.append_assoc, List.cons_append, List.nil_append, ending]
  rfl

theorem ending_append {more rest : Bytes} : ending python item (more ++ rest) = ending python item more ++ rest := by
  cases item with
  | none => rfl
  | some item => simp only [ending, List.append_assoc, List.cons_append]

/-- Two pending items are both there or not, of one kind and told apart. -/
def Pending (python : Interpreter) : Option Item → Option Item → Prop
  | none, none => True
  | some item, some item' => Told python item item' ∧ Alike item item'
  | _, _ => False

theorem ending_free (hashes : Hashes python) {rest : Bytes} (free : 0 ∉ rest)
    (clear : ∀ text, item = some (.link text) → 0 ∉ text) : 0 ∉ ending python item rest := by
  cases item with
  | none => exact free
  | some item =>
    have value := value_free hashes fun text same => clear text (congrArg some same)
    simp only [ending, List.mem_append, List.mem_cons, not_or]
    exact ⟨value, by decide, free⟩

theorem ending_iff (hashes : Hashes python) {path path' : Bytes} (pending : Pending python item item') :
    ending python item path = ending python item' path' ↔ Moves item path item' path' := by
  cases item with
  | none =>
    cases item' with
    | none => exact ⟨fun same => ⟨rfl, same⟩, fun moves => moves.2⟩
    | some _ => exact pending.elim
  | some item =>
    cases item' with
    | none => exact pending.elim
    | some item' => exact moves_iff hashes pending.1 pending.2

theorem ending_nil_iff (pending : Pending python item item') :
    ending python item [] = ending python item' [] ↔ item.map Item.seen = item'.map Item.seen := by
  cases item with
  | none =>
    cases item' with
    | none => exact ⟨fun _ => rfl, fun _ => rfl⟩
    | some _ => exact pending.elim
  | some item =>
    cases item' with
    | none => exact pending.elim
    | some item' =>
      rw [Option.map_some, Option.map_some, Option.some.injEq, ← value_iff pending.1 pending.2]
      exact List.append_left_inj _

/-- The texts of two lists are the same exactly where the lists are split again. -/
theorem text_iff (hashes : Hashes python) (clear : ∀ entry ∈ entries, entry.Clear)
    (clear' : ∀ entry ∈ entries', entry.Clear)
    (told : ∀ entry ∈ entries, ∀ entry' ∈ entries', Told python entry.item entry'.item)
    (pending : Pending python item item') (free : ∀ text, item = some (.link text) → 0 ∉ text)
    (free' : ∀ text, item' = some (.link text) → 0 ∉ text) :
    ending python item (text python entries) = ending python item' (text python entries') ↔
      Resplit item entries item' entries' := by
  induction entries generalizing entries' item item' with
  | nil =>
    cases entries' with
    | nil =>
      refine (ending_nil_iff pending).trans ⟨.nil, fun resplit => ?_⟩
      cases resplit with
      | nil same => exact same
    | cons entry' entries' =>
      constructor
      · intro same
        have zero : (0 : UInt8) ∈ ending python item (text python []) := by
          rw [same, text_cons, ending_append]
          exact List.mem_append_right _ (.head _)
        exact absurd zero (ending_free hashes List.not_mem_nil free)
      · exact fun resplit => nomatch resplit
  | cons entry entries ih =>
    cases entries' with
    | nil =>
      constructor
      · intro same
        have zero : (0 : UInt8) ∈ ending python item' (text python []) := by
          rw [← same, text_cons, ending_append]
          exact List.mem_append_right _ (.head _)
        exact absurd zero (ending_free hashes List.not_mem_nil free')
      · exact fun resplit => nomatch resplit
    | cons entry' entries' =>
      rw [List.forall_mem_cons] at clear clear'
      have next (alike : Alike entry.item entry'.item) :=
        @ih entries' (some entry.item) (some entry'.item) clear.2 clear'.2
          (fun other mem other' mem' => told other (.tail _ mem) other' (.tail _ mem'))
          ⟨told entry (.head _) entry' (.head _), alike⟩
          (fun text same => clear.1.2 text (Option.some.inj same))
          (fun text same => clear'.1.2 text (Option.some.inj same))
      rw [text_cons, text_cons, ending_append, ending_append,
        split_iff (ending_free hashes clear.1.1 free) (ending_free hashes clear'.1.1 free'),
        split_iff (kind_free _) (kind_free _), split_iff (octal_free _) (octal_free _),
        ending_iff hashes pending]
      constructor
      · rintro ⟨moves, kind, executable, rest⟩
        have alike : Alike entry.item entry'.item := ⟨kind_injective kind, octal_injective executable⟩
        exact .cons moves alike.1 alike.2 ((next alike).mp rest)
      · intro resplit
        cases resplit with
        | cons moves kind executable later =>
          exact ⟨moves, by rw [kind], by rw [executable], (next ⟨kind, executable⟩).mpr later⟩

theorem Moves.plain {path path' : Bytes} (moves : Moves item path item' path')
    (free : ∀ text, item = some (.link text) → newline ∉ text ∧ newline ∉ path) :
    item.map Item.seen = item'.map Item.seen ∧ path = path' := by
  cases item with
  | none => exact moves
  | some item =>
    cases item with
    | link text =>
      cases item' with
      | none => exact moves
      | some item' =>
        cases item' with
        | link text' =>
          obtain ⟨text, path⟩ := free _ rfl
          obtain ⟨rfl, rfl⟩ := split_once text path moves
          exact ⟨rfl, rfl⟩
        | _ => exact moves
    | _ => exact moves

/-- A list without newlines is split in one way. -/
theorem Resplit.plain (resplit : Resplit item entries item' entries') (plain : Plain entries)
    (first : ∀ text, item = some (.link text) → ∀ entry ∈ entries.head?,
      newline ∉ text ∧ newline ∉ entry.relative) :
    item.map Item.seen = item'.map Item.seen ∧
      entries.map (fun entry => (⟨entry.relative, entry.item.seen⟩ : Entry)) =
        entries'.map fun entry => ⟨entry.relative, entry.item.seen⟩ := by
  induction resplit with
  | nil same => exact ⟨same, rfl⟩
  | @cons item item' entry entry' rest rest' moves kind executable later ih =>
    obtain ⟨same, path⟩ := moves.plain fun text link => first text link entry rfl
    have next : ∀ text, some entry.item = some (.link text) → ∀ other ∈ rest.head?,
        newline ∉ text ∧ newline ∉ other.relative := by
      intro text link other mem
      cases rest with
      | nil => exact absurd mem (Option.not_mem_none _)
      | cons following rest =>
        cases mem
        exact (List.isChain_cons_cons.mp plain).1 text (Option.some.inj link)
    obtain ⟨here, there⟩ := ih (List.isChain_of_isChain_cons plain) next
    refine ⟨same, ?_⟩
    rw [List.map_cons, List.map_cons, path, Option.some.inj here, there]

end Texts

section Trees

variable {python : Interpreter} {root root' : Children}

theorem relative_free {path : Path} (free : ∀ name ∈ path, 0 ∉ name) : 0 ∉ relative path := by
  rw [relative]
  induction path with
  | nil => exact List.not_mem_nil
  | cons name path ih =>
    rw [List.forall_mem_cons] at free
    cases path with
    | nil =>
      rw [List.intercalate_singleton]
      exact free.1
    | cons next path =>
      rw [List.intercalate_cons_cons, List.mem_append, List.mem_append, not_or, not_or]
      exact ⟨⟨free.1, by decide⟩, ih free.2⟩

theorem path_free {path : Path} {name : Bytes} (free : ∀ name ∈ path, 0 ∉ name) (named : Named name) :
    ∀ other ∈ path ++ [name], 0 ∉ other := by
  rw [List.forall_mem_append, List.forall_mem_singleton]
  exact ⟨free, named.2.1⟩

mutual

theorem Node.Valid.clear : {node : Node} → node.Valid → {path : Path} → (∀ name ∈ path, 0 ∉ name) →
    ∀ entry ∈ node.listing path, entry.Clear
  | .dir children, valid, path, free => by
    rw [Node.listing, List.forall_mem_cons]
    exact ⟨⟨relative_free free, nofun⟩, Valid.clear valid free⟩
  | .link text, valid, path, free => by
    rw [Node.listing, List.forall_mem_singleton]
    exact ⟨relative_free free, fun text same => Item.link.inj same ▸ valid.2⟩
  | .file mode content, _, path, free => by
    rw [Node.listing, List.forall_mem_singleton]
    exact ⟨relative_free free, nofun⟩
  | .special, _, path, free => by
    rw [Node.listing, List.forall_mem_singleton]
    exact ⟨relative_free free, nofun⟩

theorem Valid.clear : {children : Children} → Valid children → {dir : Path} → (∀ name ∈ dir, 0 ∉ name) →
    ∀ entry ∈ listing dir children, entry.Clear
  | [], _, dir, _ => fun _ mem => absurd mem List.not_mem_nil
  | (name, node) :: rest, valid, dir, free => by
    rw [listing, List.forall_mem_append]
    exact ⟨valid.2.2.1.clear (path_free free valid.1), Valid.clear valid.2.2.2 free⟩

end

theorem mem_inOrder {entry : Entry} : entry ∈ inOrder python root ↔ entry ∈ listing [] root :=
  (List.perm_insertionSort _ _).mem_iff

/-- The texts of two trees are the same exactly where the one is the other, split again. -/
theorem text_resplit (hashes : Hashes python) (valid : Valid root) (valid' : Valid root')
    (apart : Apart python root root') : text python (inOrder python root) = text python (inOrder python root') ↔
      Resplit none (inOrder python root) none (inOrder python root') := by
  have free (name : Bytes) (mem : name ∈ ([] : Path)) : 0 ∉ name := absurd mem List.not_mem_nil
  refine @text_iff _ _ _ none none hashes ?_ ?_ ?_ trivial nofun nofun
  · exact fun entry mem => valid.clear free entry (mem_inOrder.mp mem)
  · exact fun entry mem => valid'.clear free entry (mem_inOrder.mp mem)
  · exact fun entry mem entry' mem' => apart.1 entry (mem_inOrder.mp mem) entry' (mem_inOrder.mp mem')

end Trees

/-- The digest of a copy is the one that was returned. Trees of one digest show the same, but for
those that are each other, split again: none are where a link and what follows it have no newline. -/
theorem workingCopy_digest {python : Interpreter} (hashes : Hashes python) :
    (∀ copying source copy created destination, materialize python copying source = .ok (copy, created) →
      (listing [] destination).Perm created → treeDigest python destination = .ok copy.manifestDigest) ∧
    ∀ root root' digest digest', Valid root → Valid root' → treeDigest python root = .ok digest →
      treeDigest python root' = .ok digest' → Apart python root root' →
      ((digest = digest' → shown python root = shown python root') ↔
        ¬ (Resplit none (inOrder python root) none (inOrder python root') ∧
          shown python root ≠ shown python root')) ∧
      (Plain (inOrder python root) → digest = digest' → shown python root = shown python root') := by
  refine ⟨fun _ _ _ _ _ => materialize_digest, ?_⟩
  intro root root' digest digest' valid valid' done done' apart
  obtain ⟨-, rfl⟩ := treeDigest_eq_ok.mp done
  obtain ⟨-, rfl⟩ := treeDigest_eq_ok.mp done'
  have same : python.sha256 (text python (inOrder python root)) =
      python.sha256 (text python (inOrder python root')) ↔
        Resplit none (inOrder python root) none (inOrder python root') := by
    rw [← text_resplit hashes valid valid' apart]
    exact ⟨apart.2, fun texts => by rw [texts]⟩
  rw [same]
  refine ⟨⟨fun holds differ => differ.2 (holds differ.1), fun holds resplit => ?_⟩, fun plain resplit => ?_⟩
  · exact by_contra fun differ => holds ⟨resplit, differ⟩
  · exact (resplit.plain plain nofun).2

section Example

/-- A link and a directory behind it. -/
def linkThenDir (text name : String) : Children :=
  [(ascii "a", .link (ascii text)), (ascii name, .dir [])]

theorem inOrder_linkThenDir {python : Interpreter} {text name : String}
    (later : (ascii "a").map UInt8.toNat < (ascii name).map UInt8.toNat) :
    inOrder python (linkThenDir text name) = [⟨ascii "a", .link (ascii text)⟩, ⟨ascii name, .dir⟩] := by
  have order : ByPath ((⟨ascii "a", .link (ascii text)⟩ : Entry).keyed python)
      ((⟨ascii name, .dir⟩ : Entry).keyed python) := Prod.Lex.toLex_le_toLex.mpr (.inl later)
  have listed : listing [] (linkThenDir text name) =
      [⟨ascii "a", .link (ascii text)⟩, ⟨ascii name, .dir⟩] := by
    simp only [linkThenDir, listing, Node.listing, relative, List.nil_append, List.append_nil,
      List.singleton_append, List.intercalate_singleton]
  rw [inOrder, listed, List.insertionSort_cons, List.insertionSort_cons, List.insertionSort_nil,
    List.orderedInsert_nil, List.orderedInsert_cons, if_pos order]

theorem regular_linkThenDir {text name : String} :
    ∀ entry ∈ listing [] (linkThenDir text name), entry.item ≠ .special := by
  simp only [linkThenDir, listing, Node.listing, List.append_nil, List.nil_append, List.singleton_append,
    List.forall_mem_cons]
  exact ⟨nofun, nofun, fun _ mem => absurd mem List.not_mem_nil⟩

/-- An interpreter whose digest tells a text with a `z` from one without. -/
def twoDigests : Interpreter where
  lower := id
  casefold := id
  nfc := id
  float := String.ofList
  depth := 900
  sha256 content :=
    if content.contains 122 then "bbbbbbbbbbbbbbbbbbbbbbbbbbbbbbbbbbbbbbbbbbbbbbbbbbbbbbbbbbbbbbbb"
    else "aaaaaaaaaaaaaaaaaaaaaaaaaaaaaaaaaaaaaaaaaaaaaaaaaaaaaaaaaaaaaaaa"
  hmac _ _ := ""

theorem twoDigests_hashes : Hashes twoDigests := by
  have both : ∀ digest ∈ ["bbbbbbbbbbbbbbbbbbbbbbbbbbbbbbbbbbbbbbbbbbbbbbbbbbbbbbbbbbbbbbbb",
      "aaaaaaaaaaaaaaaaaaaaaaaaaaaaaaaaaaaaaaaaaaaaaaaaaaaaaaaaaaaaaaaa"],
      (utf8 digest).length = 64 ∧ 0 ∉ utf8 digest := by decide +kernel
  have mem (content : Bytes) : twoDigests.sha256 content ∈
      ["bbbbbbbbbbbbbbbbbbbbbbbbbbbbbbbbbbbbbbbbbbbbbbbbbbbbbbbbbbbbbbbb",
        "aaaaaaaaaaaaaaaaaaaaaaaaaaaaaaaaaaaaaaaaaaaaaaaaaaaaaaaaaaaaaaaa"] := by
    simp only [twoDigests]
    split
    · exact .head _
    · exact .tail _ (.head _)
  exact ⟨fun content => (both _ (mem content)).1, fun content => (both _ (mem content)).2⟩

/-- Two trees with other names are told apart. -/
theorem workingCopy_digest_names :
    ¬ (Resplit none (inOrder twoDigests (linkThenDir "x" "y")) none
        (inOrder twoDigests (linkThenDir "x" "z")) ∧
      shown twoDigests (linkThenDir "x" "y") ≠ shown twoDigests (linkThenDir "x" "z")) := by
  have differ : twoDigests.sha256 (text twoDigests (inOrder twoDigests (linkThenDir "x" "y"))) ≠
      twoDigests.sha256 (text twoDigests (inOrder twoDigests (linkThenDir "x" "z"))) := by
    rw [inOrder_linkThenDir (by decide), inOrder_linkThenDir (by decide)]
    decide +kernel
  have valid : Valid (linkThenDir "x" "y") := by
    simp only [linkThenDir, Valid, Node.Valid, Named]
    decide
  have valid' : Valid (linkThenDir "x" "z") := by
    simp only [linkThenDir, Valid, Node.Valid, Named]
    decide
  have apart : Apart twoDigests (linkThenDir "x" "y") (linkThenDir "x" "z") := by
    refine ⟨?_, fun same => absurd same differ⟩
    have none : ∀ entry ∈ listing [] (linkThenDir "x" "y"), ∀ mode content,
        entry.item ≠ .file mode content := by
      simp only [linkThenDir, listing, Node.listing, List.append_nil, List.nil_append,
        List.singleton_append, List.forall_mem_cons]
      exact ⟨fun _ _ => nofun, fun _ _ => nofun, fun _ mem => absurd mem List.not_mem_nil⟩
    exact fun entry mem _ _ mode content _ _ file => absurd file (none entry mem mode content)
  have told := (workingCopy_digest twoDigests_hashes).2 _ _ _ _ valid valid'
    (treeDigest_eq_ok.mpr ⟨regular_linkThenDir, rfl⟩) (treeDigest_eq_ok.mpr ⟨regular_linkThenDir, rfl⟩) apart
  exact told.1.mp fun same => absurd same differ

/-- A newline of the link's text, or of the next name. -/
theorem treeDigest_collides : ∃ root root' : Children, Valid root ∧ Valid root' ∧
    ∀ python : Interpreter, shown python root ≠ shown python root' ∧
      ∃ digest, treeDigest python root = .ok digest ∧ treeDigest python root' = .ok digest := by
  refine ⟨linkThenDir "x" "y\nz", linkThenDir "x\ny" "z", ?_, ?_, fun python => ⟨?_, ?_⟩⟩
  · simp only [linkThenDir, Valid, Node.Valid, Named]
    decide
  · simp only [linkThenDir, Valid, Node.Valid, Named]
    decide
  · rw [shown, shown, inOrder_linkThenDir (by decide), inOrder_linkThenDir (by decide)]
    decide
  · refine ⟨_, treeDigest_eq_ok.mpr ⟨regular_linkThenDir, rfl⟩,
      treeDigest_eq_ok.mpr ⟨regular_linkThenDir, ?_⟩⟩
    rw [inOrder_linkThenDir (by decide), inOrder_linkThenDir (by decide)]
    rfl

end Example

end Reproof.Simple.WorkCopy
