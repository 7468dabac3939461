import Reproof.Contracts.Documents
import Reproof.Library.Dict
import Reproof.Library.Splicing

/-! Exact replacements in the text of files, as both repair sources make them. -/

namespace Reproof.Repair

open Library Contracts

structure Edit where
  path : String
  old : String
  new : String
  deriving DecidableEq

def Edit.document (edit : Edit) : Json :=
  .dict [("path", .str edit.path), ("old", .str edit.old), ("new", .str edit.new)]

/-- `raw.decode('utf-8')`. -/
def decodeText (raw : Bytes) : Option (List Char) :=
  (String.fromUTF8? ⟨raw.toArray⟩).map String.toList

/-- `text.encode('utf-8')`. -/
def encodeText (text : List Char) : Bytes := utf8 (String.ofList text)

abbrev Replacements := Dict String (List (Replacement Char))

/-- The ranges of a file so far, from `setdefault(path, [])`. -/
def Replacements.ranges (replacements : Replacements) (path : String) : List (Replacement Char) :=
  (replacements.get? path).getD []

/-- The range of the text that the edit replaces, apart from those found before. -/
def anchor (text : List Char) (ranges : List (Replacement Char)) (edit : Edit) :
    Except String (Replacement Char) := do
  let old := edit.old.toList
  require (count old text = 1) "patch_anchor"
  let start ← orFail (index? old text) "patch_invalid"
  let range : Replacement Char := ⟨start, start + old.length, edit.new.toList⟩
  require (∀ r ∈ ranges, range.Apart r) "patch_overlap"
  pure range

/-- The loop over the edits; `read` checks an edit and decodes its file. -/
def collect (read : Edit → Except String (List Char)) :
    Replacements → List Edit → Except String Replacements
  | replacements, [] => pure replacements
  | replacements, edit :: rest => do
    let text ← read edit
    let range ← anchor text (replacements.ranges edit.path) edit
    collect read (replacements.set edit.path (replacements.ranges edit.path ++ [range])) rest

/-- The files of a source, by path. -/
abbrev Contents := String → Option Bytes

/-- The range that an edit replaces where its text is first found. -/
def Edit.range (edit : Edit) (text : List Char) : Replacement Char :=
  let start := (index? edit.old.toList text).getD 0
  ⟨start, start + edit.old.toList.length, edit.new.toList⟩

/-- The ranges that the edits replace in the file at the path. -/
def rangesOf (edits : List Edit) (path : String) (text : List Char) : List (Replacement Char) :=
  (edits.filter (·.path = path)).map (·.range text)

/-- The edits are all made at once, in any order, and only in their files. -/
structure Replaced (edits : List Edit) (before after : Contents) : Prop where
  decoded : ∀ edit ∈ edits, ∃ text, (before edit.path).bind decodeText = some text ∧
    OccursAt edit.old.toList text (edit.range text).start
  apart : ∀ edit ∈ edits, ∀ text, (before edit.path).bind decodeText = some text →
    (rangesOf edits edit.path text).Pairwise Replacement.Apart
  replaced : ∀ edit ∈ edits, ∀ text, (before edit.path).bind decodeText = some text →
    after edit.path = some (encodeText (Replacement.replaceAll (rangesOf edits edit.path text) text))
  untouched : ∀ path, (∀ edit ∈ edits, edit.path ≠ path) → after path = before path

/-- Each old text stands at one position of its file only. -/
def Unique (edits : List Edit) (before : Contents) : Prop :=
  ∀ edit ∈ edits, ∀ text, (before edit.path).bind decodeText = some text →
    ∃! i, OccursAt edit.old.toList text i

/-- The occurrences of an old text in its file may share characters. -/
def Ambiguous (edits : List Edit) (before : Contents) : Prop :=
  ∃ edit ∈ edits, ∃ text, (before edit.path).bind decodeText = some text ∧
    Overlaps edit.old.toList text

section Texts

variable {text : List Char} {raw : Bytes}

@[simp] theorem decodeText_encodeText : decodeText (encodeText text) = some text := by
  rw [decodeText, encodeText, fromUTF8?_utf8, Option.map_some, String.toList_ofList]

theorem encodeText_of_decodeText (decoded : decodeText raw = some text) :
    encodeText text = raw := by
  unfold decodeText String.fromUTF8? at decoded
  split at decoded
  · obtain rfl := Option.some.inj decoded
    rw [encodeText, String.ofList_toList]
    rfl
  · cases decoded

end Texts

section Collect

variable {edit : Edit} {edits : List Edit} {text : List Char} {ranges : List (Replacement Char)}
  {range : Replacement Char} {replacements result : Replacements} {path : String}

theorem anchor_eq_ok (filled : edit.old.toList ≠ []) :
    anchor text ranges edit = .ok range ↔ count edit.old.toList text = 1 ∧
      edit.range text = range ∧ ∀ r ∈ ranges, range.Apart r := by
  simp only [anchor, bind_eq_ok, require_eq_ok, orFail_eq_ok, pure_eq_ok]
  constructor
  · rintro ⟨-, once, start, found, -, apart, rfl⟩
    refine ⟨once, ?_, apart⟩
    rw [Edit.range, found]
    rfl
  · rintro ⟨once, rfl, apart⟩
    obtain ⟨i, found, -, -⟩ := count_eq_one filled once
    have value : edit.range text =
        ⟨i, i + edit.old.toList.length, edit.new.toList⟩ := by
      rw [Edit.range, found]
      rfl
    rw [value] at apart ⊢
    exact ⟨(), once, i, found, (), apart, rfl⟩

@[simp] theorem Replacements.ranges_set :
    Replacements.ranges (replacements.set edit.path ranges) path =
      if path = edit.path then ranges else replacements.ranges path := by
  unfold Replacements.ranges
  rw [Dict.get?_set]
  split <;> rfl

theorem Replacements.ranges_of_mem (mem : (path, ranges) ∈ replacements.entries) :
    Replacements.ranges replacements path = ranges := by
  rw [Replacements.ranges, Dict.mem_entries.mp mem]
  rfl

theorem rangesOf_cons : rangesOf (edit :: edits) path text =
    (if edit.path = path then [edit.range text] else []) ++ rangesOf edits path text := by
  unfold rangesOf
  by_cases same : edit.path = path <;> simp [same]

/-- What a loop over the edits reads: edits with an old text, and one text for each file. -/
def ReadsFrom (read : Edit → Except String (List Char)) (texts : String → Option (List Char))
    (edits : List Edit) : Prop :=
  ∀ edit ∈ edits, ∀ text, read edit = .ok text → edit.old.toList ≠ [] ∧ texts edit.path = some text

variable {read : Edit → Except String (List Char)} {texts : String → Option (List Char)}

/-- What a loop that went through has collected. -/
structure Collected (read : Edit → Except String (List Char)) (texts : String → Option (List Char))
    (edits : List Edit) (replacements result : Replacements) : Prop where
  once : ∀ edit ∈ edits, ∃ text, read edit = .ok text ∧ count edit.old.toList text = 1
  ranges : ∀ path text, texts path = some text →
    result.ranges path = replacements.ranges path ++ rangesOf edits path text
  keys : ∀ path, path ∈ result.keys ↔ path ∈ replacements.keys ∨ ∃ edit ∈ edits, edit.path = path
  apart : ∀ path, (replacements.ranges path).Pairwise Replacement.Apart →
    (result.ranges path).Pairwise Replacement.Apart

theorem collect_collected (reads : ReadsFrom read texts edits)
    (collected : collect read replacements edits = .ok result) :
    Collected read texts edits replacements result := by
  induction edits generalizing replacements with
  | nil =>
    cases collected
    exact ⟨by simp, by simp [rangesOf], by simp, fun _ => id⟩
  | cons edit rest ih =>
    simp only [collect, bind_eq_ok] at collected
    obtain ⟨text, taken, range, anchored, collected⟩ := collected
    obtain ⟨reads, later⟩ := List.forall_mem_cons.mp reads
    obtain ⟨filled, own⟩ := reads text taken
    obtain ⟨once, rfl, apart⟩ := (anchor_eq_ok filled).mp anchored
    obtain ⟨onces, ranges, keys, aparts⟩ := ih later collected
    refine ⟨?_, fun path text' there => ?_, fun path => ?_, fun path before => aparts path ?_⟩
    · exact List.forall_mem_cons.mpr ⟨⟨text, taken, once⟩, onces⟩
    · rw [ranges path text' there, Replacements.ranges_set, rangesOf_cons]
      by_cases same : path = edit.path
      · subst same
        cases own.symm.trans there
        rw [if_pos rfl, if_pos rfl, List.append_assoc]
      · rw [if_neg same, if_neg (Ne.symm same), List.nil_append]
    · rw [keys, Dict.mem_keys_set]
      simp only [List.exists_mem_cons_iff]
      tauto
    · rw [Replacements.ranges_set]
      split
      · rename_i same
        subst same
        refine List.pairwise_append.mpr ⟨before, List.pairwise_singleton _ _, fun r mem s here => ?_⟩
        cases List.mem_singleton.mp here
        exact symm (apart r mem)
      · exact before

/-- The loop goes through edits that are each found once, apart from each other. -/
theorem exists_collect (reads : ReadsFrom read texts edits)
    (once : ∀ edit ∈ edits, ∃ text, read edit = .ok text ∧ count edit.old.toList text = 1)
    (apart : ∀ path text, texts path = some text →
      (replacements.ranges path ++ rangesOf edits path text).Pairwise Replacement.Apart) :
    ∃ result, collect read replacements edits = .ok result := by
  induction edits generalizing replacements with
  | nil => exact ⟨replacements, rfl⟩
  | cons edit rest ih =>
    obtain ⟨⟨text, taken, found⟩, others⟩ := List.forall_mem_cons.mp once
    obtain ⟨reads, later⟩ := List.forall_mem_cons.mp reads
    obtain ⟨filled, own⟩ := reads text taken
    have here := apart edit.path text own
    rw [rangesOf_cons, if_pos rfl, ← List.append_assoc] at here
    have anchored : anchor text (replacements.ranges edit.path) edit = .ok (edit.range text) := by
      refine (anchor_eq_ok filled).mpr ⟨found, rfl, fun r mem => ?_⟩
      have front := (List.pairwise_append.mp here).1
      exact symm ((List.pairwise_append.mp front).2.2 r mem _ (by simp))
    obtain ⟨result, collected⟩ := @ih (replacements.set edit.path
        (replacements.ranges edit.path ++ [edit.range text])) later others (by
      intro path text' there
      rw [Replacements.ranges_set]
      have along := apart path text' there
      rw [rangesOf_cons] at along
      split
      · rename_i same
        subst same
        cases own.symm.trans there
        exact here
      · rename_i other
        rwa [if_neg (Ne.symm other), List.nil_append] at along)
    exact ⟨result, by simp [collect, taken, anchored, collected, bind, Except.bind]⟩

theorem rangesOf_perm {edits' : List Edit} (perm : edits.Perm edits') :
    (rangesOf edits path text).Perm (rangesOf edits' path text) :=
  (perm.filter _).map _

variable {before after : Contents}

theorem range_start (filled : edit.old.toList ≠ []) (once : count edit.old.toList text = 1) :
    OccursAt edit.old.toList text (edit.range text).start := by
  obtain ⟨i, found, occurs, -⟩ := count_eq_one filled once
  rw [Edit.range, found]
  exact occurs

theorem ReadsFrom.perm {edits' : List Edit} (reads : ReadsFrom read texts edits)
    (perm : edits.Perm edits') : ReadsFrom read texts edits' :=
  fun edit mem => reads edit (perm.mem_iff.mpr mem)

section Collected

variable (reads : ReadsFrom read texts edits)
  (collected : Collected read texts edits .empty result)
include reads collected

theorem Collected.bound (there : texts path = some text) :
    ∀ r ∈ rangesOf edits path text, r.start < r.stop ∧ r.stop ≤ text.length := by
  intro r mem
  obtain ⟨edit, chosen, rfl⟩ := List.mem_map.mp mem
  obtain ⟨mem, same⟩ := List.mem_filter.mp chosen
  obtain ⟨text', taken, once⟩ := collected.once edit mem
  obtain ⟨filled, own⟩ := reads edit mem text' taken
  rw [of_decide_eq_true same, there] at own
  cases own
  have occurs := (range_start filled once).bound filled
  have positive := List.length_pos_of_ne_nil filled
  exact ⟨Nat.lt_add_of_pos_right positive, occurs⟩

omit reads in
theorem Collected.rangesOf_apart (there : texts path = some text) :
    (rangesOf edits path text).Pairwise Replacement.Apart := by
  have ranges := (collected.ranges path text there).trans (List.nil_append _)
  exact ranges ▸ collected.apart path .nil

/-- What is spliced into a file are its edits, all at once. -/
theorem Collected.spliceAll (there : texts path = some text) :
    Replacement.spliceAll (result.ranges path) text =
      Replacement.replaceAll (rangesOf edits path text) text := by
  rw [(collected.ranges path text there).trans (List.nil_append _)]
  exact Replacement.spliceAll_eq (collected.rangesOf_apart there)
    (fun r mem => (collected.bound reads there r mem).1)
    fun r mem => (collected.bound reads there r mem).2

theorem Collected.spliceAll_perm {edits' : List Edit} {result' : Replacements}
    (reads' : ReadsFrom read texts edits') (collected' : Collected read texts edits' .empty result')
    (perm : edits.Perm edits') (there : texts path = some text) :
    Replacement.spliceAll (result.ranges path) text =
      Replacement.spliceAll (result'.ranges path) text := by
  rw [collected.spliceAll reads there, collected'.spliceAll reads' there,
    Replacement.replaceAll_perm (rangesOf_perm perm) (collected.rangesOf_apart there)]

/-- A file with ranges has a text and an edit. -/
theorem Collected.edited (mem : path ∈ result.keys) :
    (∃ edit ∈ edits, edit.path = path) ∧ ∃ text, texts path = some text := by
  rcases (collected.keys path).mp mem with none | ⟨edit, listed, rfl⟩
  · exact absurd none List.not_mem_nil
  · obtain ⟨text, taken, -⟩ := collected.once edit listed
    exact ⟨⟨edit, listed, rfl⟩, text, (reads edit listed text taken).2⟩

/-- What is collected from nothing and then written to each file are the edits. -/
theorem Collected.replaced
    (decoded : ∀ edit ∈ edits, texts edit.path = (before edit.path).bind decodeText)
    (written : ∀ path text, path ∈ result.keys → texts path = some text →
      after path = some (encodeText (Replacement.spliceAll (result.ranges path) text)))
    (kept : ∀ path, path ∉ result.keys → after path = before path) :
    Replaced edits before after := by
  constructor
  · intro edit mem
    obtain ⟨text, taken, once⟩ := collected.once edit mem
    obtain ⟨filled, own⟩ := reads edit mem text taken
    exact ⟨text, (decoded edit mem).symm.trans own, range_start filled once⟩
  · exact fun edit mem text there => collected.rangesOf_apart ((decoded edit mem).trans there)
  · intro edit mem text there
    replace there := (decoded edit mem).trans there
    rw [written edit.path text ((collected.keys _).mpr (.inr ⟨edit, mem, rfl⟩)) there,
      collected.spliceAll reads there]
  · intro path free
    refine kept path fun mem => ?_
    obtain ⟨⟨edit, mem, same⟩, -⟩ := collected.edited reads mem
    exact free edit mem same

/-- Edits that are collected in one order are collected in every other. -/
theorem Collected.perm {edits' : List Edit} (perm : edits.Perm edits') :
    ∃ result', collect read .empty edits' = .ok result' := by
  refine @exists_collect edits' _ read texts (reads.perm perm)
    (fun edit mem => collected.once edit (perm.mem_iff.mpr mem)) fun path text there => ?_
  exact ((rangesOf_perm perm).pairwise_iff fun {_ _} => Or.symm).mp
    (collected.rangesOf_apart there)

theorem Collected.unique_iff
    (decoded : ∀ edit ∈ edits, texts edit.path = (before edit.path).bind decodeText) :
    Unique edits before ↔ ¬ Ambiguous edits before := by
  have once : ∀ edit ∈ edits, ∀ text, (before edit.path).bind decodeText = some text →
      ((∃! i, OccursAt edit.old.toList text i) ↔ ¬ Overlaps edit.old.toList text) := by
    intro edit mem text there
    obtain ⟨text', taken, once⟩ := collected.once edit mem
    obtain ⟨filled, own⟩ := reads edit mem text' taken
    rw [decoded edit mem, there] at own
    cases own
    exact existsUnique_occursAt_iff filled once
  constructor
  · rintro unique ⟨edit, mem, text, there, overlaps⟩
    exact (once edit mem text there).mp (unique edit mem text there) overlaps
  · exact fun clear edit mem text there =>
      (once edit mem text there).mpr fun overlaps => clear ⟨edit, mem, text, there, overlaps⟩

end Collected

/-- The same edits of the same file, in any order, leave the same file. -/
theorem Replaced.file {edits' : List Edit} {before' after' : Contents}
    (replaced : Replaced edits before after) (replaced' : Replaced edits' before' after')
    (perm : edits.Perm edits') (same : before path = before' path) : after path = after' path := by
  by_cases free : ∀ edit ∈ edits, edit.path ≠ path
  · rw [replaced.untouched path free, same,
      replaced'.untouched path fun edit mem => free edit (perm.mem_iff.mpr mem)]
  · push Not at free
    obtain ⟨edit, mem, rfl⟩ := free
    obtain ⟨text, there, -⟩ := replaced.decoded edit mem
    rw [replaced.replaced edit mem text there,
      replaced'.replaced edit (perm.mem_iff.mp mem) text (same ▸ there),
      Replacement.replaceAll_perm (rangesOf_perm perm) (replaced.apart edit mem text there)]

end Collect

end Reproof.Repair
