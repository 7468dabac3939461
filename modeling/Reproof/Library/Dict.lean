import Mathlib.Algebra.BigOperators.Group.List.Basic
import Mathlib.Algebra.GroupWithZero.Nat
import Mathlib.Algebra.Ring.Int.Defs
import Mathlib.Data.List.Induction
import Mathlib.Data.List.Nodup

/-! Dictionaries that keep the order in which their keys were first set. -/

universe u v w

namespace Reproof.Library

structure Dict (κ : Type u) (β : Type v) where
  entries : List (κ × β)
  nodup : (entries.map Prod.fst).Nodup
  deriving DecidableEq

namespace Dict

variable {κ : Type u} {β : Type v} {d : Dict κ β} {k k' : κ} {b b' : β}

def empty : Dict κ β := ⟨[], .nil⟩

def keys (d : Dict κ β) : List κ := d.entries.map Prod.fst

def values (d : Dict κ β) : List β := d.entries.map Prod.snd

def mapValues (d : Dict κ β) (f : β → β) : Dict κ β :=
  ⟨d.entries.map fun e => (e.1, f e.2), by
    rw [List.map_map]
    exact d.nodup⟩

def map {γ : Type w} (d : Dict κ β) (f : β → γ) : Dict κ γ :=
  ⟨d.entries.map fun e => (e.1, f e.2), by
    rw [List.map_map]
    exact d.nodup⟩

theorem keys_map {γ : Type w} {f : β → γ} : (d.map f).keys = d.keys := by
  simp [keys, map, Function.comp_def]

def filterKeys (d : Dict κ β) (p : κ → Prop) [DecidablePred p] : Dict κ β :=
  ⟨d.entries.filter fun e => p e.1, d.nodup.sublist (List.Sublist.map _ List.filter_sublist)⟩

theorem keys_mapValues {f : β → β} : (d.mapValues f).keys = d.keys := by
  simp [keys, mapValues, Function.comp_def]

theorem keys_filterKeys {p : κ → Prop} [DecidablePred p] :
    (d.filterKeys p).keys = d.keys.filter p := by
  simp only [keys, filterKeys, List.filter_map]
  rfl

theorem filterKeys_congr {p q : κ → Prop} [DecidablePred p] [DecidablePred q]
    (same : ∀ k ∈ d.keys, p k ↔ q k) : d.filterKeys p = d.filterKeys q := by
  simp only [filterKeys, mk.injEq]
  apply List.filter_congr
  intro e he
  simp [same e.1 (List.mem_map_of_mem he)]

theorem filterKeys_eq_self {p : κ → Prop} [DecidablePred p] (kept : ∀ k ∈ d.keys, p k) :
    d.filterKeys p = d := by
  cases d with
  | mk entries nodup =>
    simp only [filterKeys, mk.injEq, List.filter_eq_self]
    exact fun e he => decide_eq_true (kept e.1 (List.mem_map_of_mem he))

theorem length_keys : d.keys.length = d.entries.length := by simp [keys]

theorem length_values : d.values.length = d.entries.length := by simp [values]

section Total

variable {f : β → Int}

/-- The sum of a measure of the values. -/
def total (d : Dict κ β) (f : β → Int) : Int := (d.values.map f).sum

theorem total_mapValues {g : β → β} (same : ∀ b ∈ d.values, f (g b) = f b) :
    (d.mapValues g).total f = d.total f := by
  simp only [total, values, mapValues, List.map_map]
  apply congrArg List.sum
  apply List.map_congr_left
  exact fun e he => same e.2 (List.mem_map_of_mem he)

end Total

section

variable [DecidableEq κ]

def get? (d : Dict κ β) (k : κ) : Option β :=
  (d.entries.find? fun e => e.1 = k).map Prod.snd

/-- `d[k] = b`: in place when the key is there, at the end when it is new. -/
def set (d : Dict κ β) (k : κ) (b : β) : Dict κ β :=
  if h : k ∈ d.keys then
    ⟨d.entries.map fun e => if e.1 = k then (k, b) else e, by
      have same : (d.entries.map fun e => if e.1 = k then (k, b) else e).map Prod.fst = d.keys := by
        rw [List.map_map]
        apply List.map_congr_left
        intro e _
        by_cases he : e.1 = k <;> simp [he]
      rw [same]
      exact d.nodup⟩
  else
    ⟨d.entries ++ [(k, b)], by
      rw [List.map_append]
      exact List.Nodup.append d.nodup (List.nodup_singleton k) (by simpa [keys] using h)⟩

def erase (d : Dict κ β) (k : κ) : Dict κ β :=
  ⟨d.entries.filter fun e => e.1 ≠ k,
    d.nodup.sublist (List.Sublist.map _ List.filter_sublist)⟩

theorem mem_entries : (k, b) ∈ d.entries ↔ d.get? k = some b := by
  constructor
  · intro h
    obtain ⟨e, he⟩ : ∃ e, d.entries.find? (fun e => e.1 = k) = some e := by
      cases hf : d.entries.find? (fun e => e.1 = k) with
      | some e => exact ⟨e, rfl⟩
      | none => exact absurd (List.find?_eq_none.mp hf _ h) (by simp)
    have hk : e.1 = k := by simpa using List.find?_some he
    have heq : e = (k, b) :=
      List.inj_on_of_nodup_map d.nodup (List.mem_of_find?_eq_some he) h hk
    rw [get?, he, heq]
    rfl
  · intro h
    obtain ⟨e, he, rfl⟩ := Option.map_eq_some_iff.mp h
    have hk : e.1 = k := by simpa using List.find?_some he
    rw [← hk]
    exact List.mem_of_find?_eq_some he

theorem mem_keys : k ∈ d.keys ↔ ∃ b, d.get? k = some b := by
  simp only [keys, List.mem_map, Prod.exists, ← mem_entries]
  constructor
  · rintro ⟨k', b, h, rfl⟩; exact ⟨b, h⟩
  · rintro ⟨b, h⟩; exact ⟨k, b, h, rfl⟩

@[simp] theorem get?_empty : (empty : Dict κ β).get? k = none := rfl

@[simp] theorem get?_set : (d.set k b).get? k' = if k' = k then some b else d.get? k' := by
  apply Option.ext
  intro c
  rw [← mem_entries]
  unfold set
  split
  · rename_i h
    simp only [List.mem_map]
    by_cases hk : k' = k
    · subst hk
      simp only [if_true, Option.some.injEq]
      constructor
      · rintro ⟨e, _, he⟩
        split at he
        · exact (Prod.mk.inj he).2
        · rename_i hne; exact absurd (congrArg Prod.fst he) hne
      · rintro rfl
        obtain ⟨e, he, hk⟩ := List.mem_map.mp h
        exact ⟨e, he, by simp [hk]⟩
    · rw [if_neg hk, ← mem_entries]
      constructor
      · rintro ⟨e, hm, he⟩
        split at he
        · exact absurd (congrArg Prod.fst he).symm hk
        · rw [← he]; exact hm
      · intro hm
        exact ⟨_, hm, by simp [hk]⟩
  · rename_i h
    simp only [List.mem_append, List.mem_singleton, Prod.mk.injEq]
    by_cases hk : k' = k
    · subst hk
      have absent : (k', c) ∉ d.entries := fun hm => h (mem_keys.mpr ⟨c, mem_entries.mp hm⟩)
      simp [absent, eq_comm]
    · simp [hk, mem_entries]

theorem get?_set_self : (d.set k b).get? k = some b := by rw [get?_set, if_pos rfl]

theorem get?_set_some (h : (d.set k b).get? k' = some b') :
    k' = k ∧ b' = b ∨ k' ≠ k ∧ d.get? k' = some b' := by
  rw [get?_set] at h
  split at h
  · rename_i same
    exact .inl ⟨same, (Option.some.inj h).symm⟩
  · rename_i other
    exact .inr ⟨other, h⟩

theorem get?_eq_none : d.get? k = none ↔ k ∉ d.keys := by
  rw [mem_keys]
  cases d.get? k <;> simp

theorem mem_values : b ∈ d.values ↔ ∃ k, d.get? k = some b := by
  simp only [values, List.mem_map, Prod.exists, ← mem_entries]
  constructor
  · rintro ⟨k, _, h, rfl⟩; exact ⟨k, h⟩
  · rintro ⟨k, h⟩; exact ⟨k, b, h, rfl⟩

@[simp] theorem get?_mapValues {f : β → β} : (d.mapValues f).get? k = (d.get? k).map f := by
  apply Option.ext
  intro c
  rw [← mem_entries, Option.map_eq_some_iff]
  simp only [mapValues, List.mem_map, Prod.exists, Prod.mk.injEq, ← mem_entries]
  constructor
  · rintro ⟨k', b, h, rfl, rfl⟩; exact ⟨b, h, rfl⟩
  · rintro ⟨b, h, rfl⟩; exact ⟨k, b, h, rfl, rfl⟩

theorem get?_mapValues_some {f : β → β} (h : (d.mapValues f).get? k = some b) :
    ∃ c, d.get? k = some c ∧ f c = b := by
  rw [get?_mapValues] at h
  exact Option.map_eq_some_iff.mp h

@[simp] theorem get?_filterKeys {p : κ → Prop} [DecidablePred p] :
    (d.filterKeys p).get? k = if p k then d.get? k else none := by
  apply Option.ext
  intro c
  rw [← mem_entries]
  simp only [filterKeys, List.mem_filter, decide_eq_true_eq, mem_entries]
  by_cases hk : p k <;> simp [hk]

theorem get?_filterKeys_some {p : κ → Prop} [DecidablePred p]
    (h : (d.filterKeys p).get? k = some b) : p k ∧ d.get? k = some b := by
  rw [get?_filterKeys] at h
  split at h
  · rename_i kept
    exact ⟨kept, h⟩
  · cases h

theorem filterKeys_set {p : κ → Prop} [DecidablePred p] (dropped : ¬ p k) :
    (d.set k b).filterKeys p = d.filterKeys p := by
  simp only [filterKeys, mk.injEq]
  unfold set
  split
  · simp only
    generalize d.entries = es
    induction es with
    | nil => rfl
    | cons e rest ih =>
      by_cases he : e.1 = k
      · simp [he, dropped, ih]
      · simp [he, List.filter_cons, ih]
  · simp [dropped]

theorem keys_set : (d.set k b).keys = if k ∈ d.keys then d.keys else d.keys ++ [k] := by
  unfold set
  split
  · rename_i mem
    simp only [keys, List.map_map]
    apply List.map_congr_left
    intro e _
    by_cases he : e.1 = k <;> simp [he]
  · simp [keys]

theorem mem_keys_set : k' ∈ (d.set k b).keys ↔ k' = k ∨ k' ∈ d.keys := by
  rw [keys_set]
  split
  · rename_i mem
    constructor
    · exact .inr
    · rintro (rfl | h)
      · exact mem
      · exact h
  · rw [List.mem_append, List.mem_singleton, or_comm]

@[simp] theorem get?_erase : (d.erase k).get? k' = if k' = k then none else d.get? k' := by
  apply Option.ext
  intro c
  rw [← mem_entries]
  simp only [erase, List.mem_filter, decide_eq_true_eq, mem_entries]
  by_cases hk : k' = k <;> simp [hk]

section Map

variable {γ : Type w} {f : β → γ}

theorem get?_map : (d.map f).get? k = (d.get? k).map f := by
  unfold get? map
  rw [List.find?_map, Option.map_map, Option.map_map]
  rfl

theorem map_set : (d.set k b).map f = (d.map f).set k (f b) := by
  unfold set
  simp only [keys_map]
  split
  · simp only [map, List.map_map, mk.injEq]
    apply List.map_congr_left
    intro e _
    by_cases same : e.1 = k <;> simp [same]
  · simp [map]

theorem map_erase : (d.erase k).map f = (d.map f).erase k := by
  simp only [map, erase, mk.injEq, List.filter_map]
  rfl

/-- Setting a key to what it has changes nothing. -/
theorem set_of_get? (found : d.get? k = some b) : d.set k b = d := by
  have mem : k ∈ d.keys := mem_keys.mpr ⟨b, found⟩
  unfold set
  rw [dif_pos mem]
  obtain ⟨entries, nodup⟩ := d
  simp only [mk.injEq]
  conv_rhs => rw [← List.map_id entries]
  apply List.map_congr_left
  rintro ⟨key, value⟩ he
  by_cases same : key = k
  · subst same
    have at_key : (⟨entries, nodup⟩ : Dict κ β).get? key = some value := mem_entries.mp he
    rw [found] at at_key
    cases at_key
    simp
  · simp [same]

end Map

section Total

variable {f : β → Int}

theorem length_keys_erase_le : (d.erase k).keys.length ≤ d.keys.length := by
  rw [length_keys, length_keys]
  exact List.length_filter_le _ _

theorem length_keys_erase (mem : k ∈ d.keys) : (d.erase k).keys.length + 1 = d.keys.length := by
  have keys : (d.erase k).keys = d.keys.erase k := by
    rw [(show d.keys.Nodup from d.nodup).erase_eq_filter, erase, Dict.keys, Dict.keys,
      List.filter_map]
    congr 1
    apply List.filter_congr
    intro e _
    rw [Function.comp_apply, bne, Bool.beq_eq_decide_eq, decide_not]
  rw [keys]
  exact List.length_erase_add_one mem

theorem total_eq_zero (zero : ∀ k b, d.get? k = some b → f b = 0) : d.total f = 0 := by
  refine List.sum_eq_zero fun x listed => ?_
  obtain ⟨b, mem, rfl⟩ := List.mem_map.mp listed
  obtain ⟨k, found⟩ := mem_values.mp mem
  exact zero k b found

theorem total_set_new (new : k ∉ d.keys) : (d.set k b).total f = d.total f + f b := by
  simp [total, values, set, new]

theorem total_filterKeys {p : κ → Prop} [DecidablePred p]
    (zero : ∀ k b, d.get? k = some b → ¬ p k → f b = 0) :
    (d.filterKeys p).total f = d.total f := by
  have listed : ∀ e ∈ d.entries, ¬ p e.1 → f e.2 = 0 := fun e he => zero e.1 e.2 (mem_entries.mp he)
  simp only [total, values, filterKeys, List.map_map]
  generalize d.entries = es at listed
  induction es with
  | nil => rfl
  | cons e rest ih =>
    have tail := ih fun e he => listed e (List.mem_cons_of_mem _ he)
    by_cases kept : p e.1
    · rw [List.filter_cons_of_pos (by simpa using kept), List.map_cons, List.map_cons, List.sum_cons,
        List.sum_cons, tail]
    · rw [List.filter_cons_of_neg (by simpa using kept), List.map_cons, List.sum_cons, tail]
      simp [listed e List.mem_cons_self kept]

/-- A key set to another value. -/
theorem total_set {c : β} (found : d.get? k = some c) :
    (d.set k b).total f = d.total f - f c + f b := by
  have mem : k ∈ d.keys := mem_keys.mpr ⟨c, found⟩
  have old : ∀ e ∈ d.entries, e.1 = k → e.2 = c := by
    rintro ⟨k', c'⟩ he rfl
    exact Option.some.inj ((mem_entries.mp he).symm.trans found)
  have nodup := d.nodup
  rw [total, total, values, values, set, dif_pos mem]
  simp only [keys] at mem
  simp only [List.map_map]
  generalize d.entries = es at old mem nodup
  induction es with
  | nil => nomatch mem
  | cons e es ih =>
    rw [List.map_cons, List.nodup_cons] at nodup
    have tail := ih fun e he => old e (List.mem_cons_of_mem _ he)
    simp only [List.map_cons, List.sum_cons, Function.comp_apply]
    by_cases same : e.1 = k
    · have kept : es.map (f ∘ Prod.snd ∘ fun e => if e.1 = k then (k, b) else e) =
          es.map (f ∘ Prod.snd) := by
        apply List.map_congr_left
        intro e' he
        have other : e'.1 ≠ k := fun h => nodup.1 (by
          rw [same, ← h]
          exact List.mem_map_of_mem he)
        simp only [Function.comp_apply, if_neg other]
      simp only [kept, if_pos same, old e List.mem_cons_self same]
      omega
    · have later : k ∈ es.map Prod.fst :=
        (List.mem_cons.mp mem).resolve_left fun h => same h.symm
      rw [if_neg same, tail later nodup.2]
      omega

/-- A key set to a smaller value. -/
theorem total_set_le {c : β} (found : d.get? k = some c) (le : f b ≤ f c) :
    (d.set k b).total f ≤ d.total f := by
  rw [total_set found]
  omega

end Total

section SetAll

/-- `d.update(pairs)`. -/
def setAll (d : Dict κ β) (pairs : List (κ × β)) : Dict κ β :=
  pairs.foldl (fun d e => d.set e.1 e.2) d

/-- `dict(pairs)`. -/
def ofList (pairs : List (κ × β)) : Dict κ β := empty.setAll pairs

variable {pairs pairs' : List (κ × β)}

theorem get?_setAll_of_mem (nodup : (pairs.map Prod.fst).Nodup) (mem : (k, b) ∈ pairs) :
    (d.setAll pairs).get? k = some b := by
  induction pairs using List.reverseRecOn with
  | nil => exact absurd mem List.not_mem_nil
  | append_singleton front e ih =>
    rw [setAll, List.foldl_append, List.foldl_cons, List.foldl_nil, get?_set]
    rw [List.map_append] at nodup
    rcases List.mem_append.mp mem with old | new
    · have other : k ≠ e.1 := fun same => List.disjoint_of_nodup_append nodup
        (List.mem_map_of_mem old) (by simp [same])
      rw [if_neg other]
      exact ih (List.Nodup.of_append_left nodup) old
    · cases List.mem_singleton.mp new
      exact if_pos rfl

theorem get?_setAll_of_not_mem (absent : k ∉ pairs.map Prod.fst) :
    (d.setAll pairs).get? k = d.get? k := by
  induction pairs using List.reverseRecOn with
  | nil => rfl
  | append_singleton front e ih =>
    simp only [List.map_append, List.map_cons, List.map_nil, List.mem_append, List.mem_singleton,
      not_or] at absent
    rw [setAll, List.foldl_append, List.foldl_cons, List.foldl_nil, get?_set, if_neg absent.2]
    exact ih absent.1

theorem get?_ofList_perm (nodup : (pairs.map Prod.fst).Nodup) (perm : pairs.Perm pairs') :
    (ofList pairs).get? k = (ofList pairs').get? k := by
  have nodup' := (perm.map Prod.fst).nodup_iff.mp nodup
  by_cases listed : k ∈ pairs.map Prod.fst
  · obtain ⟨⟨_, b⟩, mem, rfl⟩ := List.mem_map.mp listed
    exact (get?_setAll_of_mem nodup mem).trans
      (get?_setAll_of_mem nodup' (perm.mem_iff.mp mem)).symm
  · exact (get?_setAll_of_not_mem listed).trans
      (get?_setAll_of_not_mem ((perm.map Prod.fst).mem_iff.not.mp listed)).symm

theorem get?_ofList_entries : (ofList d.entries).get? k = d.get? k := by
  by_cases mem : k ∈ d.keys
  · obtain ⟨b, found⟩ := mem_keys.mp mem
    rw [found]
    exact get?_setAll_of_mem d.nodup (mem_entries.mpr found)
  · rw [get?_eq_none.mpr mem]
    exact get?_setAll_of_not_mem mem

theorem get?_setAll_entries {d' : Dict κ β} :
    (d.setAll d'.entries).get? k = (d'.get? k).or (d.get? k) := by
  cases found : d'.get? k with
  | none => exact get?_setAll_of_not_mem (get?_eq_none.mp found)
  | some b => exact get?_setAll_of_mem d'.nodup (mem_entries.mpr found)

theorem keys_setAll (known : ∀ k ∈ pairs.map Prod.fst, k ∈ d.keys) :
    (d.setAll pairs).keys = d.keys := by
  induction pairs using List.reverseRecOn with
  | nil => rfl
  | append_singleton front e ih =>
    simp only [List.map_append, List.map_cons, List.map_nil, List.forall_mem_append,
      List.forall_mem_singleton] at known
    obtain ⟨before, last⟩ := known
    have front' := ih before
    rw [setAll] at front'
    rw [setAll, List.foldl_append, List.foldl_cons, List.foldl_nil, keys_set, front', if_pos last]

theorem entries_perm {d' : Dict κ β} (same : ∀ k, d.get? k = d'.get? k) :
    d.entries.Perm d'.entries := by
  refine (List.perm_ext_iff_of_nodup (List.Nodup.of_map _ d.nodup) (List.Nodup.of_map _ d'.nodup)).mpr ?_
  rintro ⟨k, b⟩
  rw [mem_entries, mem_entries, same]

/-- A dictionary is its keys in order and their values. -/
theorem ext_get? {d' : Dict κ β} (keys : d.keys = d'.keys) (same : ∀ k, d.get? k = d'.get? k) :
    d = d' := by
  have value : ∀ (d : Dict κ β) (e : κ × β), e ∈ d.entries → d.get? e.1 = some e.2 :=
    fun d e mem => mem_entries.mp mem
  cases d with
  | mk es nodup =>
    cases d' with
    | mk es' nodup' =>
      have entries : es = es' := by
        refine List.ext_getElem (by simpa [Dict.keys] using congrArg List.length keys) ?_
        intro i here there
        have key : es[i].1 = es'[i].1 := by
          have := congrArg (·[i]?) keys
          simpa [Dict.keys, here, there] using this
        have own := value ⟨es, nodup⟩ _ (List.getElem_mem here)
        have other := value ⟨es', nodup'⟩ _ (List.getElem_mem there)
        rw [← key, ← same, own] at other
        exact Prod.ext key (Option.some.inj other)
      cases entries
      rfl

theorem setAll_congr {e e' : Dict κ β} (same : ∀ k, e.get? k = e'.get? k)
    (known : ∀ k ∈ e.keys, k ∈ d.keys) : d.setAll e.entries = d.setAll e'.entries := by
  have perm := entries_perm same
  refine ext_get? ?_ fun k => ?_
  · rw [keys_setAll known,
      keys_setAll fun k mem => known k ((perm.map Prod.fst).mem_iff.mpr mem)]
  · rw [get?_setAll_entries, get?_setAll_entries, same]

end SetAll

end

end Dict

end Reproof.Library
