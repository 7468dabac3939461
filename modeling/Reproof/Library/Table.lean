import Mathlib.Data.List.Basic
import Mathlib.Data.List.Pairwise
import Mathlib.Tactic.Tauto

/-! Relational tables.  A table carries its unique keys and its row constraints,
so a statement that would break one of them has no result. -/

universe u

namespace Reproof.Library

/-- `Clash a b` when two rows share a primary or unique key, `Check a` when a row
meets the row constraints of its table. -/
class Schema (ρ : Type u) where
  Clash : ρ → ρ → Prop
  Check : ρ → Prop
  symm : ∀ {a b}, Clash a b → Clash b a
  decClash : DecidableRel Clash
  decCheck : DecidablePred Check

section

variable {ρ : Type u} [Schema ρ]

instance : DecidableRel (@Schema.Clash ρ _) := Schema.decClash
instance : DecidablePred (@Schema.Check ρ _) := Schema.decCheck
instance : Std.Symm fun a b : ρ => ¬ Schema.Clash a b := ⟨fun _ _ h hc => h (Schema.symm hc)⟩

end

structure Table (ρ : Type u) [Schema ρ] where
  rows : List ρ
  distinct : rows.Pairwise fun a b => ¬ Schema.Clash a b
  checked : ∀ r ∈ rows, Schema.Check r

namespace Table

variable {ρ : Type u} [Schema ρ] {t t' : Table ρ}

instance : Membership ρ (Table ρ) := ⟨fun t r => r ∈ t.rows⟩

@[simp] theorem mem_rows {r : ρ} : r ∈ t.rows ↔ r ∈ t := Iff.rfl

def empty : Table ρ := ⟨[], .nil, by simp⟩

/-- `SELECT * FROM t WHERE p`, for a condition that names at most one row. -/
def find? (t : Table ρ) (p : ρ → Prop) [DecidablePred p] : Option ρ :=
  t.rows.find? fun r => p r

/-- `SELECT * FROM t WHERE p`. -/
def select (t : Table ρ) (p : ρ → Prop) [DecidablePred p] : List ρ :=
  t.rows.filter fun r => p r

/-- The rows `rows` as a table, when they meet the schema. -/
def ofRows? (rows : List ρ) : Option (Table ρ) :=
  if h : rows.Pairwise (fun a b => ¬ Schema.Clash a b) ∧ ∀ r ∈ rows, Schema.Check r then
    some ⟨rows, h.1, h.2⟩
  else none

/-- `INSERT INTO t`. -/
def insert? (t : Table ρ) (r : ρ) : Option (Table ρ) := ofRows? (t.rows ++ [r])

/-- `UPDATE t SET f WHERE p`. -/
def update? (t : Table ρ) (p : ρ → Prop) [DecidablePred p] (f : ρ → ρ) : Option (Table ρ) :=
  ofRows? (t.rows.map fun r => if p r then f r else r)

/-- `DELETE FROM t WHERE p`. -/
def delete (t : Table ρ) (p : ρ → Prop) [DecidablePred p] : Table ρ :=
  ⟨t.rows.filter fun r => ¬ p r, t.distinct.filter _,
    fun r mem => t.checked r (List.mem_of_mem_filter mem)⟩

theorem eq_of_clash {a b : ρ} (ha : a ∈ t) (hb : b ∈ t) (h : Schema.Clash a b) : a = b := by
  by_contra hne
  exact t.distinct.forall ha hb hne h

theorem rows_of_ofRows? {rows : List ρ} (h : ofRows? rows = some t) : t.rows = rows := by
  unfold ofRows? at h
  split at h
  · cases h; rfl
  · cases h

theorem rows_of_insert? {r : ρ} (h : t.insert? r = some t') : t'.rows = t.rows ++ [r] :=
  rows_of_ofRows? h

theorem mem_insert? {r a : ρ} (h : t.insert? r = some t') : a ∈ t' ↔ a ∈ t ∨ a = r := by
  rw [← mem_rows, rows_of_insert? h, List.mem_append, List.mem_singleton, mem_rows]

theorem insert?_isSome {r : ρ} (fresh : ∀ a ∈ t, ¬ Schema.Clash a r) (checked : Schema.Check r) :
    ∃ t', t.insert? r = some t' := by
  refine ⟨_, dif_pos ⟨?_, ?_⟩⟩
  · exact List.pairwise_append.mpr ⟨t.distinct, List.pairwise_singleton _ _,
      fun a ha b hb => List.mem_singleton.mp hb ▸ fresh a ha⟩
  · intro a ha
    obtain ha | ha := List.mem_append.mp ha
    · exact t.checked a ha
    · exact List.mem_singleton.mp ha ▸ checked

section

variable {p q : ρ → Prop} [DecidablePred p] [DecidablePred q] {f : ρ → ρ} {r : ρ}

/-- An update that makes no rows clash. -/
theorem update?_isSome
    (apart : ∀ a b, Schema.Clash (if p a then f a else a) (if p b then f b else b) → Schema.Clash a b)
    (checked : ∀ a, Schema.Check a → Schema.Check (f a)) : ∃ t', t.update? p f = some t' := by
  refine ⟨_, dif_pos ⟨?_, ?_⟩⟩
  · rw [List.pairwise_map]
    exact t.distinct.imp fun {a b} distinct clash => distinct (apart a b clash)
  · intro b hb
    obtain ⟨a, ha, rfl⟩ := List.mem_map.mp hb
    split
    · exact checked a (t.checked a ha)
    · exact t.checked a ha

theorem rows_of_update? (h : t.update? p f = some t') :
    t'.rows = t.rows.map fun r => if p r then f r else r :=
  rows_of_ofRows? h

theorem mem_of_find? (h : t.find? p = some r) : r ∈ t ∧ p r := by
  have found := List.find?_some h
  exact ⟨List.mem_of_find?_eq_some h, by simpa using found⟩

theorem not_of_find? (h : t.find? p = none) (hr : r ∈ t) : ¬ p r := by
  have absent := List.find?_eq_none.mp h r hr
  simpa using absent

/-- A query by unique key returns the row with that key. -/
theorem find?_eq_some (key : ∀ a b, p a → p b → Schema.Clash a b) :
    t.find? p = some r ↔ r ∈ t ∧ p r := by
  refine ⟨mem_of_find?, fun ⟨hr, hp⟩ => ?_⟩
  cases h : t.find? p with
  | none => exact absurd hp (not_of_find? h hr)
  | some r' =>
    obtain ⟨hr', hp'⟩ := mem_of_find? h
    rw [eq_of_clash hr hr' (key _ _ hp hp')]

@[simp] theorem mem_select : r ∈ t.select p ↔ r ∈ t ∧ p r := by
  simp [select]

@[simp] theorem mem_delete : r ∈ t.delete p ↔ r ∈ t ∧ ¬ p r := by
  change r ∈ t.rows.filter _ ↔ _
  simp

theorem select_insert? (h : t.insert? r = some t') :
    t'.select q = t.select q ++ if q r then [r] else [] := by
  rw [select, rows_of_insert? h, List.filter_append]
  by_cases hq : q r <;> simp [select, hq]

theorem find?_insert? (h : t.insert? r = some t') :
    t'.find? q = (t.find? q).or (if q r then some r else none) := by
  rw [find?, rows_of_insert? h, List.find?_append]
  by_cases hq : q r <;> simp [find?, hq]

/-- An update that keeps the columns a query reads commutes with the query. -/
theorem select_update? (h : t.update? p f = some t') (keep : ∀ r, p r → (q (f r) ↔ q r)) :
    t'.select q = (t.select q).map fun r => if p r then f r else r := by
  rw [select, rows_of_update? h, List.filter_map]
  congr 1
  apply List.filter_congr
  intro r _
  by_cases hp : p r <;> simp [hp, keep]

theorem find?_update? (h : t.update? p f = some t') (keep : ∀ r, p r → (q (f r) ↔ q r)) :
    t'.find? q = (t.find? q).map fun r => if p r then f r else r := by
  rw [find?, rows_of_update? h, List.find?_map]
  congr 2
  funext r
  by_cases hp : p r <;> simp [hp, keep]

/-- An update that touches no selected row leaves the selection as it was. -/
theorem select_update?_of_not (h : t.update? p f = some t') (keep : ∀ r, p r → (q (f r) ↔ q r))
    (miss : ∀ r ∈ t, q r → ¬ p r) : t'.select q = t.select q := by
  rw [select_update? h keep]
  conv_rhs => rw [← List.map_id (t.select q)]
  apply List.map_congr_left
  intro r hr
  obtain ⟨mem, sel⟩ := mem_select.mp hr
  simp [miss r mem sel]

end

end Table

end Reproof.Library
