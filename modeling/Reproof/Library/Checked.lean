import Mathlib.Algebra.GroupWithZero.Nat
import Mathlib.Algebra.Ring.Int.Defs

/-! Computations that stop at the first failed check, with the text of that check. -/

universe u v

namespace Reproof.Library

variable {ε : Type u} {α β : Type v}

/-- `_require(condition, message)`. -/
def require (p : Prop) [Decidable p] (message : ε) : Except ε Unit :=
  if p then .ok () else .error message

/-- The value of a lookup that the caller has to have. -/
def orFail (value : Option α) (message : ε) : Except ε α :=
  match value with
  | some a => .ok a
  | none => .error message

/-- `for item in items: check(item)`. -/
def each (items : List α) (check : α → Except ε Unit) : Except ε Unit :=
  match items with
  | [] => .ok ()
  | item :: rest => check item >>= fun _ => each rest check

@[simp] theorem bind_eq_ok {m : Except ε α} {next : α → Except ε β} {result : β} :
    (m >>= next) = .ok result ↔ ∃ a, m = .ok a ∧ next a = .ok result := by
  cases m <;> simp [bind, Except.bind]

@[simp] theorem pure_eq_ok {a result : α} : (pure a : Except ε α) = .ok result ↔ a = result := by
  simp [pure, Except.pure]

@[simp] theorem map_eq_ok {f : α → β} {m : Except ε α} {result : β} :
    (f <$> m) = .ok result ↔ ∃ a, m = .ok a ∧ f a = result := by
  cases m <;> simp [Functor.map, Except.map]

@[simp] theorem require_eq_ok {p : Prop} [Decidable p] {message : ε} {u : Unit} :
    require p message = .ok u ↔ p := by
  by_cases h : p <;> simp [require, h]

@[simp] theorem orFail_eq_ok {value : Option α} {message : ε} {a : α} :
    orFail value message = .ok a ↔ value = some a := by
  cases value <;> simp [orFail]

@[simp] theorem each_eq_ok {items : List α} {check : α → Except ε Unit} {u : Unit} :
    each items check = .ok u ↔ ∀ item ∈ items, check item = .ok () := by
  induction items with
  | nil => simp [each]
  | cons item rest ih =>
    rw [each, bind_eq_ok, List.forall_mem_cons]
    exact ⟨fun ⟨(), first, others⟩ => ⟨first, ih.mp others⟩, fun ⟨first, others⟩ => ⟨(), first, ih.mpr others⟩⟩

@[simp] theorem toOption_eq_some {m : Except ε α} {a : α} : m.toOption = some a ↔ m = .ok a := by
  cases m <;> simp [Except.toOption]

@[simp] theorem mapError_eq_ok {ε' : Type u} {m : Except ε α} {f : ε → ε'} {a : α} :
    m.mapError f = .ok a ↔ m = .ok a := by
  rcases m with e | b <;> constructor <;> rintro ⟨⟩ <;> rfl

/-- A loop over documents is one over what is read of them. -/
theorem foldlM_reads {σ α β ε : Type} {step : σ → α → Except ε σ} {read : α → Option β}
    {next : σ → β → Option σ}
    (h : ∀ s a t, step s a = .ok t ↔ ∃ b, read a = some b ∧ next s b = some t) {as : List α} {s t : σ} :
    as.foldlM step s = .ok t ↔ ∃ bs, as.mapM read = some bs ∧ bs.foldlM next s = some t := by
  induction as generalizing s with
  | nil => simp
  | cons a as ih =>
    simp only [List.foldlM_cons, bind_eq_ok, h, ih, List.mapM_cons, Option.bind_eq_bind,
      Option.bind_eq_some_iff, Option.pure_def, Option.some.injEq]
    constructor
    · rintro ⟨middle, ⟨b, read, first⟩, bs, reads, rest⟩
      refine ⟨b :: bs, ⟨b, read, bs, reads, rfl⟩, ?_⟩
      rw [List.foldlM_cons, first]
      exact rest
    · rintro ⟨_, ⟨b, read, bs, reads, rfl⟩, fold⟩
      rw [List.foldlM_cons, Option.bind_eq_bind, Option.bind_eq_some_iff] at fold
      obtain ⟨middle, first, rest⟩ := fold
      exact ⟨middle, ⟨b, read, first⟩, bs, reads, rest⟩

theorem foldlM_flatten {σ α : Type} {next : σ → α → Option σ} {lists : List (List α)} {s : σ} :
    lists.foldlM (fun s list => list.foldlM next s) s = lists.flatten.foldlM next s := by
  induction lists generalizing s with
  | nil => rfl
  | cons list lists ih =>
    rw [List.foldlM_cons, List.flatten_cons, List.foldlM_append]
    exact congrArg _ (funext fun _ => ih)

end Reproof.Library
