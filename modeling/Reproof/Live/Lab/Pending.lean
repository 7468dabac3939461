import Mathlib.Logic.Function.Basic
import Reproof.Live.Lab.Gestures

/-! What touches that are in flight together make of the pointers. -/

namespace Reproof.Live.Lab

open Library

namespace Touch

def Moves : Touch → Prop
  | pointer .move .. => True
  | _ => False

def Lifts : Touch → Prop
  | pointer .up .. => True
  | _ => False

def Cancels : Touch → Prop
  | pointer .cancel .. => True
  | _ => False

instance : DecidablePred Moves := fun touch => by
  unfold Moves
  split <;> infer_instance

instance : DecidablePred Lifts := fun touch => by
  unfold Lifts
  split <;> infer_instance

instance : DecidablePred Cancels := fun touch => by
  unfold Cancels
  split <;> infer_instance

/-- The pointers down after a touch. -/
def effect (down : Int → Option Int) : Touch → Int → Option Int
  | pointer .down pointerId geometryVersion => Function.update down pointerId (some geometryVersion)
  | pointer .up pointerId _ => Function.update down pointerId none
  | pointer .cancel _ _ => fun _ => none
  | pointer .move _ _ | other => down

/-- What a touch asks of the pointers, their number apart. -/
def Fits (down : Int → Option Int) : Touch → Prop
  | pointer .down pointerId _ => down pointerId = none
  | pointer .move pointerId geometryVersion | pointer .up pointerId geometryVersion =>
    down pointerId = some geometryVersion
  | pointer .cancel _ _ => True
  | other => ∀ pointerId, down pointerId = none

/-- Two touches that keep out of each other's way. -/
def Apart : Touch → Touch → Prop
  | other, other => True
  | other, pointer phase _ _ | pointer phase _ _, other => phase = .cancel
  | pointer phase pointerId _, pointer phase' pointerId' _ =>
    phase = .cancel ∧ phase' = .cancel ∨ phase = .move ∧ phase' = .move ∨
      phase ≠ .cancel ∧ phase' ≠ .cancel ∧ pointerId ≠ pointerId'

instance : DecidableRel Apart := fun a b => by
  unfold Apart
  split <;> infer_instance

variable {down : Int → Option Int} {u touch : Touch}

theorem Apart.symm (apart : u.Apart touch) : touch.Apart u := by
  cases u with
  | other => cases touch <;> exact apart
  | pointer phase pointerId _ =>
    cases touch with
    | other => exact apart
    | pointer phase' pointerId' _ =>
      obtain ⟨cancel, cancel'⟩ | ⟨move, move'⟩ | ⟨other, other', distinct⟩ := apart
      · exact .inl ⟨cancel', cancel⟩
      · exact .inr (.inl ⟨move', move⟩)
      · exact .inr (.inr ⟨other', other, distinct.symm⟩)

/-- A touch still fits after one that keeps out of its way. -/
theorem Apart.fits (apart : u.Apart touch) (fits : touch.Fits down) :
    touch.Fits (u.effect down) := by
  cases u with
  | other => exact fits
  | pointer phase pointerId _ =>
    cases touch with
    | other =>
      obtain rfl : phase = .cancel := apart
      exact fun _ => rfl
    | pointer phase' pointerId' _ =>
      obtain ⟨rfl, rfl⟩ | ⟨rfl, rfl⟩ | ⟨other, other', distinct⟩ := apart
      · trivial
      · exact fits
      · cases phase <;> cases phase' <;>
          simp only [Fits, effect, Function.update_of_ne distinct.symm] <;>
          first | exact fits | contradiction

theorem Apart.effect_comm (apart : u.Apart touch) :
    touch.effect (u.effect down) = u.effect (touch.effect down) := by
  cases u with
  | other => cases touch <;> rfl
  | pointer phase pointerId _ =>
    cases touch with
    | other => cases phase <;> rfl
    | pointer phase' pointerId' _ =>
      obtain ⟨rfl, rfl⟩ | ⟨rfl, rfl⟩ | ⟨other, other', distinct⟩ := apart
      · rfl
      · rfl
      · cases phase <;> cases phase' <;>
          first | rfl | contradiction | exact Function.update_comm distinct ..

theorem Lifts.effect_comm (lifts : u.Lifts) (cancels : touch.Cancels) :
    touch.effect (u.effect down) = u.effect (touch.effect down) := by
  match u, touch, lifts, cancels with
  | .pointer .up _ _, .pointer .cancel _ _, _, _ =>
    funext p
    simp [effect, Function.update_apply]

theorem Cancels.effect (cancels : touch.Cancels) {pointerId : Int} : touch.effect down pointerId = none := by
  match touch, cancels with
  | .pointer .cancel _ _, _ => rfl

/-- The pointers down after touches in a row. -/
def overlay (down : Int → Option Int) (touches : List Touch) : Int → Option Int :=
  touches.foldl effect down

theorem overlay_append {touches later : List Touch} :
    overlay down (touches ++ later) = overlay (overlay down touches) later :=
  List.foldl_append

theorem overlay_idle {touches : List Touch} (idle : ∀ u ∈ touches, u = other) :
    overlay down touches = down := by
  induction touches with
  | nil => rfl
  | cons u touches ih =>
    obtain rfl := idle u List.mem_cons_self
    exact ih fun v hv => idle v (List.mem_cons_of_mem _ hv)

theorem overlay_fits {touches : List Touch} (fits : touch.Fits down)
    (spared : ∀ u ∈ touches, ∀ down, touch.Fits down → touch.Fits (u.effect down)) :
    touch.Fits (overlay down touches) := by
  induction touches generalizing down with
  | nil => exact fits
  | cons u touches ih =>
    exact ih (spared u List.mem_cons_self down fits) fun v hv => spared v (List.mem_cons_of_mem _ hv)

/-- A touch may come before those that it commutes with. -/
theorem overlay_comm {before after : List Touch}
    (comm : ∀ u ∈ before, ∀ down, touch.effect (u.effect down) = u.effect (touch.effect down)) :
    overlay down (before ++ touch :: after) = overlay (touch.effect down) (before ++ after) := by
  induction before generalizing down with
  | nil => rfl
  | cons u before ih =>
    calc
      overlay down (u :: before ++ touch :: after)
        = overlay (touch.effect (u.effect down)) (before ++ after) :=
          ih fun v hv => comm v (List.mem_cons_of_mem _ hv)
      _ = overlay (touch.effect down) (u :: before ++ after) := by
          rw [comm u List.mem_cons_self]
          rfl

theorem overlay_down {touches : List Touch} {pointerId : Int}
    (held : overlay down touches pointerId ≠ none) :
    down pointerId ≠ none ∨ ∃ geometryVersion, pointer .down pointerId geometryVersion ∈ touches := by
  induction touches generalizing down with
  | nil => exact .inl held
  | cons u touches ih =>
    obtain held | ⟨geometryVersion, mem⟩ := ih held
    · cases u with
      | other => exact .inl held
      | pointer phase p g =>
        cases phase with
        | down =>
          by_cases same : pointerId = p
          · subst same
            exact .inr ⟨g, List.mem_cons_self⟩
          · rw [effect, Function.update_of_ne same] at held
            exact .inl held
        | move => exact .inl held
        | up =>
          by_cases same : pointerId = p
          · subst same
            exact absurd (Function.update_self ..) held
          · rw [effect, Function.update_of_ne same] at held
            exact .inl held
        | cancel => exact absurd rfl held
    · exact .inr ⟨geometryVersion, List.mem_cons_of_mem _ mem⟩

/-- A touch that fits is legal. -/
theorem Fits.apply {held : Dict Int Int} (fits : touch.Fits held.get?)
    (room : ∀ p g, touch = .pointer .down p g → held.keys.length < 5) :
    ∃ next, touch.apply held = some next ∧ next.get? = touch.effect held.get? := by
  cases touch with
  | other =>
    have none : held.keys = [] := List.eq_nil_iff_forall_not_mem.mpr fun p mem =>
      Dict.get?_eq_none.mp (fits p) mem
    exact ⟨held, if_pos none, rfl⟩
  | pointer phase p g =>
    cases phase with
    | down =>
      refine ⟨held.set p g, if_pos ⟨Dict.get?_eq_none.mp fits, room p g rfl⟩, ?_⟩
      funext p'
      rw [Dict.get?_set, effect, Function.update_apply]
    | move => exact ⟨held, if_pos fits, rfl⟩
    | up =>
      refine ⟨held.erase p, if_pos fits, ?_⟩
      funext p'
      rw [Dict.get?_erase, effect, Function.update_apply]
    | cancel => exact ⟨.empty, rfl, rfl⟩

end Touch

theorem leaves_append {held : Dict Int Int} {trace later : List Started} :
    leaves held (trace ++ later) = (leaves held trace).bind fun next => leaves next later := by
  induction trace generalizing held with
  | nil => rfl
  | cons started trace ih =>
    rw [List.cons_append, leaves, leaves, Option.bind_assoc]
    simp only [ih]

/-- A command whose provider keeps to the calls given. -/
def Started.given (keep : Nat → Bool) (started : Started) : Started :=
  { started with kept := started.kept && keep started.call }

end Reproof.Live.Lab
