import Mathlib.Data.Rat.Init
import Reproof.Contracts.Versions
import Reproof.Library.Dict

/-! The gestures of a live input and the pointers they hold down. -/

namespace Reproof.Live.Lab

open Contracts Library

inductive PointerPhase
  | down
  | move
  | up
  | cancel
  deriving DecidableEq

/-- An action with the payload of its keys. -/
inductive Gesture
  | tap (x y : Rat)
  | longPress (x y : Rat) (durationMs : Int)
  | swipe (fromX fromY toX toY : Rat) (durationMs : Int)
  | text (value : String)
  | home
  | back
  | reset
  | rotate (orientation : String)
  | launch (applicationId : String)
  | terminate (applicationId : String)
  | pointer (phase : PointerPhase) (pointerId : Int) (x y : Rat)
  deriving DecidableEq

namespace Gesture

def action : Gesture → String
  | tap .. => "tap"
  | longPress .. => "long_press"
  | swipe .. => "swipe"
  | text .. => "text"
  | home => "home"
  | back => "back"
  | reset => "reset"
  | rotate .. => "rotate"
  | launch .. => "launch"
  | terminate .. => "terminate"
  | pointer .. => "pointer"

/-- A normalized coordinate. -/
def Normalized (v : Rat) : Prop := 0 ≤ v ∧ v ≤ 1

instance : DecidablePred Normalized := fun _ => inferInstanceAs (Decidable (_ ∧ _))

/-- `validate_gesture`. -/
def Valid : Gesture → Prop
  | tap x y => Normalized x ∧ Normalized y
  | longPress x y durationMs => Normalized x ∧ Normalized y ∧ 50 ≤ durationMs ∧ durationMs ≤ 3000
  | swipe fromX fromY toX toY durationMs => (Normalized fromX ∧ Normalized fromY) ∧
      (Normalized toX ∧ Normalized toY) ∧ 50 ≤ durationMs ∧ durationMs ≤ 3000
  | text value => value.length ≤ 256
  | home | back | reset => True
  | rotate orientation => orientation ∈ ["portrait", "landscape-left", "landscape-right"]
  | launch applicationId | terminate applicationId => isName applicationId
  | pointer _ pointerId x y => (0 ≤ pointerId ∧ pointerId ≤ 4) ∧ Normalized x ∧ Normalized y

instance : DecidablePred Valid
  | tap .. | longPress .. | swipe .. | pointer .. => inferInstanceAs (Decidable (_ ∧ _))
  | text _ => inferInstanceAs (Decidable (_ ≤ _))
  | home | back | reset => inferInstanceAs (Decidable True)
  | rotate _ => inferInstanceAs (Decidable (_ ∈ _))
  | launch _ | terminate _ => inferInstanceAs (Decidable (isName _))

/-- A session-wide fence, which needs no frame. -/
def Cancels : Gesture → Prop
  | pointer .cancel .. => True
  | _ => False

instance : DecidablePred Cancels := fun gesture => by
  unfold Cancels
  split <;> infer_instance

end Gesture

structure Pointer where
  x : Rat
  y : Rat
  geometryVersion : Int

/-- What a command does to the pointers of a provider. -/
inductive Touch
  | pointer (phase : PointerPhase) (pointerId geometryVersion : Int)
  | other
  deriving DecidableEq

def Gesture.touch (geometryVersion : Int) : Gesture → Touch
  | pointer phase pointerId _ _ => .pointer phase pointerId geometryVersion
  | _ => .other

/-- The pointers down after a legal touch, each with the geometry of its down. -/
def Touch.apply (down : Dict Int Int) : Touch → Option (Dict Int Int)
  | pointer .down pointerId geometryVersion =>
    if pointerId ∉ down.keys ∧ down.keys.length < 5 then some (down.set pointerId geometryVersion)
    else none
  | pointer .move pointerId geometryVersion =>
    if down.get? pointerId = some geometryVersion then some down else none
  | pointer .up pointerId geometryVersion =>
    if down.get? pointerId = some geometryVersion then some (down.erase pointerId) else none
  | pointer .cancel _ _ => some .empty
  | other => if down.keys = [] then some down else none

/-- A command on its provider; the provider has not kept to one that it rejected or that was never
confirmed. -/
structure Started where
  call : Nat
  touch : Touch
  kept : Bool
  deriving DecidableEq

/-- The pointers that a trace leaves down, when every touch of it is legal where it starts. -/
def leaves : Dict Int Int → List Started → Option (Dict Int Int)
  | down, [] => some down
  | down, started :: trace =>
    (started.touch.apply down).bind fun next => leaves (if started.kept = true then next else down) trace

end Reproof.Live.Lab
