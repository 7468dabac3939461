import Reproof.Live.Authority.Capabilities

/-! What one canonical device has on a host: the journal of an authority root, the cutover marker
and the kernel lock of its lease. -/

namespace Reproof.Live.Authority

open Library StateStore

inductive CutoverState
  | shared | rollbackBlocked | legacyAllowed
  deriving DecidableEq

structure Marker where
  state : CutoverState
  authorityRoot : String
  deriving DecidableEq

structure Site where
  store : StateStore
  marker : Option Marker
  locked : Bool

/-- One answer of the environment: a clock reading, the fate of a write, and the calls of other
owners that reach the journal first. -/
structure Answer where
  reading : Except Failure Int := .ok 0
  fate : Fate := .done
  others : List Call := []

instance : Inhabited Answer := ⟨{}⟩

section Effects

variable (δ : String)

abbrev Effect := Prog Failure Answer Site

/-- A clock reading with its uncertainty added. -/
def sample : Effect Int := do
  let w ← Prog.answer
  .ofExcept w.reading

/-- The next answer, after the calls of other owners. -/
def interfere : Effect Answer := do
  let w ← Prog.answer
  Prog.modify fun site =>
    { site with store := (w.others.filter (·.Foreign δ)).foldl apply site.store }
  return w

/-- One transaction of the journal. -/
def journal (c : Call) : Effect c.Reply := do
  let w ← interfere δ
  let site ← Prog.read
  match site.store.exec c with
  | .error message => .raise (.contract message)
  | .ok (reply, store) =>
    Prog.write (fun site : Site => { site with store }) (.contract operationFailed) w.fate
    return reply

/-- A query of the journal. -/
def query {α : Type} (f : StateStore → α) : Effect α := do
  let w ← interfere δ
  let site ← Prog.read
  ensure (w.fate = .done) operationFailed
  return f site.store

/-- `Lease.mark_authority`. -/
def markAuthority (state : CutoverState) (authorityRoot : String) : Effect Unit := do
  let w ← Prog.answer
  Prog.write (fun site => { site with marker := some { state, authorityRoot } }) .other w.fate

/-- `Lease._check_cutover`. -/
def checkCutover (authorityRoot : Option String) : Effect Unit := do
  let site ← Prog.read
  match site.marker with
  | none => return ()
  | some marker =>
    if marker.state = .legacyAllowed then return ()
    else
      let root ← present authorityRoot "Legacy controller cutover is blocked"
      ensure (marker.authorityRoot = root) "Canonical authority root mismatch"

/-- `Lease.__exit__`. -/
def Lease.exit : Effect Unit := Prog.modify fun site => { site with locked := false }

/-- `Lease.__enter__`; a failed system call leaves the lock to the process that holds it. -/
def Lease.enter (authorityRoot : Option String) : Effect Unit := do
  let w ← Prog.answer
  match w.fate with
  | .crashed _ => .crash
  | .failed _ => .raise .other
  | .done =>
    let site ← Prog.read
    ensure (site.locked = false) "Device is already leased"
    Prog.modify fun site => { site with locked := true }
    (checkCutover authorityRoot).rescue fun e => do
      Lease.exit
      .raise e

end Effects

end Reproof.Live.Authority
