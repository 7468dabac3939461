import Reproof.Live.Lab.Once
import Reproof.Live.Lab.Pending

/-! The pointer commands of a session: which may be in flight together, and what they leave down. -/

namespace Reproof.Live.Lab.Inputs

open Contracts Library

/-- Two calls in flight together that leave the pointers as they would one after the other, in either
order; an `up` already on its provider may be overtaken by a cancel. -/
def Call.Apart (a b : Call) : Prop :=
  a.work.touch.Apart b.work.touch ∨ (a.started = true ∧ a.work.touch.Lifts) ∧ b.work.touch.Cancels ∨
    a.work.touch.Cancels ∧ b.started = true ∧ b.work.touch.Lifts

instance : DecidableRel Call.Apart := fun _ _ => inferInstanceAs (Decidable (_ ∨ _))

theorem Call.Apart.symm {a b : Call} (apart : a.Apart b) : b.Apart a := by
  obtain apart | ⟨lifts, cancels⟩ | ⟨cancels, lifts⟩ := apart
  · exact .inl apart.symm
  · exact .inr (.inr ⟨cancels, lifts⟩)
  · exact .inr (.inl ⟨lifts, cancels⟩)

theorem Call.Apart.begin {a : Call} {work : Work} (apart : a.Apart ⟨work, false⟩) :
    a.Apart ⟨work, true⟩ := by
  obtain apart | lifts | ⟨-, started, -⟩ := apart
  · exact .inl apart
  · exact .inr (.inl lifts)
  · cases started

theorem Call.Apart.fits {a : Call} {work : Work} {down : Int → Option Int} (apart : a.Apart ⟨work, false⟩)
    (fits : work.touch.Fits down) : work.touch.Fits (a.work.touch.effect down) := by
  obtain apart | ⟨-, cancels⟩ | ⟨-, started, -⟩ := apart
  · exact apart.fits fits
  · match touch : work.touch, cancels with
    | .pointer .cancel _ _, _ => trivial
  · cases started

theorem Call.Apart.fits_moves {a b : Call} {down : Int → Option Int} (apart : a.Apart b)
    (moves : b.work.touch.Moves) (fits : b.work.touch.Fits down) :
    b.work.touch.Fits (a.work.touch.effect down) := by
  obtain apart | ⟨-, cancels⟩ | ⟨-, -, lifts⟩ := apart
  · exact apart.fits fits
  · match touch : b.work.touch, cancels with
    | .pointer .cancel _ _, _ => trivial
  · match touch : b.work.touch, moves, lifts with
    | .pointer .up _ _, moves, _ => cases moves

theorem Call.Apart.effect_comm {a b : Call} {down : Int → Option Int} (apart : a.Apart b) :
    b.work.touch.effect (a.work.touch.effect down) = a.work.touch.effect (b.work.touch.effect down) := by
  obtain apart | ⟨⟨-, lifts⟩, cancels⟩ | ⟨cancels, -, lifts⟩ := apart
  · exact apart.effect_comm
  · exact lifts.effect_comm cancels
  · exact (lifts.effect_comm cancels).symm

namespace Session

variable {φ : Type} {digest : Command → φ} {s t : Session φ}

/-- The pointers that a session takes to be down, each with the geometry of its down. -/
def down (s : Session φ) (pointerId : Int) : Option Int :=
  (s.activePointers.get? pointerId).map (·.geometryVersion)

/-- The pointers of the `down`s in flight. -/
def downs (s : Session φ) : List Int :=
  s.calls.values.filterMap fun call => match call.work.touch with
    | .pointer .down pointerId _ => some pointerId
    | _ => none

/-- The calls on their providers, in the order of their starts, whose work the session has not taken in
yet; the trace is legal whichever of them their providers keep to. -/
structure Traced (s : Session φ) (pending : List (Nat × Touch)) : Prop where
  started : ∀ x ∈ pending, ∃ work, s.calls.get? x.1 = some ⟨work, true⟩ ∧ work.touch = x.2
  nodup : (pending.map Prod.fst).Nodup
  all : (∀ id work, s.calls.get? id = some ⟨work, true⟩ → (id, work.touch) ∈ pending) ∨
    ¬ s.Awake ∧ ∀ p, s.down p = none
  legal : ∀ keep : Nat → Bool, (∀ id, id ∉ s.calls.keys → keep id = true) →
    ∃ held, leaves .empty (s.trace.map (Started.given keep)) = some held ∧
      held.get? = Touch.overlay s.down ((pending.filter fun x => keep x.1).map Prod.snd)

structure Lawful (s : Session φ) : Prop where
  fresh : ∀ id ∈ s.calls.keys, id < s.next
  past : ∀ started ∈ s.trace, started.call < s.next
  apart : ∀ id id' a b, id ≠ id' → s.calls.get? id = some a → s.calls.get? id' = some b → a.Apart b
  fits : ∀ id work, s.calls.get? id = some ⟨work, false⟩ → work.touch.Fits s.down
  moves : s.Awake → ∀ id a, s.calls.get? id = some a → a.work.touch.Moves → a.work.touch.Fits s.down
  room : ∃ slots : List Int, slots.length ≤ 5 ∧ (∀ p, s.down p ≠ none → p ∈ slots) ∧
    ∀ id a p g, s.calls.get? id = some a → a.work.touch = .pointer .down p g → p ∈ slots
  traced : ∃ pending, s.Traced pending

theorem create_lawful {pointerCapable : Bool} {actions : List String} {clientId : String} :
    (create pointerCapable actions clientId : Session φ).Lawful where
  fresh _ mem := absurd mem List.not_mem_nil
  past _ mem := absurd mem List.not_mem_nil
  apart _ _ _ _ _ found := nomatch found
  fits _ _ found := nomatch found
  moves _ _ _ found := nomatch found
  room := ⟨[], Nat.zero_le _, fun _ held => absurd rfl held, fun _ _ _ _ found => nomatch found⟩
  traced := ⟨[], {
    started := fun _ mem => absurd mem List.not_mem_nil
    nodup := .nil
    all := .inl fun _ _ found => nomatch found
    legal := fun _ _ => ⟨.empty, rfl, rfl⟩ }⟩

/-- Neither the calls nor the pointers have changed. -/
theorem Lawful.turn (lawful : s.Lawful) (calls : t.calls = s.calls) (trace : t.trace = s.trace)
    (pointers : t.activePointers = s.activePointers) (next : t.next = s.next)
    (awake : t.Awake → s.Awake) : t.Lawful := by
  have down : t.down = s.down := by
    unfold Session.down
    rw [pointers]
  obtain ⟨pending, traced⟩ := lawful.traced
  exact {
    fresh := by
      rw [calls, next]
      exact lawful.fresh
    past := by
      rw [trace, next]
      exact lawful.past
    apart := by
      rw [calls]
      exact lawful.apart
    fits := by
      rw [calls, down]
      exact lawful.fits
    moves := by
      rw [calls, down]
      exact fun h => lawful.moves (awake h)
    room := by
      rw [calls, down]
      exact lawful.room
    traced := ⟨pending, {
      started := by
        rw [calls]
        exact traced.started
      nodup := traced.nodup
      all := by
        rw [calls, down]
        exact traced.all.imp_right fun closed => ⟨fun h => closed.1 (awake h), closed.2⟩
      legal := by
        rw [calls, trace, down]
        exact traced.legal }⟩ }

/-- A call may go to its provider: it keeps apart from those in flight, and there is room for its
pointer. -/
def Clear (s : Session φ) (work : Work) : Prop :=
  (∀ call ∈ s.calls.values, call.Apart ⟨work, false⟩) ∧
    match work.touch with
    | .pointer .down _ _ => s.activePointers.keys.length + s.downs.length < 5
    | _ => True

instance (s : Session φ) (work : Work) : Decidable (s.Clear work) := by
  unfold Clear
  split <;> infer_instance

theorem mem_downs {p : Int} :
    p ∈ s.downs ↔ ∃ id a g, s.calls.get? id = some a ∧ a.work.touch = .pointer .down p g := by
  unfold downs
  simp only [List.mem_filterMap, Dict.mem_values]
  constructor
  · rintro ⟨a, ⟨id, found⟩, same⟩
    split at same
    · rename_i touch
      cases same
      exact ⟨id, a, _, found, touch⟩
    · cases same
  · rintro ⟨id, a, g, found, touch⟩
    exact ⟨a, ⟨id, found⟩, by rw [touch]⟩

theorem down_ne_none {p : Int} : s.down p ≠ none ↔ p ∈ s.activePointers.keys := by
  unfold Session.down
  rw [ne_eq, Option.map_eq_none_iff, Dict.get?_eq_none, not_not]

/-- What is given about other calls does not matter to a trace. -/
theorem given_congr {trace : List Started} {keep keep' : Nat → Bool}
    (same : ∀ started ∈ trace, keep started.call = keep' started.call) :
    trace.map (Started.given keep) = trace.map (Started.given keep') := by
  apply List.map_congr_left
  intro started mem
  rw [Started.given, Started.given, same started mem]

theorem Traced.known {pending : List (Nat × Touch)} (traced : s.Traced pending) {x : Nat × Touch}
    (mem : x ∈ pending) : x.1 ∈ s.calls.keys := by
  obtain ⟨work, found, -⟩ := traced.started x mem
  exact Dict.mem_keys.mpr ⟨_, found⟩

theorem Lawful.dispatch (lawful : s.Lawful) {work : Work} (clear : s.Clear work)
    (fits : work.touch.Fits s.down) : (s.dispatch work).Lawful := by
  have new : s.next ∉ s.calls.keys := fun mem => Nat.lt_irrefl _ (lawful.fresh _ mem)
  have spared : ∀ id a, s.calls.get? id = some a → a.Apart ⟨work, false⟩ := fun id a found =>
    clear.1 a (Dict.mem_values.mpr ⟨id, found⟩)
  obtain ⟨pending, traced⟩ := lawful.traced
  exact {
    fresh := fun id mem => by
      obtain rfl | old := Dict.mem_keys_set.mp mem
      · exact Nat.lt_succ_self _
      · exact Nat.lt_succ_of_lt (lawful.fresh id old)
    past := fun started mem => Nat.lt_succ_of_lt (lawful.past started mem)
    apart := fun id id' a b distinct found found' => by
      obtain ⟨rfl, rfl⟩ | ⟨-, old⟩ := Dict.get?_set_some found
      · obtain ⟨rfl, -⟩ | ⟨-, old'⟩ := Dict.get?_set_some found'
        · exact absurd rfl distinct
        · exact (spared id' b old').symm
      · obtain ⟨-, rfl⟩ | ⟨-, old'⟩ := Dict.get?_set_some found'
        · exact spared id a old
        · exact lawful.apart id id' a b distinct old old'
    fits := fun id work' found => by
      obtain ⟨-, same⟩ | ⟨-, old⟩ := Dict.get?_set_some found
      · cases same
        exact fits
      · exact lawful.fits id work' old
    moves := fun awake id a found moving => by
      obtain ⟨-, rfl⟩ | ⟨-, old⟩ := Dict.get?_set_some found
      · exact fits
      · exact lawful.moves awake id a old moving
    room := by
      obtain ⟨slots, few, held, going⟩ := lawful.room
      cases touch : work.touch with
      | other =>
        refine ⟨slots, few, held, fun id a p g found isDown => ?_⟩
        obtain ⟨-, rfl⟩ | ⟨-, old⟩ := Dict.get?_set_some found
        · rw [touch] at isDown
          cases isDown
        · exact going id a p g old isDown
      | pointer phase q g =>
        by_cases isDown : phase = .down
        · subst isDown
          have room : s.activePointers.keys.length + s.downs.length < 5 := by
            have room := clear.2
            rw [touch] at room
            exact room
          refine ⟨q :: (s.activePointers.keys ++ s.downs), ?_, fun p held => ?_, fun id a p g found isDown => ?_⟩
          · rw [List.length_cons, List.length_append]
            exact room
          · exact List.mem_cons_of_mem _ (List.mem_append_left _ (down_ne_none.mp held))
          · obtain ⟨-, rfl⟩ | ⟨-, old⟩ := Dict.get?_set_some found
            · rw [touch] at isDown
              cases isDown
              exact List.mem_cons_self
            · exact List.mem_cons_of_mem _ (List.mem_append_right _ (mem_downs.mpr ⟨id, a, g, old, isDown⟩))
        · refine ⟨slots, few, held, fun id a p g found same => ?_⟩
          obtain ⟨-, rfl⟩ | ⟨-, old⟩ := Dict.get?_set_some found
          · rw [touch] at same
            cases same
            exact absurd rfl isDown
          · exact going id a p g old same
    traced := ⟨pending, {
      started := fun x mem => by
        obtain ⟨work', found, touch⟩ := traced.started x mem
        refine ⟨work', ?_, touch⟩
        rw [Session.dispatch, Dict.get?_set, if_neg, found]
        rintro same
        exact new (same ▸ Dict.mem_keys.mpr ⟨_, found⟩)
      nodup := traced.nodup
      all := traced.all.imp_left fun all id work' found => by
        obtain ⟨-, same⟩ | ⟨-, old⟩ := Dict.get?_set_some found
        · cases same
        · exact all id work' old
      legal := fun keep given => by
        obtain ⟨held, legal, same⟩ := traced.legal (Function.update keep s.next true) fun id absent => by
          by_cases at_next : id = s.next
          · rw [at_next, Function.update_self]
          · rw [Function.update_of_ne at_next]
            exact given id fun mem => (Dict.mem_keys_set.mp mem).elim at_next absent
        have past : s.trace.map (Started.given (Function.update keep s.next true)) =
            s.trace.map (Started.given keep) := given_congr fun started mem =>
          Function.update_of_ne (Nat.ne_of_lt (lawful.past started mem)) ..
        have kept : (pending.filter fun x => Function.update keep s.next true x.1) =
            pending.filter fun x => keep x.1 := List.filter_congr fun x mem =>
          Function.update_of_ne (Nat.ne_of_lt (lawful.fresh _ (traced.known mem))) ..
        rw [past] at legal
        rw [kept] at same
        exact ⟨held, legal, same⟩ }⟩ }

/-- A touch in flight is legal whatever its provider keeps to of the others. -/
theorem Lawful.start (lawful : s.Lawful) (call : Nat) : (s.start call).Lawful := by
  unfold Session.start
  split
  · rename_i work found
    obtain ⟨pending, traced⟩ := lawful.traced
    have old : ∀ id a, (s.calls.set call ⟨work, true⟩).get? id = some a →
        id = call ∧ a = ⟨work, true⟩ ∨ id ≠ call ∧ s.calls.get? id = some a :=
      fun id a set => Dict.get?_set_some set
    have keys : ∀ id, id ∈ (s.calls.set call ⟨work, true⟩).keys ↔ id ∈ s.calls.keys := fun id => by
      rw [Dict.mem_keys_set, or_iff_right_of_imp]
      rintro rfl
      exact Dict.mem_keys.mpr ⟨_, found⟩
    have other : ∀ x ∈ pending, x.1 ≠ call := fun x mem same => by
      obtain ⟨work', found', -⟩ := traced.started x mem
      rw [same, found] at found'
      cases found'
    have spared : ∀ u ∈ pending.map Prod.snd, ∀ down, work.touch.Fits down →
        work.touch.Fits (u.effect down) := fun u mem down fits => by
      obtain ⟨x, listed, rfl⟩ := List.mem_map.mp mem
      obtain ⟨work', found', touch⟩ := traced.started x listed
      rw [← touch]
      exact (lawful.apart _ _ _ _ (other x listed) found' found).fits fits
    exact {
      fresh := fun id mem => lawful.fresh id ((keys id).mp mem)
      past := fun started mem => by
        obtain old | new := List.mem_append.mp mem
        · exact lawful.past started old
        · rw [List.mem_singleton.mp new]
          exact lawful.fresh call (Dict.mem_keys.mpr ⟨_, found⟩)
      apart := fun id id' a b distinct set set' => by
        obtain ⟨rfl, rfl⟩ | ⟨-, at_id⟩ := old id a set
        · obtain ⟨rfl, -⟩ | ⟨-, at_id'⟩ := old id' b set'
          · exact absurd rfl distinct
          · exact (lawful.apart _ _ _ _ distinct.symm at_id' found).begin.symm
        · obtain ⟨rfl, rfl⟩ | ⟨-, at_id'⟩ := old id' b set'
          · exact (lawful.apart _ _ _ _ distinct at_id found).begin
          · exact lawful.apart id id' a b distinct at_id at_id'
      fits := fun id work' set => by
        obtain ⟨-, same⟩ | ⟨-, at_id⟩ := old id _ set
        · cases same
        · exact lawful.fits id work' at_id
      moves := fun awake id a set moving => by
        obtain ⟨-, rfl⟩ | ⟨-, at_id⟩ := old id a set
        · exact lawful.fits call work found
        · exact lawful.moves awake id a at_id moving
      room := by
        obtain ⟨slots, few, held, going⟩ := lawful.room
        refine ⟨slots, few, held, fun id a p g set isDown => ?_⟩
        obtain ⟨-, rfl⟩ | ⟨-, at_id⟩ := old id a set
        · exact going call _ p g found isDown
        · exact going id a p g at_id isDown
      traced := ⟨pending ++ [(call, work.touch)], {
        started := fun x mem => by
          obtain mem | mem := List.mem_append.mp mem
          · obtain ⟨work', found', touch⟩ := traced.started x mem
            exact ⟨work', by rw [Dict.get?_set, if_neg (other x mem), found'], touch⟩
          · rw [List.mem_singleton.mp mem]
            exact ⟨work, Dict.get?_set_self, rfl⟩
        nodup := by
          rw [List.map_append]
          refine List.Nodup.append traced.nodup (List.nodup_singleton _) fun id mem mem' => ?_
          obtain ⟨x, listed, rfl⟩ := List.mem_map.mp mem
          exact other x listed (List.mem_singleton.mp mem')
        all := traced.all.imp_left fun all id work' set => by
          obtain ⟨rfl, same⟩ | ⟨-, at_id⟩ := old id _ set
          · cases same
            exact List.mem_append_right _ (List.mem_singleton_self _)
          · exact List.mem_append_left _ (all id work' at_id)
        legal := fun keep given => by
          obtain ⟨held, legal, same⟩ := traced.legal keep fun id absent =>
            given id fun mem => absent ((keys id).mp mem)
          have kept : ∀ u ∈ (pending.filter fun x => keep x.1).map Prod.snd, u ∈ pending.map Prod.snd := by
            intro u mem
            obtain ⟨x, listed, rfl⟩ := List.mem_map.mp mem
            exact List.mem_map_of_mem (List.mem_filter.mp listed).1
          have fits : work.touch.Fits held.get? := by
            rw [same]
            exact Touch.overlay_fits (lawful.fits call work found) fun u mem => spared u (kept u mem)
          have room : ∀ p g, work.touch = .pointer .down p g → held.keys.length < 5 := by
            intro p g isDown
            obtain ⟨slots, few, down, going⟩ := lawful.room
            have apart : p ∉ held.keys := by
              rw [isDown] at fits
              exact Dict.get?_eq_none.mp fits
            have inside : p :: held.keys ⊆ slots := by
              intro q mem
              obtain rfl | mem := List.mem_cons.mp mem
              · exact going call _ q g found isDown
              · have is_held : Touch.overlay s.down ((pending.filter fun x => keep x.1).map Prod.snd) q ≠ none := by
                  rw [← same, ne_eq, Dict.get?_eq_none, not_not]
                  exact mem
                obtain is_down | ⟨g', mem⟩ := Touch.overlay_down is_held
                · exact down q is_down
                · obtain ⟨x, mem, touch⟩ := List.mem_map.mp (kept _ mem)
                  obtain ⟨work', found', touch'⟩ := traced.started x mem
                  exact going x.1 _ q g' found' (touch'.trans touch)
            have few' := (List.subperm_of_subset (List.nodup_cons.mpr ⟨apart, held.nodup⟩) inside).length_le
            rw [List.length_cons] at few'
            omega
          obtain ⟨next, applied, effect⟩ := fits.apply room
          rw [List.map_append, leaves_append, legal, Option.bind_some, List.filter_append, List.map_append,
            Touch.overlay_append]
          change ∃ held', (work.touch.apply held).bind _ = some held' ∧ _ = Touch.overlay (Touch.overlay s.down _) _
          rw [applied, ← same]
          cases kept : keep call with
          | true =>
            refine ⟨next, by simp [leaves, Started.given, kept], ?_⟩
            rw [effect]
            simp [Touch.overlay, kept]
          | false =>
            refine ⟨held, by simp [leaves, Started.given, kept], ?_⟩
            simp [Touch.overlay, kept] }⟩ }
  · exact lawful

/-- The work of a pending call may be taken in before that of the others. -/
theorem Traced.take {pending : List (Nat × Touch)} (traced : s.Traced pending) {call : Nat} {work : Work}
    (found : s.calls.get? call = some ⟨work, true⟩)
    (apart : ∀ id id' a b, id ≠ id' → s.calls.get? id = some a → s.calls.get? id' = some b → a.Apart b)
    (mem : (call, work.touch) ∈ pending) {keep : Nat → Bool} (kept : keep call = true) :
    Touch.overlay s.down ((pending.filter fun x => keep x.1).map Prod.snd) =
      Touch.overlay (work.touch.effect s.down)
        (((pending.filter fun x => x.1 ≠ call).filter fun x => keep x.1).map Prod.snd) := by
  obtain ⟨before, after, rfl⟩ := List.append_of_mem mem
  have nodup := traced.nodup
  rw [List.map_append, List.map_cons, List.nodup_append, List.nodup_cons] at nodup
  have earlier : ∀ x ∈ before, x.1 ≠ call := fun x listed =>
    nodup.2.2 x.1 (List.mem_map_of_mem listed) call List.mem_cons_self
  have later : ∀ x ∈ after, x.1 ≠ call := fun x listed same =>
    nodup.2.1.1 (List.mem_map.mpr ⟨x, listed, same⟩)
  have others : (before ++ (call, work.touch) :: after).filter (fun x => x.1 ≠ call) = before ++ after := by
    rw [List.filter_append, List.filter_cons_of_neg (by simp),
      List.filter_eq_self.mpr fun x listed => decide_eq_true (earlier x listed),
      List.filter_eq_self.mpr fun x listed => decide_eq_true (later x listed)]
  rw [others, List.filter_append, List.filter_append, List.filter_cons_of_pos (p := fun x : Nat × Touch => keep x.1) kept, List.map_append,
    List.map_append, List.map_cons]
  refine Touch.overlay_comm fun u listed down => ?_
  obtain ⟨x, kept, rfl⟩ := List.mem_map.mp listed
  have among := (List.mem_filter.mp kept).1
  obtain ⟨work', found', touch⟩ := traced.started x (List.mem_append_left _ among)
  rw [← touch]
  exact (apart _ _ _ _ (earlier x among) found' found).effect_comm

/-- The session takes in the work that a provider has kept to. -/
theorem Lawful.kept (lawful : s.Lawful) {call : Nat} {work : Work}
    (found : s.calls.get? call = some ⟨work, true⟩) (calls : t.calls = s.calls.erase call)
    (trace : t.trace = s.trace) (down : t.down = work.touch.effect s.down) (next : t.next = s.next)
    (awake : t.Awake → s.Awake) (still : s.Awake ∨ work.touch.Cancels) : t.Lawful := by
  obtain ⟨pending, traced⟩ := lawful.traced
  have old : ∀ id a, t.calls.get? id = some a → id ≠ call ∧ s.calls.get? id = some a := by
    intro id a at_id
    rw [calls, Dict.get?_erase] at at_id
    split at at_id
    · cases at_id
    · rename_i other
      exact ⟨other, at_id⟩
  have lifted : ∀ p, t.down p ≠ none → s.down p ≠ none ∨ ∃ g, work.touch = .pointer .down p g := by
    intro p held
    rw [down] at held
    change Touch.overlay s.down [work.touch] p ≠ none at held
    obtain held | ⟨g, mem⟩ := Touch.overlay_down held
    · exact .inl held
    · exact .inr ⟨g, (List.mem_singleton.mp mem).symm⟩
  exact {
    fresh := fun id mem => by
      obtain ⟨a, at_id⟩ := Dict.mem_keys.mp mem
      rw [next]
      exact lawful.fresh id (Dict.mem_keys.mpr ⟨a, (old id a at_id).2⟩)
    past := by
      rw [trace, next]
      exact lawful.past
    apart := fun id id' a b distinct at_id at_id' =>
      lawful.apart id id' a b distinct (old id a at_id).2 (old id' b at_id').2
    fits := fun id work' at_id => by
      obtain ⟨other, at_id⟩ := old id _ at_id
      rw [down]
      exact (lawful.apart call id _ _ other.symm found at_id).fits (lawful.fits id work' at_id)
    moves := fun h id a at_id moving => by
      obtain ⟨other, at_id⟩ := old id a at_id
      rw [down]
      exact (lawful.apart call id _ _ other.symm found at_id).fits_moves moving
        (lawful.moves (awake h) id a at_id moving)
    room := by
      obtain ⟨slots, few, held, going⟩ := lawful.room
      refine ⟨slots, few, fun p is_down => ?_, fun id a p g at_id => going id a p g (old id a at_id).2⟩
      obtain is_down | ⟨g, touch⟩ := lifted p is_down
      · exact held p is_down
      · exact going call _ p g found touch
    traced := ⟨pending.filter fun x => x.1 ≠ call, {
      started := fun x mem => by
        obtain ⟨mem, other⟩ := List.mem_filter.mp mem
        obtain ⟨work', found', touch⟩ := traced.started x mem
        exact ⟨work', by rw [calls, Dict.get?_erase, if_neg (of_decide_eq_true other), found'], touch⟩
      nodup := traced.nodup.sublist (List.filter_sublist.map _)
      all := by
        obtain all | ⟨closed, none⟩ := traced.all
        · refine .inl fun id work' at_id => ?_
          obtain ⟨other, at_id⟩ := old id _ at_id
          exact List.mem_filter.mpr ⟨all id work' at_id, decide_eq_true other⟩
        · refine .inr ⟨fun h => closed (awake h), fun p => ?_⟩
          obtain h | cancels := still
          · exact absurd h closed
          · rw [down]
            exact cancels.effect
      legal := fun keep given => by
        have kept : keep call = true := given call fun mem => by
          obtain ⟨a, at_call⟩ := Dict.mem_keys.mp mem
          exact (old call a at_call).1 rfl
        obtain ⟨held, legal, same⟩ := traced.legal keep fun id absent => given id fun mem => absent (by
          obtain ⟨a, at_id⟩ := Dict.mem_keys.mp mem
          exact Dict.mem_keys.mpr ⟨a, (old id a at_id).2⟩)
        refine ⟨held, by rw [trace, legal], ?_⟩
        rw [same, down]
        by_cases mem : (call, work.touch) ∈ pending
        · exact traced.take found lawful.apart mem kept
        · have other : ∀ x ∈ pending, x.1 ≠ call := fun x listed same => by
            obtain ⟨work', found', touch⟩ := traced.started x listed
            rw [same, found] at found'
            cases found'
            exact mem (by rwa [← same, touch])
          obtain all | ⟨closed, none⟩ := traced.all
          · exact absurd (all call work found) mem
          · have idle : work.touch.effect s.down = s.down := by
              obtain h | cancels := still
              · exact absurd h closed
              · funext p
                rw [cancels.effect, none p]
            rw [idle, List.filter_eq_self.mpr fun x listed => decide_eq_true (other x listed)] }⟩ }

/-- A call leaves whose work its provider has not kept to. -/
theorem Lawful.dropped (lawful : s.Lawful) {call : Nat} (known : call ∈ s.calls.keys)
    (calls : t.calls = s.calls.erase call)
    (trace : t.trace = (s.drop call).trace) (pointers : t.activePointers = s.activePointers)
    (next : t.next = s.next) (awake : t.Awake → s.Awake) : t.Lawful := by
  obtain ⟨pending, traced⟩ := lawful.traced
  have down : t.down = s.down := by
    unfold Session.down
    rw [pointers]
  have old : ∀ id a, t.calls.get? id = some a → id ≠ call ∧ s.calls.get? id = some a := by
    intro id a at_id
    rw [calls, Dict.get?_erase] at at_id
    split at at_id
    · cases at_id
    · rename_i other
      exact ⟨other, at_id⟩
  have given_drop : ∀ keep, t.trace.map (Started.given keep) =
      s.trace.map (Started.given (Function.update keep call false)) := by
    intro keep
    rw [trace, Session.drop, List.map_map]
    apply List.map_congr_left
    intro started _
    by_cases same : started.call = call <;> simp [Started.given, same, Function.update_of_ne]
  exact {
    fresh := fun id mem => by
      obtain ⟨a, at_id⟩ := Dict.mem_keys.mp mem
      rw [next]
      exact lawful.fresh id (Dict.mem_keys.mpr ⟨a, (old id a at_id).2⟩)
    past := fun started mem => by
      rw [trace] at mem
      obtain ⟨started', mem', rfl⟩ := List.mem_map.mp mem
      rw [next]
      have past := lawful.past started' mem'
      split
      · exact past
      · exact past
    apart := fun id id' a b distinct at_id at_id' =>
      lawful.apart id id' a b distinct (old id a at_id).2 (old id' b at_id').2
    fits := fun id work at_id => by
      rw [down]
      exact lawful.fits id work (old id _ at_id).2
    moves := fun h id a at_id moving => by
      rw [down]
      exact lawful.moves (awake h) id a (old id a at_id).2 moving
    room := by
      obtain ⟨slots, few, held, going⟩ := lawful.room
      rw [down]
      exact ⟨slots, few, held, fun id a p g at_id => going id a p g (old id a at_id).2⟩
    traced := ⟨pending.filter fun x => x.1 ≠ call, {
      started := fun x mem => by
        obtain ⟨mem, other⟩ := List.mem_filter.mp mem
        obtain ⟨work', found', touch⟩ := traced.started x mem
        exact ⟨work', by rw [calls, Dict.get?_erase, if_neg (of_decide_eq_true other), found'], touch⟩
      nodup := traced.nodup.sublist (List.filter_sublist.map _)
      all := by
        rw [down]
        obtain all | ⟨closed, none⟩ := traced.all
        · refine .inl fun id work' at_id => ?_
          obtain ⟨other, at_id⟩ := old id _ at_id
          exact List.mem_filter.mpr ⟨all id work' at_id, decide_eq_true other⟩
        · exact .inr ⟨fun h => closed (awake h), none⟩
      legal := fun keep given => by
        obtain ⟨held, legal, same⟩ := traced.legal (Function.update keep call false) fun id absent => by
          have other : id ≠ call := by
            rintro rfl
            exact absent known
          rw [Function.update_of_ne other]
          exact given id fun mem => absent (by
            obtain ⟨a, at_id⟩ := Dict.mem_keys.mp mem
            exact Dict.mem_keys.mpr ⟨a, (old id a at_id).2⟩)
        refine ⟨held, by rw [given_drop, legal], ?_⟩
        rw [same, down, List.filter_filter]
        congr 2
        apply List.filter_congr
        intro x _
        by_cases same : x.1 = call <;> simp [same, Function.update_of_ne] }⟩ }

/-- The provider is closed: its pointers are up, whatever calls are still on it. -/
theorem Lawful.closed (lawful : s.Lawful)
    (idle : ∀ id work, s.calls.get? id = some ⟨work, false⟩ → work.touch.Fits fun _ => none)
    (calls : t.calls = s.calls) (trace : t.trace = s.trace ++ [⟨s.next, .pointer .cancel 0 0, true⟩])
    (down : ∀ p, t.down p = none) (next : t.next = s.next + 1) (asleep : ¬ t.Awake) : t.Lawful := by
  obtain ⟨pending, traced⟩ := lawful.traced
  have none : t.down = fun _ => none := funext down
  exact {
    fresh := fun id mem => by
      rw [calls] at mem
      rw [next]
      exact Nat.lt_succ_of_lt (lawful.fresh id mem)
    past := fun started mem => by
      rw [trace] at mem
      rw [next]
      obtain old | new := List.mem_append.mp mem
      · exact Nat.lt_succ_of_lt (lawful.past started old)
      · rw [List.mem_singleton.mp new]
        exact Nat.lt_succ_self _
    apart := by
      rw [calls]
      exact lawful.apart
    fits := fun id work at_id => by
      rw [calls] at at_id
      rw [none]
      exact idle id work at_id
    moves := fun h => absurd h asleep
    room := by
      obtain ⟨slots, few, -, going⟩ := lawful.room
      rw [calls]
      exact ⟨slots, few, fun p held => absurd (down p) held, going⟩
    traced := ⟨[], {
      started := fun _ mem => absurd mem List.not_mem_nil
      nodup := .nil
      all := .inr ⟨asleep, down⟩
      legal := fun keep given => by
        rw [calls] at given
        obtain ⟨held, legal, -⟩ := traced.legal keep given
        have kept : keep s.next = true := given s.next fun mem => Nat.lt_irrefl _ (lawful.fresh _ mem)
        refine ⟨.empty, ?_, ?_⟩
        · rw [trace, List.map_append, leaves_append, legal, Option.bind_some]
          simp [leaves, Started.given, kept, Touch.apply]
        · rw [none]
          rfl }⟩ }

theorem other_fits (up : s.activePointers.keys = []) : Touch.other.Fits s.down := fun p => by
  rw [← not_not (a := s.down p = none), ← ne_eq, down_ne_none, up]
  exact List.not_mem_nil

theorem pointerTransition_ok {phase : PointerPhase} {pointerId geometryVersion : Int}
    (h : s.pointerTransition phase pointerId geometryVersion = .ok ()) :
    (Touch.pointer phase pointerId geometryVersion).Fits s.down := by
  unfold pointerTransition at h
  cases phase with
  | down =>
    simp only [check, bind_eq_ok, require_eq_ok] at h
    obtain ⟨_, up, _⟩ := h
    exact not_not.mp fun held => up (down_ne_none.mp held)
  | move | up =>
    dsimp only at h
    split at h
    · cases h
    · rename_i pointer found
      have same := require_eq_ok.mp h
      simp only [Touch.Fits, Session.down, found, Option.map_some, same]
  | cancel => trivial

theorem checkGesture_ok {command : Command} (h : s.checkGesture command = .ok ()) :
    command.touch.Fits s.down := by
  obtain ⟨_, _, _, _, _, geometryVersion, gesture⟩ := command
  unfold checkGesture at h
  cases gesture with
  | pointer =>
    simp only [bind_eq_ok, require_eq_ok] at h
    obtain ⟨_, _, _, _, legal⟩ := h
    exact pointerTransition_ok legal
  | _ =>
    simp only [check, bind_eq_ok, require_eq_ok] at h
    obtain ⟨_, _, _, up, _⟩ := h
    exact other_fits up

theorem Lawful.input [DecidableEq φ] (lawful : s.Lawful) (admission : Admission) (journal : Journal)
    (command : Command) (clear : s.examine digest admission command = .ok none → journal = .admitted →
      s.Clear (.input command)) : (s.input digest admission journal command).2.Lawful := by
  unfold Session.input
  split
  · exact lawful
  · exact lawful
  · rename_i fresh
    obtain ⟨active, -, -, -, -, gesture, -⟩ := examine_fresh fresh
    cases journal with
    | refused => exact lawful.turn rfl rfl rfl rfl fun h => h
    | failed =>
      exact lawful.turn rfl rfl rfl rfl fun h => by
        obtain h | h := h <;> cases h
    | admitted =>
      exact (lawful.dispatch (clear fresh rfl) (checkGesture_ok gesture)).turn rfl rfl rfl rfl fun h => h

theorem touched_down {command : Command} (moves : command.touch.Moves → command.touch.Fits s.down)
    (pointers : t.activePointers = s.touched command) : t.down = command.touch.effect s.down := by
  obtain ⟨_, _, _, _, _, geometryVersion, gesture⟩ := command
  funext p
  rw [Session.down, pointers]
  cases gesture with
  | pointer phase pointerId x y =>
    cases phase with
    | down =>
      simp only [touched, applyPointerTransition, Dict.get?_set, Command.touch, Gesture.touch,
        Touch.effect, Function.update_apply]
      split <;> rfl
    | move =>
      have held : s.down pointerId = some geometryVersion := moves trivial
      simp only [touched, applyPointerTransition, Dict.get?_set, Command.touch, Gesture.touch,
        Touch.effect]
      split
      · rename_i same
        rw [same, held]
        rfl
      · rfl
    | up =>
      simp only [touched, applyPointerTransition, Dict.get?_erase, Command.touch, Gesture.touch,
        Touch.effect, Function.update_apply]
      split <;> rfl
    | cancel => rfl
  | _ => rfl

theorem Lawful.finishInput (lawful : s.Lawful) {call : Nat} {command : Command} {started : Bool}
    (found : s.calls.get? call = some ⟨.input command, started⟩) (result : Result) :
    (s.finishInput digest call command started result).2.Lawful := by
  have known : call ∈ s.calls.keys := Dict.mem_keys.mpr ⟨_, found⟩
  have failed : (({ s.leave call with
      inflightCommands := s.inflightCommands.erase command.commandId } : Session φ).failed.remember digest
        command (receiptOf command .unknown none) |>.drop call).Lawful :=
    lawful.dropped known rfl rfl rfl rfl fun h => by obtain h | h := h <;> cases h
  unfold Session.finishInput
  cases result with
  | unknown => exact failed
  | injected timing durationMs =>
    dsimp only
    split
    · rename_i admits
      obtain ⟨rfl, active, -⟩ := admits
      rw [evict_eq]
      exact lawful.kept found rfl rfl
        (touched_down (fun moves => lawful.moves (.inr active) call _ found moves) rfl) rfl (fun h => h)
        (.inl (.inr active))
    · exact failed
  | rejected code durationMs =>
    dsimp only
    split
    · rw [evict_eq]
      exact lawful.dropped known rfl rfl rfl rfl fun h => h
    · exact failed

theorem Lawful.finish [DecidableEq φ] (lawful : s.Lawful) (call : Nat) (result : Result) :
    (s.finish digest call result).Lawful := by
  unfold Session.finish
  split
  · rename_i command started found
    exact (lawful.finishInput found result).turn rfl rfl rfl rfl fun h => h
  · rename_i started found
    have known : call ∈ s.calls.keys := Dict.mem_keys.mpr ⟨_, found⟩
    have failed : (((s.leave call).fail).drop call).Lawful := by
      unfold Session.fail
      split
      · exact lawful.dropped known rfl rfl rfl rfl fun h => h
      · exact lawful.dropped known rfl rfl rfl rfl fun h => by obtain h | h := h <;> cases h
    split
    · rename_i admits
      obtain ⟨rfl, active, -⟩ := admits
      cases result with
      | injected => exact lawful.kept found rfl rfl rfl rfl (fun h => h) (.inl (.inr active))
      | rejected => exact lawful.dropped known rfl rfl rfl rfl fun h => h
      | unknown => exact failed
    · exact failed
  · rename_i started found
    split
    · exact lawful.kept found rfl rfl rfl rfl (fun h => h) (.inr trivial)
    · exact lawful.dropped (Dict.mem_keys.mpr ⟨_, found⟩) rfl rfl rfl rfl fun h => by
        obtain h | h := h <;> cases h
  · exact lawful

/-- What may come next: a call goes to its provider only clear of those in flight, and the provider is
closed only while no `move` or `up` is on its way to it. -/
def Allows [DecidableEq φ] (digest : Command → φ) (s : Session φ) : Event → Prop
  | .input admission journal command => s.examine digest admission command = .ok none →
      journal = .admitted → s.Clear (.input command)
  | .reset admitted => s.activePointers.keys = [] → admitted = true → s.Clear .reset
  | .cancelActivePointers admitted => s.activePointers.keys ≠ [] → admitted = true → s.Clear .cancel
  | .close cleaned => s.closing ≠ 0 → cleaned = true → ∀ call ∈ s.calls.values, call.started = false →
      ¬ (call.work.touch.Moves ∨ call.work.touch.Lifts)
  | _ => True

instance [DecidableEq φ] (s : Session φ) : DecidablePred (s.Allows digest)
  | .input .. | .reset _ | .cancelActivePointers _ | .close _ => inferInstanceAs (Decidable (_ → _))
  | .start _ | .finish .. | .claim .. | .startRun .. | .endRun .. | .pointerTimeout | .fail | .stop | .drain
  | .halt | .publishFrame .. => instDecidableTrue

/-- Every step of a run is allowed where it is taken. -/
def Orderly [DecidableEq φ] (digest : Command → φ) : Session φ → List Event → Prop
  | _, [] => True
  | s, event :: events => s.Allows digest event ∧ (s.apply digest event).Orderly digest events

instance [DecidableEq φ] : ∀ (s : Session φ) events, Decidable (s.Orderly digest events)
  | _, [] => inferInstanceAs (Decidable True)
  | s, event :: events =>
    have := instDecidableOrderly (s.apply digest event) events
    inferInstanceAs (Decidable (_ ∧ _))

theorem Lawful.apply [DecidableEq φ] (lawful : s.Lawful) {event : Event} (allowed : s.Allows digest event) :
    (s.apply digest event).Lawful := by
  cases event with
  | input admission journal command => exact lawful.input admission journal command allowed
  | start call => exact lawful.start call
  | finish call result => exact lawful.finish call result
  | reset admitted =>
    dsimp only [Session.apply, Session.reset]
    split
    · rename_i going
      exact lawful.dispatch (allowed going.1 going.2) (other_fits going.1)
    · exact lawful
  | cancelActivePointers admitted =>
    dsimp only [Session.apply, Session.cancelActivePointers]
    split
    · rename_i going
      exact lawful.dispatch (allowed going.1 going.2) trivial
    · exact lawful
  | claim =>
    dsimp only [Session.apply, Session.claim]
    split
    · exact lawful.turn rfl rfl rfl rfl fun h => h
    · exact lawful
  | startRun =>
    dsimp only [Session.apply, Session.startRun]
    split
    · exact lawful
    · exact lawful.turn rfl rfl rfl rfl fun h => h
  | endRun =>
    dsimp only [Session.apply, Session.endRun]
    split
    · exact lawful.turn rfl rfl rfl rfl fun h => h
    · exact lawful
  | pointerTimeout => exact lawful.turn rfl rfl rfl rfl fun h => h
  | fail =>
    dsimp only [Session.apply, Session.fail]
    split
    · exact lawful
    · exact lawful.turn rfl rfl rfl rfl fun h => by obtain h | h := h <;> cases h
  | stop => exact lawful.turn rfl rfl rfl rfl fun h => h
  | drain =>
    dsimp only [Session.apply, Session.drain]
    split
    · exact lawful.turn rfl rfl rfl rfl fun h => by obtain h | h := h <;> cases h
    · exact lawful
  | close cleaned =>
    dsimp only [Session.apply, Session.close]
    split_ifs with idle cleaned
    · exact lawful
    · refine lawful.closed (fun id work at_id => ?_) rfl rfl (fun _ => rfl) rfl fun h => by
        obtain h | h := h <;> cases h
      have waiting := allowed idle cleaned ⟨work, false⟩ (Dict.mem_values.mpr ⟨id, at_id⟩) rfl
      dsimp only at waiting
      match touch : work.touch, waiting with
      | .other, _ => exact fun _ => rfl
      | .pointer .down _ _, _ => rfl
      | .pointer .cancel _ _, _ => trivial
      | .pointer .move _ _, waiting => exact absurd (.inl trivial) waiting
      | .pointer .up _ _, waiting => exact absurd (.inr trivial) waiting
    · exact lawful.turn rfl rfl rfl rfl fun h => by obtain h | h := h <;> cases h
  | halt => exact lawful.turn rfl rfl rfl rfl fun h => by obtain h | h := h <;> cases h
  | publishFrame =>
    dsimp only [Session.apply, Session.publishFrame]
    split
    · exact lawful
    · refine lawful.turn rfl rfl rfl rfl fun h => ?_
      unfold Awake at h ⊢
      dsimp only at h
      split at h
      · rename_i connecting
        exact .inl connecting
      · exact h

theorem Lawful.run [DecidableEq φ] {events : List Event} (lawful : s.Lawful)
    (orderly : s.Orderly digest events) : (s.run digest events).Lawful := by
  induction events generalizing s with
  | nil => exact lawful
  | cons event events ih => exact ih (lawful.apply orderly.1) orderly.2

/-- The pointer commands of an orderly run form a legal trace, and once only commands that are about no
pointer are in flight the session takes those pointers to be down that the trace leaves down. -/
theorem run_lawful [DecidableEq φ] (pointerCapable : Bool) (actions : List String) (clientId : String)
    (events : List Event)
    (orderly : (create pointerCapable actions clientId : Session φ).Orderly digest events) :
    let s := (create pointerCapable actions clientId).run digest events
    ∃ held, leaves .empty s.trace = some held ∧
      ((∀ call ∈ s.calls.values, call.work.touch = .other) →
        ∀ p, held.get? p = (s.activePointers.get? p).map (·.geometryVersion)) := by
  intro s
  obtain ⟨pending, traced⟩ := (create_lawful.run orderly).traced
  obtain ⟨held, legal, same⟩ := traced.legal (fun _ => true) fun _ _ => rfl
  have given : ∀ trace : List Started, trace.map (Started.given fun _ => true) = trace := fun trace =>
    List.map_id'' (fun started => by simp [Started.given]) trace
  rw [given] at legal
  refine ⟨held, legal, fun idle p => ?_⟩
  rw [same, List.filter_true]
  apply congrFun (Touch.overlay_idle fun u mem => ?_) p
  obtain ⟨x, listed, rfl⟩ := List.mem_map.mp mem
  obtain ⟨work, found, touch⟩ := traced.started x listed
  rw [← touch]
  exact idle _ (Dict.mem_values.mpr ⟨x.1, found⟩)

/-! Two commands about one pointer. -/

section Example

def touchAt (phase : PointerPhase) (sequence : Int) (commandId : String) : Command :=
  ⟨"client", 1, sequence, commandId, 1, 1, .pointer phase 0 0 1⟩

/-- A pointer goes down and stays there. -/
def held : List Event :=
  [.publishFrame (1, 1, "portrait") 0, .input openAdmission .admitted (touchAt .down 1 "first"), .start 0,
    .finish 0 (.injected "best-effort" 3)]

theorem run_lawful_held :
    let s := (create true ["pointer"] "client").run (fun c => c) held
    ∃ down, leaves .empty s.trace = some down ∧ down.get? 0 = some 1 := by
  have orderly : (create true ["pointer"] "client").Orderly (fun c => c) held := by decide +kernel
  obtain ⟨down, legal, same⟩ := run_lawful true ["pointer"] "client" held orderly
  exact ⟨down, legal, same (by decide +kernel) 0⟩

/-- Both commands are checked before either is applied. -/
theorem down_twice :
    let s := (create true ["pointer"] "client").run (fun c => c)
      [.publishFrame (1, 1, "portrait") 0, .input openAdmission .admitted (touchAt .down 1 "first"),
        .input openAdmission .admitted (touchAt .down 2 "second"), .start 0, .start 1,
        .finish 0 (.injected "best-effort" 3), .finish 1 (.injected "best-effort" 3)]
    s.trace = [⟨0, .pointer .down 0 1, true⟩, ⟨1, .pointer .down 0 1, true⟩] ∧
      s.state = .active ∧ s.calls.keys = [] ∧ leaves .empty s.trace = none := by
  decide +kernel

end Example

end Session

end Reproof.Live.Lab.Inputs
