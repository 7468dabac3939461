import Mathlib.Order.Defs.Unbundled

/-! Programs over a state that ask their environment and can be cut short at any question.
`run` executes a program on given answers; `wp` is what holds after it for every answer. -/

namespace Reproof.Library

inductive Outcome (ε α : Type)
  | done (a : α)
  | raised (e : ε)
  | crashed
  deriving DecidableEq

inductive Prog (ε ω σ α : Type)
  | done (a : α)
  | raise (e : ε)
  | crash
  | get (next : σ → Prog ε ω σ α)
  | put (s : σ) (next : Prog ε ω σ α)
  | ask (next : ω → Prog ε ω σ α)

/-- What became of a write: it may have taken effect even when it did not return. -/
inductive Fate
  | done
  | failed (applied : Bool)
  | crashed (applied : Bool)
  deriving DecidableEq

namespace Prog

variable {ε ω σ τ α β : Type}

def bind : Prog ε ω σ α → (α → Prog ε ω σ β) → Prog ε ω σ β
  | done a, f => f a
  | raise e, _ => raise e
  | crash, _ => crash
  | get next, f => get fun s => (next s).bind f
  | put s next, f => put s (next.bind f)
  | ask next, f => ask fun w => (next w).bind f

instance : Monad (Prog ε ω σ) where
  pure := done
  bind := bind

/-- `try: p except: handler`; a crash is not caught. -/
def rescue : Prog ε ω σ α → (ε → Prog ε ω σ α) → Prog ε ω σ α
  | done a, _ => done a
  | raise e, handler => handler e
  | crash, _ => crash
  | get next, handler => get fun s => (next s).rescue handler
  | put s next, handler => put s (next.rescue handler)
  | ask next, handler => ask fun w => (next w).rescue handler

def read : Prog ε ω σ σ := get done

def modify (f : σ → σ) : Prog ε ω σ Unit := get fun s => put (f s) (done ())

def answer : Prog ε ω σ ω := ask done

def ofExcept : Except ε α → Prog ε ω σ α
  | .ok a => done a
  | .error e => raise e

def ensure (p : Prop) [Decidable p] (e : ε) : Prog ε ω σ Unit :=
  if p then done () else raise e

/-- A write `f` of the durable part of the state, with the fate the environment gives it. -/
def write (f : σ → σ) (e : ε) : Fate → Prog ε ω σ Unit
  | .done => modify f
  | .failed applied => do
    if applied then modify f
    raise e
  | .crashed applied => do
    if applied then modify f
    crash

/-- A write that fails whole; a crash may fall on either side of it. -/
def commit (f : σ → σ) (e : ε) : Fate → Prog ε ω σ Unit
  | .done => modify f
  | .failed _ => raise e
  | .crashed applied => do
    if applied then modify f
    crash

/-- The program `p` on the part `get` of a larger state. -/
def zoom (view : τ → σ) (set : σ → τ → τ) : Prog ε ω σ α → Prog ε ω τ α
  | done a => done a
  | raise e => raise e
  | crash => crash
  | get next => get fun t => (next (view t)).zoom view set
  | put s next => get fun t => put (set s t) (next.zoom view set)
  | ask next => ask fun w => (next w).zoom view set

/-- Runs the program on the answers given, and on `default` when they are used up: the outcome, the
answers left and the state. -/
def run [Inhabited ω] : Prog ε ω σ α → List ω → σ → Outcome ε α × List ω × σ
  | done a, answers, s => (.done a, answers, s)
  | raise e, answers, s => (.raised e, answers, s)
  | crash, answers, s => (.crashed, answers, s)
  | get next, answers, s => (next s).run answers s
  | put s next, answers, _ => next.run answers s
  | ask next, [], s => (next default).run [] s
  | ask next, w :: answers, s => (next w).run answers s

/-- `p.wp Q R C s`: from `s`, whatever the environment answers, `p` returns with `Q`, raises with
`R` or is cut short with `C`. -/
def wp (Q : α → σ → Prop) (R : ε → σ → Prop) (C : σ → Prop) : Prog ε ω σ α → σ → Prop
  | done a => Q a
  | raise e => R e
  | crash => C
  | get next => fun s => (next s).wp Q R C s
  | put s next => fun _ => next.wp Q R C s
  | ask next => fun s => ∀ w, (next w).wp Q R C s

section Rules

variable {Q : α → σ → Prop} {R : ε → σ → Prop} {C : σ → Prop} {s : σ}

theorem run_wp [Inhabited ω] {p : Prog ε ω σ α} (h : p.wp Q R C s) (answers : List ω) :
    match p.run answers s with
    | (.done a, _, t) => Q a t
    | (.raised e, _, t) => R e t
    | (.crashed, _, t) => C t := by
  induction p generalizing s answers with
  | done => exact h
  | raise => exact h
  | crash => exact h
  | get next ih => exact ih s h answers
  | put t next ih => exact ih h answers
  | ask next ih =>
    cases answers with
    | nil => exact ih default (h default) []
    | cons w answers => exact ih w (h w) answers

/-- Where the environment has one answer only, the precondition says what the run does. -/
theorem wp_iff_run [Inhabited ω] [Subsingleton ω] {p : Prog ε ω σ α} {answers : List ω} :
    p.wp Q R C s ↔ match p.run answers s with
      | (.done a, _, t) => Q a t
      | (.raised e, _, t) => R e t
      | (.crashed, _, t) => C t := by
  induction p generalizing s answers with
  | done => rfl
  | raise => rfl
  | crash => rfl
  | get next ih => exact ih s
  | put t next ih => exact ih
  | ask next ih =>
    cases answers with
    | nil => exact ⟨fun h => (ih default).mp (h default), fun h w => Subsingleton.elim default w ▸ (ih default).mpr h⟩
    | cons w answers =>
      exact ⟨fun h => (ih w).mp (h w), fun h w' => Subsingleton.elim w w' ▸ (ih w).mpr h⟩

theorem done_wp [Inhabited ω] {p : Prog ε ω σ α} (h : p.wp Q R C s) {answers rest : List ω} {a : α}
    {t : σ} (hrun : p.run answers s = (.done a, rest, t)) : Q a t := by
  have after := run_wp h answers
  rw [hrun] at after
  exact after

/-- What holds however the program ends. -/
theorem run_after [Inhabited ω] {p : Prog ε ω σ α} {K : σ → Prop}
    (h : p.wp (fun _ => K) (fun _ => K) K s) (answers : List ω) : K (p.run answers s).2.2 := by
  have after := run_wp h answers
  revert after
  cases p.run answers s with
  | mk outcome t => cases outcome <;> exact id

theorem wp_mono {Q' : α → σ → Prop} {R' : ε → σ → Prop} {C' : σ → Prop} {p : Prog ε ω σ α}
    (h : p.wp Q R C s) (hQ : ∀ a t, Q a t → Q' a t) (hR : ∀ e t, R e t → R' e t)
    (hC : ∀ t, C t → C' t) : p.wp Q' R' C' s := by
  induction p generalizing s with
  | done a => exact hQ a s h
  | raise e => exact hR e s h
  | crash => exact hC s h
  | get next ih => exact ih s h
  | put t next ih => exact ih h
  | ask next ih => exact fun w => ih w (h w)

theorem wp_and {Q' : α → σ → Prop} {R' : ε → σ → Prop} {C' : σ → Prop} {p : Prog ε ω σ α}
    (h : p.wp Q R C s) (h' : p.wp Q' R' C' s) :
    p.wp (fun a t => Q a t ∧ Q' a t) (fun e t => R e t ∧ R' e t) (fun t => C t ∧ C' t) s := by
  induction p generalizing s with
  | done => exact ⟨h, h'⟩
  | raise => exact ⟨h, h'⟩
  | crash => exact ⟨h, h'⟩
  | get next ih => exact ih s h h'
  | put t next ih => exact ih h h'
  | ask next ih => exact fun w => ih w (h w) (h' w)

@[simp] theorem wp_done {a : α} : (done a : Prog ε ω σ α).wp Q R C s ↔ Q a s := Iff.rfl

@[simp] theorem wp_pure {a : α} : (pure a : Prog ε ω σ α).wp Q R C s ↔ Q a s := Iff.rfl

@[simp] theorem wp_raise {e : ε} : (raise e : Prog ε ω σ α).wp Q R C s ↔ R e s := Iff.rfl

@[simp] theorem wp_crash : (crash : Prog ε ω σ α).wp Q R C s ↔ C s := Iff.rfl

@[simp] theorem wp_bind {p : Prog ε ω σ β} {f : β → Prog ε ω σ α} :
    (p >>= f).wp Q R C s ↔ p.wp (fun b t => (f b).wp Q R C t) R C s := by
  change (p.bind f).wp Q R C s ↔ _
  induction p generalizing s with
  | done => rfl
  | raise => rfl
  | crash => rfl
  | get next ih => exact ih s
  | put t next ih => exact ih
  | ask next ih => exact forall_congr' fun w => ih w

@[simp] theorem wp_rescue {p : Prog ε ω σ α} {handler : ε → Prog ε ω σ α} :
    (p.rescue handler).wp Q R C s ↔ p.wp Q (fun e t => (handler e).wp Q R C t) C s := by
  induction p generalizing s with
  | done => rfl
  | raise => rfl
  | crash => rfl
  | get next ih => exact ih s
  | put t next ih => exact ih
  | ask next ih => exact forall_congr' fun w => ih w

@[simp] theorem wp_read {Q : σ → σ → Prop} :
    (read : Prog ε ω σ σ).wp Q R C s ↔ Q s s := Iff.rfl

@[simp] theorem wp_modify {Q : Unit → σ → Prop} {f : σ → σ} :
    (modify f : Prog ε ω σ Unit).wp Q R C s ↔ Q () (f s) := Iff.rfl

@[simp] theorem wp_answer {Q : ω → σ → Prop} :
    (answer : Prog ε ω σ ω).wp Q R C s ↔ ∀ w, Q w s := Iff.rfl

@[simp] theorem wp_ofExcept {x : Except ε α} :
    (ofExcept x : Prog ε ω σ α).wp Q R C s ↔
      (∀ a, x = .ok a → Q a s) ∧ ∀ e, x = .error e → R e s := by
  cases x <;> simp [ofExcept]

@[simp] theorem wp_ensure {Q : Unit → σ → Prop} {p : Prop} [Decidable p] {e : ε} :
    (ensure p e : Prog ε ω σ Unit).wp Q R C s ↔ (p → Q () s) ∧ (¬ p → R e s) := by
  by_cases h : p <;> simp [ensure, h]

@[simp] theorem wp_write {Q : Unit → σ → Prop} {f : σ → σ} {e : ε} {fate : Fate} :
    (write f e fate : Prog ε ω σ Unit).wp Q R C s ↔
      match fate with
      | .done => Q () (f s)
      | .failed applied => R e (if applied then f s else s)
      | .crashed applied => C (if applied then f s else s) := by
  cases fate with
  | done => rfl
  | failed applied => cases applied <;> rfl
  | crashed applied => cases applied <;> rfl

theorem wp_commit {Q : Unit → σ → Prop} {f : σ → σ} {e : ε} {fate : Fate} (hq : Q () (f s))
    (hr : R e s) (hc : C s ∧ C (f s)) : (commit f e fate : Prog ε ω σ Unit).wp Q R C s := by
  cases fate with
  | done => exact hq
  | failed applied => exact hr
  | crashed applied =>
    cases applied with
    | true => exact hc.2
    | false => exact hc.1

/-- If `p` returns, it returns with `Q`. -/
abbrev Returns (Q : α → σ → Prop) (p : Prog ε ω σ α) (s : σ) : Prop :=
  p.wp Q (fun _ _ => True) (fun _ => True) s

theorem returns_any (p : Prog ε ω σ α) (s : σ) : p.Returns (fun _ _ => True) s := by
  induction p generalizing s with
  | done => trivial
  | raise => trivial
  | crash => trivial
  | get next ih => exact ih s s
  | put t next ih => exact ih t
  | ask next ih => exact fun w => ih w s

/-- What the end of a program alone ensures. -/
theorem Returns.last {p : Prog ε ω σ β} {f : β → Prog ε ω σ α} (h : ∀ b t, (f b).Returns Q t) :
    (p >>= f).Returns Q s := by
  unfold Returns
  rw [wp_bind]
  exact wp_mono (returns_any p s) (fun b t _ => h b t) (fun _ _ => id) fun _ => id

end Rules

/-- When every answer is good, `p` returns, and it returns with `Q`. -/
def Succeeds (good : ω → Prop) (Q : α → σ → Prop) : Prog ε ω σ α → σ → Prop
  | done a => Q a
  | raise _ => fun _ => False
  | crash => fun _ => False
  | get next => fun s => (next s).Succeeds good Q s
  | put s next => fun _ => next.Succeeds good Q s
  | ask next => fun s => ∀ w, good w → (next w).Succeeds good Q s

section Succeeds

variable {good : ω → Prop} {Q : α → σ → Prop} {s : σ}

theorem succeeds_mono {Q' : α → σ → Prop} {p : Prog ε ω σ α} (h : p.Succeeds good Q s)
    (hQ : ∀ a t, Q a t → Q' a t) : p.Succeeds good Q' s := by
  induction p generalizing s with
  | done a => exact hQ a s h
  | raise => exact h
  | crash => exact h
  | get next ih => exact ih s h
  | put t next ih => exact ih h
  | ask next ih => exact fun w hw => ih w (h w hw)

@[simp] theorem succeeds_pure {a : α} :
    (pure a : Prog ε ω σ α).Succeeds good Q s ↔ Q a s := Iff.rfl

@[simp] theorem succeeds_bind {p : Prog ε ω σ β} {f : β → Prog ε ω σ α} :
    (p >>= f).Succeeds good Q s ↔ p.Succeeds good (fun b t => (f b).Succeeds good Q t) s := by
  change (p.bind f).Succeeds good Q s ↔ _
  induction p generalizing s with
  | done => rfl
  | raise => rfl
  | crash => rfl
  | get next ih => exact ih s
  | put t next ih => exact ih
  | ask next ih => exact forall_congr' fun w => imp_congr_right fun _ => ih w

theorem succeeds_rescue {p : Prog ε ω σ α} {handler : ε → Prog ε ω σ α}
    (h : p.Succeeds good Q s) : (p.rescue handler).Succeeds good Q s := by
  induction p generalizing s with
  | done => exact h
  | raise => exact h.elim
  | crash => exact h
  | get next ih => exact ih s h
  | put t next ih => exact ih h
  | ask next ih => exact fun w hw => ih w (h w hw)

@[simp] theorem succeeds_read {Q : σ → σ → Prop} :
    (read : Prog ε ω σ σ).Succeeds good Q s ↔ Q s s := Iff.rfl

@[simp] theorem succeeds_modify {Q : Unit → σ → Prop} {f : σ → σ} :
    (modify f : Prog ε ω σ Unit).Succeeds good Q s ↔ Q () (f s) := Iff.rfl

@[simp] theorem succeeds_answer {Q : ω → σ → Prop} :
    (answer : Prog ε ω σ ω).Succeeds good Q s ↔ ∀ w, good w → Q w s := Iff.rfl

theorem succeeds_ofExcept {x : Except ε α} {a : α} (ok : x = .ok a) (h : Q a s) :
    (ofExcept x : Prog ε ω σ α).Succeeds good Q s := by
  rw [ok]
  exact h

theorem succeeds_ensure {Q : Unit → σ → Prop} {p : Prop} [Decidable p] {e : ε} (hp : p)
    (h : Q () s) : (ensure p e : Prog ε ω σ Unit).Succeeds good Q s := by
  rw [ensure, if_pos hp]
  exact h

theorem Succeeds.run [Inhabited ω] {p : Prog ε ω σ α} (h : p.Succeeds good Q s)
    (usual : good default) {answers : List ω} (all : ∀ w ∈ answers, good w) :
    ∃ a rest t, p.run answers s = (.done a, rest, t) ∧ Q a t := by
  induction p generalizing s answers with
  | done a => exact ⟨a, answers, s, rfl, h⟩
  | raise => exact h.elim
  | crash => exact h.elim
  | get next ih => exact ih s h all
  | put t next ih => exact ih h all
  | ask next ih =>
    cases answers with
    | nil => exact ih default (h default usual) all
    | cons w answers =>
      exact ih w (h w (all w List.mem_cons_self)) fun w mem => all w (List.mem_cons_of_mem _ mem)

theorem Succeeds.and_wp {Q' : α → σ → Prop} {R : ε → σ → Prop} {C : σ → Prop} {p : Prog ε ω σ α}
    (h : p.Succeeds good Q s) (h' : p.wp Q' R C s) :
    p.Succeeds good (fun a t => Q a t ∧ Q' a t) s := by
  induction p generalizing s with
  | done => exact ⟨h, h'⟩
  | raise => exact h
  | crash => exact h
  | get next ih => exact ih s h h'
  | put t next ih => exact ih h h'
  | ask next ih => exact fun w fine => ih w (h w fine) (h' w)

end Succeeds

/-- `p.wp Q R C s`, as far as the answers are good. -/
def wpGiven (good : ω → Prop) (Q : α → σ → Prop) (R : ε → σ → Prop) (C : σ → Prop) :
    Prog ε ω σ α → σ → Prop
  | done a => Q a
  | raise e => R e
  | crash => C
  | get next => fun s => (next s).wpGiven good Q R C s
  | put s next => fun _ => next.wpGiven good Q R C s
  | ask next => fun s => ∀ w, good w → (next w).wpGiven good Q R C s

section Given

variable {good : ω → Prop} {Q : α → σ → Prop} {R : ε → σ → Prop} {C : σ → Prop} {s : σ}

theorem wpGiven_of_wp {p : Prog ε ω σ α} (h : p.wp Q R C s) : p.wpGiven good Q R C s := by
  induction p generalizing s with
  | done => exact h
  | raise => exact h
  | crash => exact h
  | get next ih => exact ih s h
  | put t next ih => exact ih h
  | ask next ih => exact fun w _ => ih w (h w)

@[simp] theorem wpGiven_bind {p : Prog ε ω σ β} {f : β → Prog ε ω σ α} :
    (p >>= f).wpGiven good Q R C s ↔
      p.wpGiven good (fun b t => (f b).wpGiven good Q R C t) R C s := by
  change (p.bind f).wpGiven good Q R C s ↔ _
  induction p generalizing s with
  | done => rfl
  | raise => rfl
  | crash => rfl
  | get next ih => exact ih s
  | put t next ih => exact ih
  | ask next ih => exact forall_congr' fun w => imp_congr_right fun _ => ih w

theorem run_wpGiven [Inhabited ω] {p : Prog ε ω σ α} (h : p.wpGiven good Q R C s)
    (usual : good default) {answers : List ω} (all : ∀ w ∈ answers, good w) :
    match p.run answers s with
    | (.done a, _, t) => Q a t
    | (.raised e, _, t) => R e t
    | (.crashed, _, t) => C t := by
  induction p generalizing s answers with
  | done => exact h
  | raise => exact h
  | crash => exact h
  | get next ih => exact ih s h all
  | put t next ih => exact ih h all
  | ask next ih =>
    cases answers with
    | nil => exact ih default (h default usual) all
    | cons w answers =>
      exact ih w (h w (all w List.mem_cons_self)) fun w mem => all w (List.mem_cons_of_mem _ mem)

end Given

theorem wp_zoom {view : τ → σ} {set : σ → τ → τ} (view_set : ∀ s t, view (set s t) = s)
    (set_set : ∀ s s' t, set s (set s' t) = set s t) (set_view : ∀ t, set (view t) t = t)
    {Q : α → τ → Prop} {R : ε → τ → Prop} {C : τ → Prop} {p : Prog ε ω σ α} {t : τ} :
    (p.zoom view set).wp Q R C t ↔
      p.wp (fun a s => Q a (set s t)) (fun e s => R e (set s t)) (fun s => C (set s t)) (view t) := by
  induction p generalizing t with
  | done => simp [zoom, set_view]
  | raise => simp [zoom, set_view]
  | crash => simp [zoom, set_view]
  | get next ih => exact ih (view t)
  | put s next ih =>
    change (next.zoom view set).wp Q R C (set s t) ↔ next.wp _ _ _ s
    rw [ih]
    simp only [view_set, set_set]
  | ask next ih => exact forall_congr' fun w => ih w

section Run

variable [Inhabited ω] {answers : List ω} {s : σ}

@[simp] theorem run_pure {a : α} :
    (pure a : Prog ε ω σ α).run answers s = (.done a, answers, s) := rfl

@[simp] theorem run_done {a : α} :
    (done a : Prog ε ω σ α).run answers s = (.done a, answers, s) := rfl

@[simp] theorem run_raise {e : ε} :
    (raise e : Prog ε ω σ α).run answers s = (.raised e, answers, s) := rfl

@[simp] theorem run_crash : (crash : Prog ε ω σ α).run answers s = (.crashed, answers, s) := rfl

@[simp] theorem run_bind {p : Prog ε ω σ β} {f : β → Prog ε ω σ α} :
    (p >>= f).run answers s =
      match p.run answers s with
      | (.done b, rest, t) => (f b).run rest t
      | (.raised e, rest, t) => (.raised e, rest, t)
      | (.crashed, rest, t) => (.crashed, rest, t) := by
  change (p.bind f).run answers s = _
  induction p generalizing answers s with
  | done => rfl
  | raise => rfl
  | crash => rfl
  | get next ih => exact ih s
  | put t next ih => exact ih
  | ask next ih =>
    cases answers with
    | nil => exact ih default
    | cons w answers => exact ih w

theorem run_bind_cut {p : Prog ε ω σ β} {f : β → Prog ε ω σ α}
    (cut : ∀ b, (p.run answers s).1 ≠ .done b) :
    ((p >>= f).run answers s).2.2 = (p.run answers s).2.2 ∧
      ∀ a, ((p >>= f).run answers s).1 ≠ .done a := by
  rw [run_bind]
  revert cut
  generalize p.run answers s = result
  obtain ⟨outcome, rest, t⟩ := result
  cases outcome with
  | done b => exact fun cut => absurd rfl (cut b)
  | raised e => exact fun _ => ⟨rfl, fun _ => nofun⟩
  | crashed => exact fun _ => ⟨rfl, fun _ => nofun⟩

@[simp] theorem run_rescue {p : Prog ε ω σ α} {handler : ε → Prog ε ω σ α} :
    (p.rescue handler).run answers s =
      match p.run answers s with
      | (.done a, rest, t) => (.done a, rest, t)
      | (.raised e, rest, t) => (handler e).run rest t
      | (.crashed, rest, t) => (.crashed, rest, t) := by
  induction p generalizing answers s with
  | done => rfl
  | raise => rfl
  | crash => rfl
  | get next ih => exact ih s
  | put t next ih => exact ih
  | ask next ih =>
    cases answers with
    | nil => exact ih default
    | cons w answers => exact ih w

@[simp] theorem run_read : (read : Prog ε ω σ σ).run answers s = (.done s, answers, s) := rfl

@[simp] theorem run_modify {f : σ → σ} :
    (modify f : Prog ε ω σ Unit).run answers s = (.done (), answers, f s) := rfl

@[simp] theorem run_answer {w : ω} :
    (answer : Prog ε ω σ ω).run (w :: answers) s = (.done w, answers, s) := rfl

@[simp] theorem run_answer_nil :
    (answer : Prog ε ω σ ω).run [] s = (.done default, [], s) := rfl

theorem run_answer_headD :
    (answer : Prog ε ω σ ω).run answers s = (.done (answers.headD default), answers.tail, s) := by
  cases answers <;> rfl

@[simp] theorem run_ensure {p : Prop} [Decidable p] {e : ε} :
    (ensure p e : Prog ε ω σ Unit).run answers s =
      if p then (.done (), answers, s) else (.raised e, answers, s) := by
  by_cases h : p <;> simp [ensure, h]

theorem run_ensure_bind {p : Prop} [Decidable p] {e : ε} {f : Unit → Prog ε ω σ α}
    {K : Outcome ε α × List ω × σ → Prop} (refused : K (.raised e, answers, s))
    (next : p → K ((f ()).run answers s)) : K ((ensure p e >>= f).run answers s) := by
  rw [run_bind, run_ensure]
  by_cases h : p
  · rw [if_pos h]
    exact next h
  · rw [if_neg h]
    exact refused

@[simp] theorem run_write {f : σ → σ} {e : ε} {fate : Fate} :
    (write f e fate : Prog ε ω σ Unit).run answers s =
      match fate with
      | .done => (.done (), answers, f s)
      | .failed applied => (.raised e, answers, if applied then f s else s)
      | .crashed applied => (.crashed, answers, if applied then f s else s) := by
  cases fate with
  | done => rfl
  | failed applied => cases applied <;> rfl
  | crashed applied => cases applied <;> rfl

theorem run_zoom {view : τ → σ} {set : σ → τ → τ} (view_set : ∀ s t, view (set s t) = s)
    (set_set : ∀ s s' t, set s (set s' t) = set s t) (set_view : ∀ t, set (view t) t = t)
    {p : Prog ε ω σ α} {t : τ} :
    (p.zoom view set).run answers t =
      ((p.run answers (view t)).1, (p.run answers (view t)).2.1,
        set (p.run answers (view t)).2.2 t) := by
  induction p generalizing answers t with
  | done => simp [zoom, run, set_view]
  | raise => simp [zoom, run, set_view]
  | crash => simp [zoom, run, set_view]
  | get next ih => exact ih (view t)
  | put s next ih =>
    change (next.zoom view set).run answers (set s t) = _
    rw [ih, view_set, set_set]
    rfl
  | ask next ih =>
    cases answers with
    | nil => exact ih default
    | cons w answers => exact ih w

end Run

/-- However `p` ends, the state it leaves is related to the one it began in. -/
def Guarantees (rel : σ → σ → Prop) (p : Prog ε ω σ α) : Prop :=
  ∀ s, p.wp (fun _ t => rel s t) (fun _ t => rel s t) (rel s) s

namespace Guarantees

variable {rel : σ → σ → Prop}

section Reflexive

variable [Std.Refl rel]

theorem pure {a : α} : Guarantees rel (Pure.pure a : Prog ε ω σ α) := fun s => refl_of rel s

theorem raise {e : ε} : Guarantees rel (raise e : Prog ε ω σ α) := fun s => refl_of rel s

theorem crash : Guarantees rel (crash : Prog ε ω σ α) := fun s => refl_of rel s

theorem read : Guarantees rel (read : Prog ε ω σ σ) := fun s => refl_of rel s

theorem answer : Guarantees rel (answer : Prog ε ω σ ω) := fun s _ => refl_of rel s

theorem ensure {p : Prop} [Decidable p] {e : ε} :
    Guarantees rel (ensure p e : Prog ε ω σ Unit) := by
  intro s
  rw [wp_ensure]
  exact ⟨fun _ => refl_of rel s, fun _ => refl_of rel s⟩

theorem ofExcept {x : Except ε α} : Guarantees rel (ofExcept x : Prog ε ω σ α) := by
  intro s
  rw [wp_ofExcept]
  exact ⟨fun _ _ => refl_of rel s, fun _ _ => refl_of rel s⟩

end Reflexive

theorem modify {f : σ → σ} (hf : ∀ s, rel s (f s)) :
    Guarantees rel (modify f : Prog ε ω σ Unit) := hf

theorem ite {c : Prop} [Decidable c] {p q : Prog ε ω σ α} (hp : Guarantees rel p)
    (hq : Guarantees rel q) : Guarantees rel (if c then p else q) := by
  split
  · exact hp
  · exact hq

section Transitive

variable [IsTrans σ rel]

/-- What holds after `p`, when `p` began in a state that `s` is related to. -/
theorem from_state {p : Prog ε ω σ α} (hp : Guarantees rel p) {s t : σ} (h : rel s t) :
    p.wp (fun _ u => rel s u) (fun _ u => rel s u) (rel s) t :=
  wp_mono (hp t) (fun _ _ => trans_of rel h) (fun _ _ => trans_of rel h) fun _ => trans_of rel h

theorem bind {p : Prog ε ω σ β} {f : β → Prog ε ω σ α} (hp : Guarantees rel p)
    (hf : ∀ b, Guarantees rel (f b)) : Guarantees rel (p >>= f) := by
  intro s
  rw [wp_bind]
  exact wp_mono (hp s) (fun b _ h => (hf b).from_state h) (fun _ _ h => h) fun _ h => h

theorem rescue {p : Prog ε ω σ α} {handler : ε → Prog ε ω σ α} (hp : Guarantees rel p)
    (hh : ∀ e, Guarantees rel (handler e)) : Guarantees rel (p.rescue handler) := by
  intro s
  rw [wp_rescue]
  exact wp_mono (hp s) (fun _ _ h => h) (fun e _ h => (hh e).from_state h) fun _ h => h

end Transitive

theorem mono {rel' : σ → σ → Prop} {p : Prog ε ω σ α} (h : Guarantees rel p)
    (weaker : ∀ s t, rel s t → rel' s t) : Guarantees rel' p := fun s =>
  wp_mono (h s) (fun _ => weaker s) (fun _ => weaker s) (weaker s)

theorem run [Inhabited ω] {p : Prog ε ω σ α} (h : Guarantees rel p) (answers : List ω) (s : σ) :
    rel s (p.run answers s).2.2 := run_after (h s) answers

end Guarantees

end Prog

end Reproof.Library
