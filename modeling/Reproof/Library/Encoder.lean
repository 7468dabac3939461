import Reproof.Library.Checked
import Reproof.Library.Json

/-! The encoder with what it raises, the depth of a value, and the bytes of its text. -/

namespace Reproof.Library.Json

/-- A value that is nested too deep, or one that has no text. -/
inductive Fault
  | recursion | value

/-- The text of a value, or the first fault on the way. -/
def encode : Nat → Json → Except Fault (List Char)
  | depth + 1, .list items => do
    let parts ← items.mapM (encode depth)
    pure ('[' :: (join parts ++ [']']))
  | depth + 1, .dict pairs => do
    let parts ← (pairs.insertionSort ByKey).mapM fun pair => do
      let text ← encode depth pair.2
      pure (quote pair.1 ++ ':' :: text)
    pure ('\x7b' :: (join parts ++ ['\x7d']))
  | 0, .list _ => .error .recursion
  | 0, .dict _ => .error .recursion
  | _, value => orFail (scalar value) .value

/-- Lists and dictionaries are at most `depth` deep. -/
def Nested : Nat → Json → Prop
  | depth + 1, .list items => ∀ item ∈ items, Nested depth item
  | depth + 1, .dict pairs => ∀ pair ∈ pairs, Nested depth pair.2
  | 0, .list _ => False
  | 0, .dict _ => False
  | _, _ => True

def decNested : (depth : Nat) → (value : Json) → Decidable (Nested depth value)
  | depth + 1, .list items =>
    have := decNested depth
    inferInstanceAs (Decidable (∀ item ∈ items, Nested depth item))
  | depth + 1, .dict pairs =>
    have := decNested depth
    inferInstanceAs (Decidable (∀ pair ∈ pairs, Nested depth pair.2))
  | 0, .list _ => inferInstanceAs (Decidable False)
  | 0, .dict _ => inferInstanceAs (Decidable False)
  | 0, .null | 0, .bool _ | 0, .int _ | 0, .float _ | 0, .str _ => inferInstanceAs (Decidable True)
  | _ + 1, .null | _ + 1, .bool _ | _ + 1, .int _ | _ + 1, .float _ | _ + 1, .str _ =>
    inferInstanceAs (Decidable True)

instance (depth : Nat) : DecidablePred (Nested depth) := decNested depth

theorem mapM_each {α β : Type} {f : α → Option β} {g : α → β} {items : List α}
    (each : ∀ a ∈ items, f a = some (g a)) : items.mapM f = some (items.map g) := by
  induction items with
  | nil => rfl
  | cons a items ih =>
    rw [List.forall_mem_cons] at each
    rw [List.mapM_cons, each.1, ih each.2]
    rfl

/-- A walk over items that have results fails where one of them is not in order. -/
theorem mapM_faults {α β ε : Type} {f : α → Except ε β} {g : α → Option β} {p : α → Prop}
    {items : List α} {parts : List β} {fault : ε} (found : items.mapM g = some parts)
    (each : ∀ a ∈ items, ∀ b, g a = some b →
      (p a → f a = .ok b) ∧ (¬ p a → f a = .error fault)) :
    ((∀ a ∈ items, p a) → items.mapM f = .ok parts) ∧
      (¬ (∀ a ∈ items, p a) → items.mapM f = .error fault) := by
  induction items generalizing parts with
  | nil =>
    cases found
    exact ⟨fun _ => rfl, fun some => absurd (fun _ mem => absurd mem List.not_mem_nil) some⟩
  | cons a items ih =>
    simp only [List.mapM_cons, Option.bind_eq_bind, Option.bind_eq_some_iff, Option.pure_def,
      Option.some.injEq] at found
    obtain ⟨b, here, rest, there, rfl⟩ := found
    rw [List.forall_mem_cons] at each
    obtain ⟨good, bad⟩ := each.1 b here
    obtain ⟨goods, bads⟩ := ih there each.2
    rw [List.forall_mem_cons, List.mapM_cons]
    constructor
    · rintro ⟨first, others⟩
      rw [good first, goods others]
      rfl
    · intro none
      by_cases first : p a
      · rw [good first, bads fun others => none ⟨first, others⟩]
        rfl
      · rw [bad first]
        rfl

theorem encode_scalar {value : Json} {text : List Char} (h : scalar value = some text) (room : Nat) :
    encode room value = .ok text ∧ Nested room value := by
  have found : orFail (scalar value) Fault.value = .ok text := orFail_eq_ok.mpr h
  cases value with
  | list items => nomatch h
  | dict pairs => nomatch h
  | _ => cases room <;> exact ⟨found, trivial⟩

/-- A value that has a text has it at every depth that it is nested in, and is too deep elsewhere. -/
theorem encode_of_write {depth : Nat} {value : Json} {text : List Char}
    (written : write depth value = some text) (room : Nat) :
    (Nested room value → encode room value = .ok text) ∧
      (¬ Nested room value → encode room value = .error .recursion) := by
  induction depth generalizing value text room with
  | zero =>
    have found : scalar value = some text := by
      cases value <;> exact written
    have encoded := encode_scalar found room
    exact ⟨fun _ => encoded.1, fun deep => absurd encoded.2 deep⟩
  | succ depth ih =>
    cases value with
    | list items =>
      cases room with
      | zero => exact ⟨fun nested => nested.elim, fun _ => rfl⟩
      | succ room =>
        simp only [write, Option.map_eq_some_iff] at written
        obtain ⟨parts, written, rfl⟩ := written
        obtain ⟨good, bad⟩ := mapM_faults written fun item _ _ here => ih here room
        rw [encode]
        refine ⟨fun nested => ?_, fun deep => ?_⟩
        · rw [good nested]
          rfl
        · rw [bad deep]
          rfl
    | dict pairs =>
      cases room with
      | zero => exact ⟨fun nested => nested.elim, fun _ => rfl⟩
      | succ room =>
        simp only [write, Option.map_eq_some_iff] at written
        obtain ⟨parts, written, rfl⟩ := written
        have each (pair : String × Json) (part : List Char)
            (here : (write depth pair.2).map (fun text => quote pair.1 ++ ':' :: text) = some part) :
            (Nested room pair.2 → (do
                let text ← encode room pair.2
                pure (quote pair.1 ++ ':' :: text)) = Except.ok part) ∧
              (¬ Nested room pair.2 → (do
                let text ← encode room pair.2
                pure (quote pair.1 ++ ':' :: text)) = Except.error Fault.recursion) := by
          obtain ⟨text, written, rfl⟩ := Option.map_eq_some_iff.mp here
          obtain ⟨good, bad⟩ := ih written room
          refine ⟨fun nested => ?_, fun deep => ?_⟩
          · rw [good nested]
            rfl
          · rw [bad deep]
            rfl
        obtain ⟨good, bad⟩ := mapM_faults written fun pair _ part here => each pair part here
        have order : (∀ pair ∈ pairs.insertionSort ByKey, Nested room pair.2) ↔
            ∀ pair ∈ pairs, Nested room pair.2 := by
          simp only [(List.perm_insertionSort ByKey pairs).mem_iff]
        rw [encode]
        refine ⟨fun nested => ?_, fun deep => ?_⟩
        · rw [good (order.mpr nested)]
          rfl
        · rw [bad fun nested => deep (order.mp nested)]
          rfl
    | _ =>
      have encoded := encode_scalar (show scalar _ = some text from written) room
      exact ⟨fun _ => encoded.1, fun deep => absurd encoded.2 deep⟩

theorem mapM_of_ok {α β ε : Type} {f : α → Except ε β} {g : α → Option β} {items : List α}
    {parts : List β} (done : items.mapM f = .ok parts)
    (each : ∀ a ∈ items, ∀ b, f a = .ok b → g a = some b) : items.mapM g = some parts := by
  induction items generalizing parts with
  | nil =>
    cases done
    rfl
  | cons a items ih =>
    simp only [List.mapM_cons, bind_eq_ok, pure_eq_ok] at done
    obtain ⟨b, here, rest, there, rfl⟩ := done
    rw [List.forall_mem_cons] at each
    rw [List.mapM_cons, each.1 b here, ih there each.2]
    rfl

theorem write_of_encode {depth : Nat} {value : Json} {text : List Char}
    (h : encode depth value = .ok text) : write depth value = some text := by
  induction depth generalizing value text with
  | zero =>
    cases value with
    | list items => nomatch h
    | dict pairs => nomatch h
    | _ => exact orFail_eq_ok.mp h
  | succ depth ih =>
    cases value with
    | list items =>
      simp only [encode, bind_eq_ok, pure_eq_ok] at h
      obtain ⟨parts, done, rfl⟩ := h
      rw [write, mapM_of_ok done fun item _ _ => ih]
      rfl
    | dict pairs =>
      simp only [encode, bind_eq_ok, pure_eq_ok] at h
      obtain ⟨parts, done, rfl⟩ := h
      rw [write, mapM_of_ok done fun pair _ part here => ?_]
      · rfl
      · simp only [bind_eq_ok, pure_eq_ok] at here
        obtain ⟨text, here, rfl⟩ := here
        rw [ih here]
        rfl
    | _ => exact orFail_eq_ok.mp h

theorem some_of_mapM {α β : Type} {g : α → Option β} {items : List α} {parts : List β}
    (found : items.mapM g = some parts) : ∀ a ∈ items, ∃ b, g a = some b := by
  have each := forall₂_of_mapM found
  clear found
  induction each with
  | nil => exact fun _ mem => absurd mem List.not_mem_nil
  | cons here _ ih => exact List.forall_mem_cons.mpr ⟨⟨_, here⟩, ih⟩

/-- The values of a dictionary that has a text have texts. -/
theorem write_item {depth : Nat} {pairs : List (String × Json)} {text : List Char}
    (written : write (depth + 1) (.dict pairs) = some text) :
    ∀ pair ∈ pairs, ∃ text, write depth pair.2 = some text := by
  simp only [write, Option.map_eq_some_iff] at written
  obtain ⟨parts, written, -⟩ := written
  intro pair mem
  obtain ⟨part, here⟩ := some_of_mapM written pair
    ((List.perm_insertionSort ByKey pairs).mem_iff.mpr mem)
  obtain ⟨text, here, -⟩ := Option.map_eq_some_iff.mp here
  exact ⟨text, here⟩

theorem nested_of_write {depth : Nat} {value : Json} {text : List Char}
    (h : write depth value = some text) : Nested depth value := by
  induction depth generalizing value text with
  | zero =>
    cases value with
    | list items => nomatch h
    | dict pairs => nomatch h
    | _ => exact trivial
  | succ depth ih =>
    cases value with
    | list items =>
      simp only [write, Option.map_eq_some_iff] at h
      obtain ⟨parts, written, -⟩ := h
      intro item mem
      obtain ⟨text, here⟩ := some_of_mapM written item mem
      exact ih here
    | dict pairs =>
      intro pair mem
      obtain ⟨text, here⟩ := write_item h pair mem
      exact ih here
    | _ => exact trivial

theorem encode_eq_ok {depth : Nat} {value : Json} {text : List Char} :
    encode depth value = .ok text ↔ write depth value = some text :=
  ⟨write_of_encode, fun written => (encode_of_write written depth).1 (nested_of_write written)⟩

theorem write_of_scalar {value : Json} {text : List Char} (h : scalar value = some text) (room : Nat) :
    write room value = some text := write_of_encode (encode_scalar h room).1

/-- A value that has a text has the same one at every depth that it is nested in, and none elsewhere. -/
theorem write_iff_nested {depth room : Nat} {value : Json} {text : List Char}
    (written : write depth value = some text) : write room value = some text ↔ Nested room value :=
  ⟨nested_of_write, fun nested => write_of_encode ((encode_of_write written room).1 nested)⟩

theorem write_int {depth : Nat} {value : Int} : write depth (.int value) = integer value := by
  cases depth <;> rfl

/-- The bytes of a text. -/
def width (text : List Char) : Nat := (text.flatMap String.utf8EncodeChar).length

theorem width_append {text more : List Char} : width (text ++ more) = width text + width more := by
  rw [width, List.flatMap_append, List.length_append]
  rfl

theorem width_cons {c : Char} {text : List Char} : width (c :: text) = width [c] + width text :=
  @width_append [c] _

theorem width_join {parts : List (List Char)} (filled : parts ≠ []) :
    width (join parts) + 1 = (parts.map fun part => width part + 1).sum := by
  have comma : width [','] = 1 := by decide
  have closed : width (join parts) + 1 = width (join parts ++ [',']) := by rw [width_append, comma]
  rw [closed, join_comma filled]
  clear filled closed
  induction parts with
  | nil => rfl
  | cons part parts ih =>
    rw [List.flatMap_cons, width_append, width_append, comma, ih, List.map_cons, List.sum_cons]

/-- The bytes of a dictionary, from those of its values. -/
theorem write_dict {depth : Nat} {pairs : List (String × Json)} {texts : String × Json → List Char}
    (filled : pairs ≠ []) (each : ∀ pair ∈ pairs, write depth pair.2 = some (texts pair)) :
    ∃ text, write (depth + 1) (.dict pairs) = some text ∧
      width text = 1 + (pairs.map fun pair => width (quote pair.1) + width (texts pair) + 2).sum := by
  have perm := List.perm_insertionSort ByKey pairs
  have written : (pairs.insertionSort ByKey).mapM (fun pair =>
      (write depth pair.2).map fun text => quote pair.1 ++ ':' :: text) =
        some ((pairs.insertionSort ByKey).map fun pair => quote pair.1 ++ ':' :: texts pair) := by
    refine mapM_each fun pair mem => ?_
    rw [each pair (perm.mem_iff.mp mem)]
    rfl
  refine ⟨_, by rw [write, written, Option.map_some], ?_⟩
  have filled' : (pairs.insertionSort ByKey).map (fun pair => quote pair.1 ++ ':' :: texts pair) ≠ [] :=
    fun none => filled (List.eq_nil_of_map_eq_nil none ▸ perm).symm.eq_nil
  have size := width_join filled'
  have braces : width ['\x7b'] = 1 ∧ width ['\x7d'] = 1 ∧ width [':'] = 1 := by decide
  have total : (((pairs.insertionSort ByKey).map fun pair => quote pair.1 ++ ':' :: texts pair).map
      fun part => width part + 1).sum =
        (pairs.map fun pair => width (quote pair.1) + width (texts pair) + 2).sum := by
    rw [List.map_map, ← (perm.map _).sum_nat]
    refine congrArg List.sum (List.map_congr_left fun pair _ => ?_)
    rw [Function.comp_apply, width_append, @width_cons ':', braces.2.2]
    omega
  rw [@width_cons '\x7b', width_append, braces.1, braces.2.1]
  omega

end Reproof.Library.Json
