import Reproof.Contracts.Documents

/-! Screen hierarchies: the runner's document as a tree of elements, and the walks over it. -/

namespace Reproof.Simple

open Library

structure SimpleError where
  code : String
  cause : String
  remedy : String

/-- `float(n)` of an integer that is too large raises no `SimpleError`. -/
inductive Raised
  | simple (error : SimpleError)
  | overflowError

/-- The coordinates stand under their `repr`. -/
structure Frame where
  x : String
  y : String
  width : String
  height : String

structure Element where
  elementType : String
  identifier : String
  label : String
  value : String
  placeholder : String
  frame : Frame
  isEnabled : Bool
  isSelected : Bool
  path : List Nat
  children : List Element

def autoIdPrefix : String := "rp."

def maxNodeCount : Nat := 8000

def maxDepth : Nat := 64

def invalid (detail : String) : Raised :=
  .simple ⟨"hierarchy_invalid", "화면 계층 데이터 형식이 올바르지 않습니다: " ++ detail,
    "실행기와 도구 버전이 같은지 확인하고 다시 실행하세요."⟩

def tooLarge (detail : String) : Raised :=
  .simple ⟨"hierarchy_too_large", "화면 계층이 너무 큽니다: " ++ detail,
    "요소가 아주 많은 화면에서는 더 단순한 화면에서 다시 시도하세요."⟩

/-- `node.get(key)`. -/
def get (node : List (String × Json)) (key : String) : Option Json :=
  (node.find? fun pair => pair.1 = key).map Prod.snd

def readText (node : List (String × Json)) (key : String) : Except Raised String :=
  match get node key with
  | some (.str value) => .ok value
  | _ => .error (invalid ("'" ++ key ++ "'는 문자열이어야 합니다."))

def readFlag (node : List (String × Json)) (key : String) : Except Raised Bool :=
  match get node key with
  | some (.bool value) => .ok value
  | _ => .error (invalid ("'" ++ key ++ "'는 true/false여야 합니다."))

def isNumber : Json → Bool
  | .int _ => true
  | .float _ => true
  | _ => false

/-- `float(n)`; the parameter gives the `repr` for an integer. -/
def toFloat (float : Int → Option String) : Json → Except Raised String
  | .int n => orFail (float n) .overflowError
  | .float repr => .ok repr
  | _ => .error (invalid "'frame'은 숫자 4개 목록이어야 합니다.")

def readFrame (float : Int → Option String) (node : List (String × Json)) : Except Raised Frame :=
  match get node "frame" with
  | some (.list [x, y, width, height]) => do
    require ([x, y, width, height].all isNumber) (invalid "'frame'은 숫자 4개 목록이어야 합니다.")
    let x ← toFloat float x
    let y ← toFloat float y
    let width ← toFloat float width
    let height ← toFloat float height
    pure ⟨x, y, width, height⟩
  | _ => .error (invalid "'frame'은 숫자 4개 목록이어야 합니다.")

mutual

/-- The element of a node at a path, and how many nodes have been counted with it. -/
def build (float : Int → Option String) : Json → List Nat → Nat → Except Raised (Element × Nat)
  | .dict node, path, counter => do
    require (path.length ≤ maxDepth) (tooLarge "깊이가 64를 넘습니다.")
    require (counter + 1 ≤ maxNodeCount) (tooLarge "요소가 8000개를 넘습니다.")
    let (children, counter) ← buildChildren float node path (counter + 1)
    let elementType ← readText node "type"
    let identifier ← readText node "identifier"
    let label ← readText node "label"
    let value ← readText node "value"
    let placeholder ← readText node "placeholder"
    let frame ← readFrame float node
    let isEnabled ← readFlag node "enabled"
    let isSelected ← readFlag node "selected"
    pure (⟨elementType, identifier, label, value, placeholder, frame, isEnabled, isSelected, path,
      children⟩, counter)
  | _, _, _ => .error (invalid "노드는 객체여야 합니다.")

/-- The elements of `node.get("children")`. -/
def buildChildren (float : Int → Option String) :
    List (String × Json) → List Nat → Nat → Except Raised (List Element × Nat)
  | [], _, _ => .error (invalid "'children'은 목록이어야 합니다.")
  | (key, value) :: node, path, counter =>
    if key = "children" then
      match value with
      | .list raw => buildEach float raw path 0 counter
      | _ => .error (invalid "'children'은 목록이어야 합니다.")
    else buildChildren float node path counter

def buildEach (float : Int → Option String) :
    List Json → List Nat → Nat → Nat → Except Raised (List Element × Nat)
  | [], _, _, counter => pure ([], counter)
  | child :: raw, path, index, counter => do
    let (element, counter) ← build float child (path ++ [index]) counter
    let (elements, counter) ← buildEach float raw path (index + 1) counter
    pure (element :: elements, counter)

end

def parseHierarchy (float : Int → Option String) (document : Json) : Except Raised Element :=
  Prod.fst <$> build float document [] 0

namespace Element

mutual

/-- The elements in pre-order. -/
def iterElements : Element → List Element
  | root@⟨_, _, _, _, _, _, _, _, _, children⟩ => root :: iterEach children

def iterEach : List Element → List Element
  | [] => []
  | child :: children => iterElements child ++ iterEach children

end

/-- The elements met on the way down from one, itself first. -/
def walk : Element → List Nat → Option (List Element)
  | node, [] => some [node]
  | node, index :: path => do
    let child ← node.children[index]?
    let chain ← walk child path
    some (node :: chain)

/-- `ancestors_of(root, element)`, where an index that is no child raises. -/
def ancestorsOf (root element : Element) : Option (List Element) := do
  let chain ← root.walk element.path.dropLast
  some (if element.path = [] then [] else chain.reverse)

/-- The element at a path. -/
def at? : Element → List Nat → Option Element
  | node, [] => some node
  | node, index :: path => node.children[index]?.bind fun child => at? child path

/-- An element at a path with its descendants at theirs. -/
inductive Located : List Nat → Element → Prop
  | mk {path : List Nat} {element : Element} (here : element.path = path)
      (each : ∀ index child, element.children[index]? = some child → Located (path ++ [index]) child) :
      Located path element

mutual

/-- Induction over the elements of a tree. -/
theorem induct {motive : Element → Prop}
    (step : ∀ element : Element, (∀ child ∈ element.children, motive child) → motive element) :
    ∀ element, motive element
  | ⟨_, _, _, _, _, _, _, _, _, children⟩ => step _ (inductEach step children)

theorem inductEach {motive : Element → Prop}
    (step : ∀ element : Element, (∀ child ∈ element.children, motive child) → motive element) :
    ∀ children : List Element, ∀ child ∈ children, motive child
  | [], _, mem => absurd mem List.not_mem_nil
  | first :: rest, _, mem =>
    match List.mem_cons.mp mem with
    | .inl same => same ▸ induct step first
    | .inr mem => inductEach step rest _ mem

end

theorem iterEach_eq {children : List Element} : iterEach children = children.flatMap iterElements := by
  induction children with
  | nil => rfl
  | cons child children ih => rw [iterEach, ih, List.flatMap_cons]

theorem iterElements_eq {root : Element} :
    root.iterElements = root :: root.children.flatMap iterElements := by
  cases root
  rw [iterElements, iterEach_eq]

theorem mem_iterElements {root e : Element} :
    e ∈ root.iterElements ↔ e = root ∨ ∃ child ∈ root.children, e ∈ child.iterElements := by
  rw [iterElements_eq, List.mem_cons, List.mem_flatMap]

theorem Located.path_eq {path : List Nat} {e : Element} (located : Located path e) : e.path = path := by
  cases located with
  | mk here => exact here

theorem Located.child {path : List Nat} {e child : Element} {index : Nat} (located : Located path e)
    (h : e.children[index]? = some child) : Located (path ++ [index]) child := by
  cases located with
  | mk _ each => exact each index child h

/-- What a path leads to is found under it. -/
theorem Located.at? {path : List Nat} {root e : Element} (located : Located path root)
    (mem : e ∈ root.iterElements) : ∃ rest, e.path = path ++ rest ∧ root.at? rest = some e := by
  induction root using induct generalizing path with
  | step root ih =>
    cases mem_iterElements.mp mem with
    | inl same =>
      subst same
      exact ⟨[], by rw [located.path_eq, List.append_nil], rfl⟩
    | inr below =>
      obtain ⟨child, inside, mem⟩ := below
      obtain ⟨index, found⟩ := List.mem_iff_getElem?.mp inside
      obtain ⟨rest, hpath, reached⟩ := ih child inside (located.child found) mem
      refine ⟨index :: rest, by rw [hpath, List.append_assoc, List.singleton_append], ?_⟩
      rw [Element.at?, found]
      exact reached

/-- Paths tell the elements of a tree apart. -/
theorem Located.path_inj {path : List Nat} {root e f : Element} (located : Located path root)
    (he : e ∈ root.iterElements) (hf : f ∈ root.iterElements) (same : e.path = f.path) : e = f := by
  obtain ⟨rest, hrest, found⟩ := located.at? he
  obtain ⟨other, hother, found'⟩ := located.at? hf
  have paths : rest = other := List.append_cancel_left (hrest.symm.trans (same.trans hother))
  exact Option.some.inj (found.symm.trans (paths ▸ found'))

theorem Located.under {path : List Nat} {root e : Element} (located : Located path root)
    (mem : e ∈ root.iterElements) : path <+: e.path := by
  obtain ⟨rest, hrest, -⟩ := located.at? mem
  exact ⟨rest, hrest.symm⟩

/-- An element stands once in the pre-order. -/
theorem Located.nodup {path : List Nat} {root : Element} (located : Located path root) :
    root.iterElements.Nodup := by
  induction root using induct generalizing path with
  | step root ih =>
    have below : ∀ (index : Nat) (child : Element), root.children[index]? = some child →
        ∀ e ∈ child.iterElements, path ++ [index] <+: e.path :=
      fun index child found e mem => (located.child found).under mem
    rw [iterElements_eq, List.nodup_cons, List.nodup_flatMap]
    refine ⟨fun mem => ?_, fun child inside => ?_, ?_⟩
    · obtain ⟨child, inside, mem⟩ := List.mem_flatMap.mp mem
      obtain ⟨index, found⟩ := List.mem_iff_getElem?.mp inside
      have longer := (below index child found root mem).length_le
      rw [located.path_eq, List.length_append, List.length_singleton] at longer
      omega
    · obtain ⟨index, found⟩ := List.mem_iff_getElem?.mp inside
      exact ih child inside (located.child found)
    · refine List.pairwise_iff_getElem.mpr fun i j hi hj less e left right => ?_
      have first := below i _ (List.getElem?_eq_getElem hi) e left
      have second := below j _ (List.getElem?_eq_getElem hj) e right
      have same := List.prefix_of_prefix_length_le first second (by simp)
      have indices := same.eq_of_length (by simp)
      have : i = j := List.singleton_inj.mp (List.append_cancel_left indices)
      omega

end Element

mutual

/-- A tree is built with every element at its path. -/
theorem build_located {float : Int → Option String} :
    ∀ {node : Json} {path : List Nat} {counter after : Nat} {element : Element},
      build float node path counter = .ok (element, after) → Element.Located path element
  | .dict node, path, counter, after, element, h => by
    simp only [build, bind_eq_ok, pure_eq_ok, Prod.mk.injEq, Prod.exists] at h
    obtain ⟨_, _, _, _, children, _, built, _, _, _, _, _, _, _, _, _, _, _, _, _, _, _, _, rfl, _⟩ := h
    exact .mk rfl (buildChildren_located built)
  | .null, _, _, _, _, h | .bool _, _, _, _, _, h | .int _, _, _, _, _, h | .float _, _, _, _, _, h
  | .str _, _, _, _, _, h | .list _, _, _, _, _, h => by
    rw [build] at h
    · nomatch h
    · nofun

theorem buildChildren_located {float : Int → Option String} :
    ∀ {node : List (String × Json)} {path : List Nat} {counter after : Nat} {children : List Element},
      buildChildren float node path counter = .ok (children, after) →
      ∀ (index : Nat) (child : Element), children[index]? = some child → Element.Located (path ++ [index]) child
  | [], _, _, _, _, h => nomatch h
  | (key, value) :: node, path, counter, after, children, h => by
    rw [buildChildren.eq_def] at h
    dsimp only at h
    split at h
    · split at h
      · intro index child found
        have located := buildEach_located h index child found
        rwa [Nat.zero_add] at located
      · nomatch h
    · exact buildChildren_located h

theorem buildEach_located {float : Int → Option String} :
    ∀ {raw : List Json} {path : List Nat} {start counter after : Nat} {children : List Element},
      buildEach float raw path start counter = .ok (children, after) →
      ∀ (index : Nat) (child : Element), children[index]? = some child →
        Element.Located (path ++ [start + index]) child
  | [], _, _, _, _, children, h => by
    simp only [buildEach, pure_eq_ok, Prod.mk.injEq] at h
    obtain ⟨rfl, -⟩ := h
    exact fun _ _ found => nomatch found
  | node :: raw, path, start, counter, after, children, h => by
    simp only [buildEach, bind_eq_ok, pure_eq_ok, Prod.mk.injEq, Prod.exists] at h
    obtain ⟨first, _, built, rest, _, others, rfl, -⟩ := h
    intro index child found
    cases index with
    | zero => exact Option.some.inj found ▸ build_located built
    | succ index =>
      have located := buildEach_located others index child found
      rwa [Nat.succ_add_eq_add_succ] at located

end

theorem parseHierarchy_located {float : Int → Option String} {document : Json} {root : Element}
    (h : parseHierarchy float document = .ok root) : Element.Located [] root := by
  simp only [parseHierarchy, map_eq_ok, Prod.exists] at h
  obtain ⟨_, _, built, rfl⟩ := h
  exact build_located built

end Reproof.Simple
