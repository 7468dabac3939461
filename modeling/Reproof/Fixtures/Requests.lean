import Reproof.Contracts.Documents
import Reproof.Fixtures.Settled
import Reproof.Library.Encoder

/-! What `_operate` admits, and the request that its adapter makes of it. -/

namespace Reproof.Fixtures

open Contracts Library

/-- `MAX_PAYLOAD_BYTES`. -/
def maxPayloadBytes : Nat := 64 * 1024

/-- What the recursion limit leaves to each walk of a payload: to the encoder and to `deepcopy` in
`_operate`, to `deepcopy` in `wire`, and to the encoder in `_request`. -/
structure Stack where
  payload : Nat
  copied : Nat
  recopied : Nat
  wire : Nat

inductive Raised
  | fixture (error : FixtureError)
  | recursion
  deriving DecidableEq

/-- `_canonical`. -/
def canonical (depth : Nat) (value : Json) : Except Raised Bytes :=
  match value.encode depth with
  | .error .recursion => .error .recursion
  | .error .value => .error (.fixture ⟨"invalid_fixture", "Fixture payload is invalid"⟩)
  | .ok text => do
    let encoded := utf8 (String.ofList text)
    require (encoded.length ≤ maxPayloadBytes)
      (.fixture ⟨"invalid_fixture", "Fixture payload exceeds its bound"⟩)
    pure encoded

/-- `copy.deepcopy`. -/
def deepcopy (depth : Nat) (value : Json) : Except Raised Json := do
  require (value.Nested depth) .recursion
  pure value

def Kind.name : Kind → String
  | prepare => "prepare"
  | check => "check"
  | cleanup => "cleanup"

/-- A request with its payload. -/
structure PayloadRequest extends FixtureOperationRequest where
  idempotencyKey : String
  payload : Json

/-- `wire`. -/
def PayloadRequest.wire (request : PayloadRequest) (stack : Stack) (includePayload : Bool) :
    Except Raised Json := do
  let value := [("operationId", .str request.operationId), ("allocationId", .str request.allocationId),
    ("generation", .int request.generation), ("idempotencyKey", .str request.idempotencyKey),
    ("operation", .str request.operation.name), ("recipeId", .str request.recipeId),
    ("payloadDigest", .str request.payloadDigest)]
  if includePayload then
    let payload ← deepcopy stack.recopied request.payload
    pure (.dict (value ++ [("payload", payload)]))
  else
    pure (.dict value)

def checkTimeout (timeoutSeconds : Rat) : Except Raised Unit :=
  require (0 < timeoutSeconds ∧ timeoutSeconds ≤ 60)
    (.fixture ⟨"invalid_timeout", "Fixture timeout is invalid"⟩)

/-- `execute`, up to the connection: the body that is sent. -/
def PayloadRequest.body (request : PayloadRequest) (stack : Stack) (timeoutSeconds : Rat) :
    Except Raised Bytes := do
  let document ← request.wire stack true
  checkTimeout timeoutSeconds
  canonical stack.wire document

/-- How far `_operate` has come without an answer of the service. -/
inductive Sending
  | refused (raised : Raised)
  | answered (existing : Operation)
  | unfenced
  | unsent (raised : Raised)
  | sent (body : Bytes)

/-- The digest of an operation's generation, identity and payload. -/
def idempotencyKey (python : Interpreter) (stack : Stack) (generation : Nat)
    (operationId payloadDigest : String) : Except Raised String := do
  let key ← canonical stack.payload (.dict [("allocationGeneration", .int generation),
    ("operationId", .str operationId), ("payloadDigest", .str payloadDigest)])
  pure (python.sha256 key)

namespace Store

variable (store : Store)

/-- `_operate`, up to the end of its transaction, with its payload. -/
def admitPayload (python : Interpreter) (stack : Stack) (plan : TrustedFixturePlan)
    (allocation : FixtureAllocation) (recipeId : String) (kind : Kind) (payload : Json)
    (operationId : String) (timeoutSeconds : Rat) (now : Int) :
    Except Raised (Store × Option Operation × PayloadRequest) := do
  require (isIdentifier operationId)
    (.fixture ⟨"invalid_fixture", "Invalid fixture operation identity"⟩)
  checkTimeout timeoutSeconds
  let payloadBytes ← canonical stack.payload payload
  let payloadDigest := python.sha256 payloadBytes
  let idempotencyKey ← idempotencyKey python stack allocation.generation operationId payloadDigest
  let (store, existing) ← (store.admitOperation plan allocation recipeId kind payloadDigest
    operationId now).mapError .fixture
  pure (store, existing, ⟨⟨operationId, allocation.allocationId, allocation.generation, kind, recipeId,
    payloadDigest⟩, idempotencyKey, payload⟩)

/-- `_operate` of a new operation, up to the connection. -/
def sendOperation (stack : Stack) (plan : TrustedFixturePlan) (allocation : FixtureAllocation)
    (request : PayloadRequest) (timeoutSeconds : Rat) (now : Int) : Store × Sending :=
  if ¬ (plan.remoteFencing ∧ plan.terminalStatus) then
    ((store.sections [.finishUnknown allocation request.operationId "adapter_unfenced" now]).1, .unfenced)
  else
    match deepcopy stack.copied request.payload with
    | .error raised => (store, .unsent raised)
    | .ok payload =>
      let dispatched := (store.sections [.dispatch allocation request.operationId]).1
      match { request with payload }.body stack timeoutSeconds with
      | .ok body => (dispatched, .sent body)
      | .error .recursion => (dispatched, .unsent .recursion)
      | .error (.fixture error) =>
        -- no check before the connection raises `fixture_timeout` or `fixture_transport`
        ((dispatched.sections [.finishUnknown allocation request.operationId "protocol_unknown" now]).1,
          .unsent (.fixture error))

/-- `_operate`, up to the connection. -/
def operatePayload (python : Interpreter) (stack : Stack) (plan : TrustedFixturePlan)
    (allocation : FixtureAllocation) (recipeId : String) (kind : Kind) (payload : Json)
    (operationId : String) (timeoutSeconds : Rat) (now : Int) : Store × Sending :=
  match store.admitPayload python stack plan allocation recipeId kind payload operationId timeoutSeconds
      now with
  | .error raised => (store, .refused raised)
  | .ok (store, some existing, _) => (store, .answered existing)
  | .ok (store, none, request) => store.sendOperation stack plan allocation request timeoutSeconds now

end Store

/-- The bytes of a text between quotation marks. -/
def quoted (text : String) : Nat := Json.width (Json.quote text)

/-- The bytes of a request but for its payload. -/
def PayloadRequest.envelope (request : PayloadRequest) : Nat :=
  117 + (Nat.toDigits 10 request.generation).length + quoted request.operationId +
    quoted request.allocationId + quoted request.idempotencyKey + quoted request.operation.name +
    quoted request.recipeId + quoted request.payloadDigest

/-- The payload fits its request, and the recursion limit its copies and its text. -/
structure PayloadRequest.Fits (request : PayloadRequest) (stack : Stack) : Prop where
  recopied : request.payload.Nested stack.recopied
  deep : 0 < stack.wire ∧ request.payload.Nested (stack.wire - 1)
  size : ∃ text, request.payload.write stack.payload = some text ∧
    Json.width text + request.envelope ≤ maxPayloadBytes

section Sending

variable {stack : Stack} {value : Json} {depth : Nat} {raw : Bytes} {request : PayloadRequest}
  {timeoutSeconds : Rat}

theorem canonical_eq_ok : canonical depth value = .ok raw ↔
    ∃ text, value.write depth = some text ∧ Json.width text ≤ maxPayloadBytes ∧
      raw = utf8 (String.ofList text) := by
  have size (text : List Char) : (utf8 (String.ofList text)).length = Json.width text := by
    rw [utf8_ofList]
    rfl
  rw [canonical]
  split
  · rename_i failed
    simp only [reduceCtorEq, false_iff, ← Json.encode_eq_ok, failed, not_exists, false_and,
      not_false_eq_true, implies_true]
  · rename_i failed
    simp only [reduceCtorEq, false_iff, ← Json.encode_eq_ok, failed, not_exists, false_and,
      not_false_eq_true, implies_true]
  · rename_i text done
    simp only [bind_eq_ok, require_eq_ok, pure_eq_ok, exists_const, size, ← Json.encode_eq_ok, done,
      Except.ok.injEq, exists_eq_left']
    exact and_congr_right fun _ => eq_comm

theorem deepcopy_eq_ok {copy : Json} :
    deepcopy depth value = .ok copy ↔ value.Nested depth ∧ value = copy := by
  simp only [deepcopy, bind_eq_ok, require_eq_ok, pure_eq_ok, exists_const]

/-- The fields of a request with its payload. -/
def PayloadRequest.fields (request : PayloadRequest) : List (String × Json) :=
  [("operationId", .str request.operationId), ("allocationId", .str request.allocationId),
    ("generation", .int request.generation), ("idempotencyKey", .str request.idempotencyKey),
    ("operation", .str request.operation.name), ("recipeId", .str request.recipeId),
    ("payloadDigest", .str request.payloadDigest), ("payload", request.payload)]

theorem PayloadRequest.wire_eq_ok {document : Json} : request.wire stack true = .ok document ↔
    request.payload.Nested stack.recopied ∧ .dict request.fields = document := by
  simp only [wire, if_true, bind_eq_ok, pure_eq_ok, deepcopy_eq_ok, and_assoc, exists_and_left,
    exists_eq_left', List.cons_append, List.nil_append, fields]

theorem PayloadRequest.body_eq_ok (timely : 0 < timeoutSeconds ∧ timeoutSeconds ≤ 60) :
    (∃ raw, request.body stack timeoutSeconds = .ok raw) ↔ request.payload.Nested stack.recopied ∧
      ∃ text, (Json.dict request.fields).write stack.wire = some text ∧
        Json.width text ≤ maxPayloadBytes := by
  simp only [body, bind_eq_ok, wire_eq_ok, checkTimeout, require_eq_ok, canonical_eq_ok, exists_const]
  constructor
  · rintro ⟨raw, _, ⟨nested, rfl⟩, -, text, written, room, -⟩
    exact ⟨nested, text, written, room⟩
  · rintro ⟨nested, text, written, room⟩
    exact ⟨_, _, ⟨nested, rfl⟩, timely, text, written, room, rfl⟩

theorem width_digits (n : Nat) : Json.width (Nat.toDigits 10 n) = (Nat.toDigits 10 n).length := by
  have digits : ∀ c ∈ Nat.toDigits 10 n, c.isDigit :=
    fun c mem => Nat.isDigit_of_mem_toDigits (by decide) (by decide) mem
  revert digits
  generalize Nat.toDigits 10 n = text
  intro digits
  induction text with
  | nil => rfl
  | cons c text ih =>
    rw [List.forall_mem_cons] at digits
    have one : Json.width [c] = 1 := by
      rw [Json.width, List.flatMap_singleton, String.length_utf8EncodeChar, Char.utf8Size_eq_one_iff]
      have small := digits.1
      simp only [Char.isDigit, Bool.and_eq_true, decide_eq_true_eq] at small
      exact UInt32.le_trans small.2 (by decide)
    rw [Json.width_cons, one, ih digits.2, List.length_cons, Nat.add_comm]

theorem PayloadRequest.width_fields {text digits : List Char} {room : Nat}
    (written : request.payload.write stack.payload = some text)
    (number : Json.integer request.generation = some digits) (nested : request.payload.Nested room) :
    ∃ wire, (Json.dict request.fields).write (room + 1) = some wire ∧
      Json.width wire = Json.width text + request.envelope := by
  have digits_eq : digits = Nat.toDigits 10 request.generation := by
    rw [Json.integer] at number
    simp only [Int.natAbs_natCast, Int.natCast_nonneg, not_lt.mpr, if_false, Option.ite_none_right_eq_some,
      Option.some.injEq] at number
    exact number.2.symm
  have payload := (Json.write_iff_nested written).mpr nested
  have string (value : String) : Json.write room (.str value) = some (Json.quote value) :=
    Json.write_of_scalar rfl room
  have whole : Json.write room (.int request.generation) = some digits :=
    @Json.write_of_scalar (.int request.generation) _ number room
  have each : ∀ pair ∈ request.fields, Json.write room pair.2 = some ((Json.write room pair.2).getD []) := by
    simp only [fields, List.forall_mem_cons, string, whole, payload, Option.getD_some]
    exact ⟨trivial, trivial, trivial, trivial, trivial, trivial, trivial, trivial,
      fun _ mem => absurd mem List.not_mem_nil⟩
  obtain ⟨wire, wired, size⟩ := Json.write_dict (List.cons_ne_nil _ _) each
  refine ⟨wire, wired, ?_⟩
  have keys : Json.width (Json.quote "operationId") = 13 ∧ Json.width (Json.quote "allocationId") = 14 ∧
      Json.width (Json.quote "generation") = 12 ∧ Json.width (Json.quote "idempotencyKey") = 16 ∧
      Json.width (Json.quote "operation") = 11 ∧ Json.width (Json.quote "recipeId") = 10 ∧
      Json.width (Json.quote "payloadDigest") = 15 ∧ Json.width (Json.quote "payload") = 9 := by decide
  rw [size]
  simp only [List.map_cons, List.map_nil, List.sum_cons, List.sum_nil, keys, string, whole, payload,
    Option.getD_some, digits_eq, width_digits, envelope, quoted]
  omega

/-- The adapter takes a request whose payload is in the journal exactly where the payload fits it. -/
theorem PayloadRequest.body_iff {text digits : List Char}
    (timely : 0 < timeoutSeconds ∧ timeoutSeconds ≤ 60)
    (written : request.payload.write stack.payload = some text)
    (number : Json.integer request.generation = some digits) :
    (∃ raw, request.body stack timeoutSeconds = .ok raw) ↔ request.Fits stack := by
  rw [body_eq_ok timely]
  constructor
  · rintro ⟨recopied, wire, wired, room⟩
    cases wires : stack.wire with
    | zero =>
      rw [wires] at wired
      exact nomatch wired
    | succ depth =>
      rw [wires] at wired
      have nested : request.payload.Nested depth := Json.nested_of_write wired ("payload", request.payload)
        (by simp [fields])
      obtain ⟨wire', wired', size⟩ := width_fields written number nested
      cases wired.symm.trans wired'
      exact ⟨recopied, by rw [wires]; exact ⟨depth.succ_pos, nested⟩, text, written, size ▸ room⟩
  · rintro ⟨recopied, ⟨deep, nested⟩, text', written', room⟩
    cases written.symm.trans written'
    obtain ⟨wire, wired, size⟩ := width_fields written number nested
    rw [Nat.sub_add_cancel deep] at wired
    exact ⟨recopied, wire, wired, size ▸ room⟩

variable {store store' : Store} {python : Interpreter} {plan : TrustedFixturePlan}
  {allocation : FixtureAllocation} {recipeId operationId : String} {kind : Kind} {payload : Json}
  {now : Int}

/-- What is known of an admitted operation and its request. -/
theorem Store.admitPayload_ok {existing : Option Operation}
    (admits : store.admitPayload python stack plan allocation recipeId kind payload operationId
      timeoutSeconds now = .ok (store', existing, request)) :
    (0 < timeoutSeconds ∧ timeoutSeconds ≤ 60) ∧
      (∃ text, request.payload.write stack.payload = some text) ∧
      ∃ digits, Json.integer request.generation = some digits := by
  simp only [admitPayload, checkTimeout, bind_eq_ok, require_eq_ok, pure_eq_ok, canonical_eq_ok,
    idempotencyKey, exists_const, Prod.mk.injEq] at admits
  obtain ⟨-, timely, _, ⟨text, written, -⟩, _, ⟨_, ⟨wire, wired, -⟩, -⟩, _, -, -, -, rfl⟩ := admits
  refine ⟨timely, ⟨text, written⟩, ?_⟩
  cases depth : stack.payload with
  | zero =>
    rw [depth] at wired
    cases wired
  | succ room =>
    rw [depth] at wired
    obtain ⟨digits, number⟩ := Json.write_item wired ("allocationGeneration", .int allocation.generation)
      (.head _)
    exact ⟨digits, Json.write_int.symm.trans number⟩

/-- The adapter takes the request of an admitted operation exactly where the payload fits it, and the
operation is sent exactly where the adapter is fenced and the payload can be copied as well. -/
theorem Store.operatePayload_sends
    (admits : store.admitPayload python stack plan allocation recipeId kind payload operationId
      timeoutSeconds now = .ok (store', none, request)) :
    ((∃ body, request.body stack timeoutSeconds = .ok body) ↔ request.Fits stack) ∧
      ((∃ after body, store.operatePayload python stack plan allocation recipeId kind payload operationId
        timeoutSeconds now = (after, .sent body)) ↔
        (plan.remoteFencing ∧ plan.terminalStatus) ∧ request.payload.Nested stack.copied ∧
          request.Fits stack) := by
  obtain ⟨timely, ⟨text, written⟩, digits, number⟩ := admitPayload_ok admits
  have takes := PayloadRequest.body_iff timely written number
  refine ⟨takes, ?_⟩
  rw [operatePayload, admits]
  simp only [sendOperation]
  by_cases fenced : plan.remoteFencing ∧ plan.terminalStatus
  · rw [if_neg (not_not.mpr fenced)]
    by_cases copies : request.payload.Nested stack.copied
    · rw [deepcopy_eq_ok.mpr ⟨copies, rfl⟩, ← takes]
      dsimp only
      constructor
      · rintro ⟨after, body, sent⟩
        split at sent
        · rename_i body' accepted
          exact ⟨fenced, copies, body', accepted⟩
        · cases congrArg Prod.snd sent
        · cases congrArg Prod.snd sent
      · rintro ⟨-, -, body, accepted⟩
        rw [accepted]
        exact ⟨_, _, rfl⟩
    · have failed : deepcopy stack.copied request.payload = .error .recursion := by
        rw [deepcopy, require, if_neg copies]
        rfl
      rw [failed]
      constructor
      · rintro ⟨after, body, sent⟩
        cases congrArg Prod.snd sent
      · exact fun holds => absurd holds.2.1 copies
  · rw [if_pos fenced]
    constructor
    · rintro ⟨after, body, sent⟩
      cases congrArg Prod.snd sent
    · exact fun holds => absurd holds.1 fenced

/-- An operation that the adapter refuses is finished as unknown. -/
theorem Store.sendOperation_refused {error : FixtureError}
    (fenced : plan.remoteFencing ∧ plan.terminalStatus) (copies : request.payload.Nested stack.copied)
    (refused : request.body stack timeoutSeconds = .error (.fixture error)) :
    store.sendOperation stack plan allocation request timeoutSeconds now =
      (((store.sections [.dispatch allocation request.operationId]).1.sections
        [.finishUnknown allocation request.operationId "protocol_unknown" now]).1,
        .unsent (.fixture error)) := by
  rw [sendOperation, if_neg (not_not.mpr fenced), deepcopy_eq_ok.mpr ⟨copies, rfl⟩]
  dsimp only
  rw [refused]

theorem canonical_exceeds {text : List Char} (written : value.write depth = some text)
    (large : maxPayloadBytes < Json.width text) : canonical depth value =
      .error (.fixture ⟨"invalid_fixture", "Fixture payload exceeds its bound"⟩) := by
  rw [canonical, Json.encode_eq_ok.mpr written]
  have size : (utf8 (String.ofList text)).length = Json.width text := by
    rw [utf8_ofList]
    rfl
  simp only [size, require, if_neg (not_le.mpr large)]
  rfl

end Sending

section Example

/-- A text of one letter. -/
def letters (n : Nat) : Json := .str (String.ofList (List.replicate n 'a'))

theorem write_letters {depth n : Nat} :
    ∃ text, (letters n).write depth = some text ∧ Json.width text = n + 2 := by
  refine ⟨_, Json.write_of_scalar rfl depth, ?_⟩
  have plain : Json.width ((List.replicate n 'a').flatMap Json.escape) = n := by
    induction n with
    | zero => rfl
    | succ n ih =>
      have one : Json.width (Json.escape 'a') = 1 := by decide
      rw [List.replicate_succ, List.flatMap_cons, Json.width_append, ih, one, Nat.add_comm]
  have mark : Json.width ['"'] = 1 := by decide
  rw [Json.quote, String.toList_ofList, Json.width_cons, Json.width_append, plain, mark]
  omega

/-- An interpreter of one digest. -/
def oneDigest : Interpreter where
  lower := id
  casefold := id
  nfc := id
  float := String.ofList
  depth := 900
  sha256 _ := emptyPayloadDigest
  hmac _ _ := ""

def roomy : Stack := ⟨900, 300, 300, 900⟩

/-- The store with one reservation. -/
def reserved : Store := Store.empty.step (.reserve accountPlan "owner" "device" "allocation_1" 1)

def letterRequest (payload : Json) : PayloadRequest :=
  ⟨⟨"prepare_1", "allocation_1", 1, .prepare, "account", emptyPayloadDigest⟩, emptyPayloadDigest, payload⟩

def admitting : Event :=
  .admitOperation accountPlan accountAllocation "account" .prepare emptyPayloadDigest "prepare_1" 2

theorem reserved_admits {payload : Json} {raw : Bytes} (h : canonical roomy.payload payload = .ok raw) :
    reserved.admitPayload oneDigest roomy accountPlan accountAllocation "account" .prepare payload
      "prepare_1" 10 2 = .ok (reserved.step admitting, none, letterRequest payload) := by
  have key : idempotencyKey oneDigest roomy accountAllocation.generation "prepare_1"
      emptyPayloadDigest = .ok emptyPayloadDigest := by
    decide +kernel
  have timely : checkTimeout 10 = .ok () := by rfl
  have name : isIdentifier "prepare_1" := by decide
  have row : reserved.admitOperation accountPlan accountAllocation "account" .prepare emptyPayloadDigest
      "prepare_1" 2 = .ok (reserved.step admitting, none) := by rfl
  rw [Store.admitPayload, h, timely, require, if_pos name]
  simp only [oneDigest] at key row ⊢
  rw [Store.ok_bind, Store.ok_bind, Store.ok_bind, key, Store.ok_bind, row]
  rfl

/-- The store after an operation that the adapter refused. -/
def leftUnknown : Store :=
  (((reserved.step admitting).sections [.dispatch accountAllocation "prepare_1"]).1.sections
    [.finishUnknown accountAllocation "prepare_1" "protocol_unknown" 2]).1

/-- An empty payload fits its request. -/
theorem Store.operatePayload_sends_empty :
    ∃ body, (letterRequest (.dict [])).body roomy 10 = .ok body := by
  have admits := @reserved_admits (.dict []) [0x7b, 0x7d] (by decide +kernel)
  refine (operatePayload_sends admits).1.mpr ⟨?_, ⟨by decide, ?_⟩, _, rfl, by decide +kernel⟩
  · exact fun _ mem => absurd mem List.not_mem_nil
  · exact fun _ mem => absurd mem List.not_mem_nil

/-- A text that just fits the bound of the payload is admitted, is not sent, and leaves its operation
unknown and its slot in quarantine. -/
theorem Store.operatePayload_unsent : ∃ request after,
    reserved.admitPayload oneDigest roomy accountPlan accountAllocation "account" .prepare (letters 65530)
      "prepare_1" 10 2 = .ok (reserved.step admitting, none, request) ∧
    request.body roomy 10 =
      .error (.fixture ⟨"invalid_fixture", "Fixture payload exceeds its bound"⟩) ∧
    reserved.operatePayload oneDigest roomy accountPlan accountAllocation "account" .prepare
      (letters 65530) "prepare_1" 10 2 =
        (after, .unsent (.fixture ⟨"invalid_fixture", "Fixture payload exceeds its bound"⟩)) ∧
    (after.operation? "prepare_1").map Operation.state = some .unknown ∧
    (after.allocation? "allocation_1").map Allocation.state = some .quarantined := by
  obtain ⟨text, written, size⟩ := @write_letters roomy.payload 65530
  have admits := reserved_admits (canonical_eq_ok.mpr ⟨text, written, size ▸ by decide, rfl⟩)
  obtain ⟨wire, wired, width⟩ := @PayloadRequest.width_fields roomy (letterRequest (letters 65530)) text
    ['1'] 899 written (by decide) trivial
  have large : maxPayloadBytes < Json.width wire := by
    rw [width, size, PayloadRequest.envelope, maxPayloadBytes]
    omega
  have refused : (letterRequest (letters 65530)).body roomy 10 =
      .error (.fixture ⟨"invalid_fixture", "Fixture payload exceeds its bound"⟩) := by
    have document := (@PayloadRequest.wire_eq_ok roomy (letterRequest (letters 65530)) _).mpr ⟨trivial, rfl⟩
    have timely : checkTimeout 10 = .ok () := by rfl
    rw [PayloadRequest.body, document, ok_bind, timely, ok_bind]
    exact canonical_exceeds wired large
  refine ⟨_, leftUnknown, admits, refused, ?_, by decide +kernel, by decide +kernel⟩
  rw [operatePayload, admits]
  exact sendOperation_refused ⟨rfl, rfl⟩ trivial refused

end Example

end Reproof.Fixtures
