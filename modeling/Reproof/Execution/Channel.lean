import Reproof.Execution.Wire

/-! The two ends of a channel, with one call of `send` and one of `receive` in progress at an end, and
what comes through whatever stands between them. -/

namespace Reproof.Execution.Wire

open Library Contracts

/-- What `send` signs. -/
def body (runId : String) (direction : Role) (sequence : Nat) (message : Message) :
    List (String × Json) :=
  [("protocolVersion", .int 1), ("runId", .str runId), ("direction", .str direction.text),
    ("sequence", .int sequence), ("type", .str message.kind), ("payload", message.payload)]

/-- `struct.pack("!I", n)`. -/
def pack (n : Nat) : Bytes :=
  [.ofNat (n / 2 ^ 24), .ofNat (n / 2 ^ 16), .ofNat (n / 2 ^ 8), .ofNat n]

def unpack (raw : Bytes) : Nat := raw.foldl (fun n byte => 256 * n + byte.toNat) 0

/-- Where the call of `send` is: `_io` has bytes left, or has none. -/
inductive Sending
  | idle
  | writing (left : Bytes)
  | written
  deriving DecidableEq

/-- Where the call of `receive` is: in the first or the second `_io`, or behind both. -/
inductive Receiving
  | idle
  | size (got : Bytes)
  | record (size : Nat) (got : Bytes)
  | read (raw : Bytes)
  deriving DecidableEq

/-- A `Channel`. `attempted` and `delivered` are the arguments of the calls of `send` and the results
of those of `receive`, `raised` counts the calls that failed, `signed` and `verified` are the texts
whose code `send` has computed and `receive` has found right. -/
structure Channel where
  failed : Bool
  sent : Nat
  received : Nat
  sending : Sending
  receiving : Receiving
  attempted : List Message
  delivered : List Message
  raised : Nat
  signed : List Bytes
  verified : List Bytes

namespace Channel

def opened : Channel := ⟨false, 0, 0, .idle, .idle, [], [], 0, [], []⟩

def failSend (c : Channel) : Channel :=
  { c with failed := true, sending := .idle, raised := c.raised + 1 }

def failReceive (c : Channel) : Channel :=
  { c with failed := true, receiving := .idle, raised := c.raised + 1 }

section

variable (python : Interpreter) (key : Bytes) (runId : String) (role : Role)

/-- `send` up to the first pass of `_io`. -/
def send (message : Message) (c : Channel) : Channel :=
  let c := { c with attempted := c.attempted ++ [message] }
  if c.failed ∨ maxSequence ≤ c.sent then c.failSend
  else match validateMessage python role message with
    | .error _ => c.failSend
    | .ok () =>
      let pairs := body runId role c.sent message
      match canonical python (.dict pairs) with
      | none => c.failSend
      | some text =>
        let c := { c with signed := c.signed ++ [text] }
        match canonical python (.dict (pairs ++ [("mac", .str (python.hmac key text))])) with
        | none => c.failSend
        | some raw =>
          if 0 < raw.length ∧ raw.length ≤ maxFrameBytes then
            { c with sending := .writing (pack raw.length ++ raw) }
          else c.failSend

/-- A pass of the loop of `_io` in `send`: the socket takes `count` bytes, or the pass raises. -/
def write (count : Option Nat) (c : Channel) : Channel :=
  match c.sending, count with
  | .writing left, some (n + 1) =>
    if c.failed then c.failSend
    else if left.length ≤ n + 1 then { c with sending := .written }
    else { c with sending := .writing (left.drop (n + 1)) }
  | .writing _, _ => c.failSend
  | _, _ => c

/-- `send` from the last pass of `_io` on. -/
def sendDone (c : Channel) : Channel :=
  match c.sending with
  | .written => { c with sent := c.sent + 1, sending := .idle }
  | _ => c

/-- `receive` up to the first pass of `_io`. -/
def receive (c : Channel) : Channel :=
  if c.failed ∨ maxSequence ≤ c.received then c.failReceive
  else { c with receiving := .size [] }

/-- A pass of the loop of `_io` in `receive`: the socket gives `chunk`, or the pass raises. -/
def read (chunk : Option Bytes) (c : Channel) : Channel :=
  match c.receiving, chunk with
  | .size got, some chunk =>
    let got' := got ++ chunk.take (4 - got.length)
    if c.failed ∨ got' = got then c.failReceive
    else if got'.length < 4 then { c with receiving := .size got' }
    else if 0 < unpack got' ∧ unpack got' ≤ maxFrameBytes then
      { c with receiving := .record (unpack got') [] }
    else c.failReceive
  | .record size got, some chunk =>
    let got' := got ++ chunk.take (size - got.length)
    if c.failed ∨ got' = got then c.failReceive
    else if got'.length < size then { c with receiving := .record size got' }
    else { c with receiving := .read got' }
  | .idle, _ => c
  | .read _, _ => c
  | _, none => c.failReceive

/-- The record without its code, and the text that the code is for, when the code is right. -/
def authentic (raw : Bytes) : Option (List (String × Json) × Bytes) := do
  let value ← decodeJson python raw
  let pairs ← (exactly value ["protocolVersion", "runId", "direction", "sequence", "type",
    "payload", "mac"]).toOption
  let mac ← (validateDigest (← (item pairs "mac").toOption)).toOption
  let pairs := pairs.filter fun pair => pair.1 ≠ "mac"
  let text ← canonical python (.dict pairs)
  if mac = python.hmac key text then some (pairs, text) else none

/-- The message of a record that is bound to this place of the channel. -/
def bound (sequence : Nat) (pairs : List (String × Json)) : Option Message := do
  match ← (item pairs "protocolVersion").toOption, ← (item pairs "runId").toOption,
      ← (item pairs "direction").toOption, ← (item pairs "sequence").toOption,
      ← (item pairs "type").toOption with
  | .int version, .str run, .str direction, .int number, .str kind =>
    if version = 1 ∧ number = sequence ∧ run = runId ∧ direction = role.peer.text then do
      let message := ⟨kind, ← (item pairs "payload").toOption⟩
      let _ ← (validateMessage python role.peer message).toOption
      some message
    else none
  | _, _, _, _, _ => none

/-- `receive` from the last pass of `_io` on. -/
def receiveDone (c : Channel) : Channel :=
  match c.receiving with
  | .read raw =>
    match authentic python key raw with
    | none => c.failReceive
    | some (pairs, text) =>
      let c := { c with verified := c.verified ++ [text] }
      match bound python runId role c.received pairs with
      | none => c.failReceive
      | some message =>
        { c with
          received := c.received + 1
          receiving := .idle
          delivered := c.delivered ++ [message] }
  | _ => c

end

/-- What happens at an end. A call waits while another of its direction is in progress. -/
inductive Event
  | send (message : Message)
  | write (count : Option Nat)
  | sendDone
  | receive
  | read (chunk : Option Bytes)
  | receiveDone

def step (python : Interpreter) (key : Bytes) (runId : String) (role : Role) (c : Channel) :
    Event → Channel
  | .send message => if c.sending = .idle then c.send python key runId role message else c
  | .write count => c.write count
  | .sendDone => c.sendDone
  | .receive => if c.receiving = .idle then c.receive else c
  | .read chunk => c.read chunk
  | .receiveDone => c.receiveDone python key runId role

end Channel

end Reproof.Execution.Wire
