import Reproof.Execution.Channel

/-! What the ends of a channel return is what the other end was given, in that order. -/

namespace Reproof.Execution.Wire

open Library Contracts

/-- Both ends of one channel. -/
structure Link where
  host : Channel
  guest : Channel

namespace Link

def opened : Link := ⟨.opened, .opened⟩

def channel (link : Link) : Role → Channel
  | .host => link.host
  | .guest => link.guest

section

variable (python : Interpreter) (key : Bytes) (runId : String)

def step (link : Link) : Role × Channel.Event → Link
  | (.host, event) => { link with host := link.host.step python key runId .host event }
  | (.guest, event) => { link with guest := link.guest.step python key runId .guest event }

def run (link : Link) (events : List (Role × Channel.Event)) : Link :=
  events.foldl (step python key runId) link

end

/-- No code was found right but those that an end has computed. -/
def Unforged (link : Link) : Prop :=
  ∀ role, ∀ text ∈ (link.channel role).verified, text ∈ link.host.signed ∨ text ∈ link.guest.signed

end Link

/-- The same message, with its payload the same JSON value. -/
structure Message.Same (a b : Message) : Prop where
  kind : a.kind = b.kind
  payload : a.payload.Same b.payload

namespace Channel

variable {python : Interpreter} {key : Bytes} {runId : String} {role : Role} {c : Channel}
  {message : Message}

/-- The texts signed are those of the first messages, and a call in progress has signed the last. -/
structure Signs (python : Interpreter) (runId : String) (role : Role) (c : Channel) : Prop where
  texts : ∀ i text, c.signed[i]? = some text → ∃ message, c.attempted[i]? = some message ∧
    canonical python (.dict (body runId role i message)) = some text
  idle : ¬ c.failed → c.sending = .idle →
    c.attempted.length = c.sent ∧ c.signed.length = c.sent
  busy : c.sending ≠ .idle → c.attempted.length = c.sent + 1 ∧ c.signed.length = c.sent + 1

/-- Each message returned was bound to its place by a text whose code was right. -/
structure Checks (python : Interpreter) (runId : String) (role : Role) (c : Channel) : Prop where
  length : c.delivered.length = c.received
  bound : ∀ i message, c.delivered[i]? = some message → ∃ pairs, ∃ text ∈ c.verified,
    canonical python (.dict pairs) = some text ∧ Channel.bound python runId role i pairs = some message

/-- Once a call has failed, a call that has bytes left to move does not succeed. -/
structure Settles (before after : Channel) : Prop where
  failed : after.failed
  read : ∀ raw, after.receiving = .read raw → before.receiving = .read raw ∧
    after.delivered = before.delivered
  delivered : after.delivered = before.delivered ∨
    ∃ raw message, before.receiving = .read raw ∧ after.delivered = before.delivered ++ [message]
  written : after.sending = .written → before.sending = .written ∧ after.sent = before.sent
  sent : after.sent = before.sent ∨ before.sending = .written ∧ after.sent = before.sent + 1

/-- One thing that happens at an end. -/
inductive Moved (python : Interpreter) (runId : String) (role : Role) : Channel → Channel → Prop
  | stay (c : Channel) : Moved python runId role c c
  | refuse {c : Channel} (message : Message) (idle : c.sending = .idle) :
      Moved python runId role c { c with attempted := c.attempted ++ [message] }.failSend
  | spoil {c : Channel} (message : Message) (text : Bytes) (idle : c.sending = .idle)
      (unfailed : ¬ c.failed) (signs : canonical python (.dict (body runId role c.sent message)) = some text) :
      Moved python runId role c
        { c with attempted := c.attempted ++ [message], signed := c.signed ++ [text] }.failSend
  | start {c : Channel} (message : Message) (text left : Bytes) (idle : c.sending = .idle)
      (unfailed : ¬ c.failed) (signs : canonical python (.dict (body runId role c.sent message)) = some text) :
      Moved python runId role c
        { c with
          attempted := c.attempted ++ [message]
          signed := c.signed ++ [text]
          sending := .writing left }
  | write {c : Channel} {left : Bytes} (sending : Sending) (busy : c.sending = .writing left)
      (unfailed : ¬ c.failed) (moving : sending ≠ .idle) :
      Moved python runId role c { c with sending }
  | failSend {c : Channel} {left : Bytes} (busy : c.sending = .writing left) :
      Moved python runId role c c.failSend
  | sendDone {c : Channel} (written : c.sending = .written) :
      Moved python runId role c { c with sent := c.sent + 1, sending := .idle }
  | read {c : Channel} (receiving : Receiving) (unfailed : ¬ c.failed) :
      Moved python runId role c { c with receiving }
  | failReceive (c : Channel) : Moved python runId role c c.failReceive
  | reject {c : Channel} (text : Bytes) :
      Moved python runId role c { c with verified := c.verified ++ [text] }.failReceive
  | deliver {c : Channel} {raw : Bytes} (pairs : List (String × Json)) (text : Bytes)
      (message : Message) (read : c.receiving = .read raw)
      (text_eq : canonical python (.dict pairs) = some text)
      (fits : Channel.bound python runId role c.received pairs = some message) :
      Moved python runId role c
        { c with
          verified := c.verified ++ [text]
          received := c.received + 1
          receiving := .idle
          delivered := c.delivered ++ [message] }

theorem send_moved (idle : c.sending = .idle) :
    Moved python runId role c (c.send python key runId role message) := by
  unfold send
  dsimp only
  by_cases stopped : c.failed ∨ maxSequence ≤ c.sent
  · rw [if_pos stopped]
    exact .refuse message idle
  · have unfailed : ¬ c.failed := fun failed => stopped (.inl failed)
    rw [if_neg stopped]
    split
    case h_1 => exact .refuse message idle
    case h_2 =>
      split
      case h_1 => exact .refuse message idle
      case h_2 text signs =>
        split
        case h_1 => exact .spoil message text idle unfailed signs
        case h_2 raw _ =>
          split_ifs
          · exact .start message text _ idle unfailed signs
          · exact .spoil message text idle unfailed signs

theorem write_moved {count : Option Nat} : Moved python runId role c (c.write count) := by
  unfold write
  split
  case h_1 left n busy =>
    split_ifs with failed all
    · exact .failSend busy
    · exact .write .written busy failed (nomatch ·)
    · exact .write _ busy failed (nomatch ·)
  case h_2 busy _ => exact .failSend busy
  case h_3 => exact .stay c

theorem sendDone_moved : Moved python runId role c c.sendDone := by
  unfold sendDone
  split
  case h_1 written => exact .sendDone written
  case h_2 => exact .stay c

theorem receive_moved : Moved python runId role c c.receive := by
  unfold receive
  split_ifs with failed
  · exact .failReceive c
  · exact .read _ fun h => failed (.inl h)

theorem read_moved {chunk : Option Bytes} : Moved python runId role c (c.read chunk) := by
  unfold read
  split
  case h_1 =>
    dsimp only
    split_ifs with failed short size
    · exact .failReceive c
    · exact .read _ fun h => failed (.inl h)
    · exact .read _ fun h => failed (.inl h)
    · exact .failReceive c
  case h_2 =>
    dsimp only
    split_ifs with failed short
    · exact .failReceive c
    · exact .read _ fun h => failed (.inl h)
    · exact .read _ fun h => failed (.inl h)
  case h_3 => exact .stay c
  case h_4 => exact .stay c
  case h_5 => exact .failReceive c

theorem authentic_text {raw text : Bytes} {pairs : List (String × Json)}
    (h : authentic python key raw = some (pairs, text)) :
    canonical python (.dict pairs) = some text := by
  simp only [authentic, Option.bind_eq_bind, Option.bind_eq_some_iff, Option.ite_none_right_eq_some] at h
  obtain ⟨_, _, _, _, _, _, _, _, _, found, _, same⟩ := h
  cases same
  exact found

theorem receiveDone_moved : Moved python runId role c (c.receiveDone python key runId role) := by
  unfold receiveDone
  split
  case h_1 raw read =>
    split
    case h_1 => exact .failReceive c
    case h_2 pairs text valid =>
      dsimp only
      split
      case h_1 => exact .reject text
      case h_2 message fits => exact .deliver pairs text message read (authentic_text valid) fits
  case h_2 => exact .stay c

theorem step_moved (event : Event) :
    Moved python runId role c (c.step python key runId role event) := by
  cases event with
  | send message =>
    by_cases idle : c.sending = .idle
    · simp only [step, if_pos idle]
      exact send_moved idle
    · simp only [step, if_neg idle]
      exact .stay c
  | write count => exact write_moved
  | sendDone => exact sendDone_moved
  | receive =>
    simp only [step]
    split_ifs
    · exact receive_moved
    · exact .stay c
  | read chunk => exact read_moved
  | receiveDone => exact receiveDone_moved

variable {c' : Channel}

theorem Signs.extend (h : Signs python runId role c) {text : Bytes}
    (length : c.attempted.length = c.sent ∧ c.signed.length = c.sent)
    (signs : canonical python (.dict (body runId role c.sent message)) = some text) (i : Nat)
    (found : Bytes) (mem : (c.signed ++ [text])[i]? = some found) :
    ∃ m, (c.attempted ++ [message])[i]? = some m ∧
      canonical python (.dict (body runId role i m)) = some found := by
  rw [List.getElem?_append] at mem ⊢
  split at mem
  case isTrue below =>
    obtain ⟨m, hm, same⟩ := h.texts i found mem
    refine ⟨m, ?_, same⟩
    rw [if_pos (by omega)]
    exact hm
  case isFalse above =>
    rw [List.getElem?_singleton] at mem
    split at mem
    case isTrue last =>
      cases mem
      refine ⟨message, ?_, ?_⟩
      · rw [if_neg (by omega), length.1, ← length.2, last]
        rfl
      · have here : i = c.sent := by omega
        rw [here]
        exact signs
    case isFalse => nomatch mem

theorem Signs.more (h : Signs python runId role c) (i : Nat) (found : Bytes)
    (mem : c.signed[i]? = some found) : ∃ m, (c.attempted ++ [message])[i]? = some m ∧
      canonical python (.dict (body runId role i m)) = some found := by
  obtain ⟨m, hm, same⟩ := h.texts i found mem
  refine ⟨m, ?_, same⟩
  rw [List.getElem?_append_left (List.getElem?_eq_some_iff.mp hm).1]
  exact hm

theorem Moved.signs (move : Moved python runId role c c') (h : Signs python runId role c) :
    Signs python runId role c' := by
  cases move with
  | stay => exact h
  | refuse message idle => exact ⟨h.more, fun unfailed => absurd rfl unfailed, fun busy => absurd rfl busy⟩
  | spoil message text idle unfailed signs =>
    exact ⟨h.extend (h.idle unfailed idle) signs, fun unfailed => absurd rfl unfailed,
      fun busy => absurd rfl busy⟩
  | start message text left idle unfailed signs =>
    obtain ⟨attempted, signed⟩ := h.idle unfailed idle
    exact ⟨h.extend ⟨attempted, signed⟩ signs, fun _ => nofun, fun _ => by simp [attempted, signed]⟩
  | write sending busy unfailed moving =>
    have started : c.sending ≠ .idle := by simp [busy]
    exact ⟨h.texts, fun _ idle => absurd idle moving, fun _ => h.busy started⟩
  | failSend => exact ⟨h.texts, fun unfailed => absurd rfl unfailed, fun busy => absurd rfl busy⟩
  | sendDone written =>
    have started : c.sending ≠ .idle := by simp [written]
    exact ⟨h.texts, fun _ _ => h.busy started, fun busy => absurd rfl busy⟩
  | read => exact ⟨h.texts, h.idle, h.busy⟩
  | failReceive => exact ⟨h.texts, fun unfailed => absurd rfl unfailed, h.busy⟩
  | reject => exact ⟨h.texts, fun unfailed => absurd rfl unfailed, h.busy⟩
  | deliver => exact ⟨h.texts, h.idle, h.busy⟩

theorem Moved.checks (move : Moved python runId role c c') (h : Checks python runId role c) :
    Checks python runId role c' := by
  have wider (added : Bytes) : ∀ i message, c.delivered[i]? = some message → ∃ pairs,
      ∃ text ∈ c.verified ++ [added], canonical python (.dict pairs) = some text ∧
        Channel.bound python runId role i pairs = some message := by
    intro i message mem
    obtain ⟨pairs, found, verified, rest⟩ := h.bound i message mem
    exact ⟨pairs, found, List.mem_append_left _ verified, rest⟩
  cases move with
  | reject text => exact ⟨h.length, wider text⟩
  | deliver pairs text message read text_eq fits =>
    refine ⟨by simp [h.length], ?_⟩
    intro i m mem
    rw [List.getElem?_append] at mem
    split at mem
    case isTrue => exact wider text i m mem
    case isFalse above =>
      rw [List.getElem?_singleton] at mem
      split at mem
      case isTrue last =>
        cases mem
        have here : i = c.received := by
          have := h.length
          omega
        rw [here]
        exact ⟨pairs, text, List.mem_append_right _ (List.mem_singleton_self _), text_eq, fits⟩
      case isFalse => nomatch mem
  | _ => exact ⟨h.length, h.bound⟩

theorem Moved.raised (move : Moved python runId role c c') (h : 0 < c.raised → c.failed) :
    0 < c'.raised → c'.failed := by
  cases move with
  | refuse | spoil | failSend | failReceive | reject => exact fun _ => rfl
  | stay | start | write | sendDone | read | deliver => exact h

theorem Moved.settles {start : Channel} (move : Moved python runId role c c')
    (h : Settles start c) : Settles start c' := by
  have failed := h.failed
  cases move with
  | stay => exact h
  | refuse => exact ⟨rfl, h.read, h.delivered, nofun, h.sent⟩
  | spoil message text idle unfailed => exact absurd failed unfailed
  | start message text left idle unfailed => exact absurd failed unfailed
  | write sending busy unfailed => exact absurd failed unfailed
  | failSend => exact ⟨rfl, h.read, h.delivered, nofun, h.sent⟩
  | sendDone written =>
    obtain ⟨before, same⟩ := h.written written
    exact ⟨failed, h.read, h.delivered, nofun, .inr ⟨before, congrArg (· + 1) same⟩⟩
  | read receiving unfailed => exact absurd failed unfailed
  | failReceive => exact ⟨rfl, fun _ => nofun, h.delivered, h.written, h.sent⟩
  | reject => exact ⟨rfl, fun _ => nofun, h.delivered, h.written, h.sent⟩
  | @deliver raw pairs text message read =>
    obtain ⟨before, same⟩ := h.read raw read
    exact ⟨failed, fun _ => nofun, .inr ⟨raw, message, before, congrArg (· ++ [message]) same⟩,
      h.written, h.sent⟩

theorem Settles.refl (failed : c.failed) : Settles c c :=
  ⟨failed, fun _ read => ⟨read, rfl⟩, .inl rfl, fun written => ⟨written, rfl⟩, .inl rfl⟩

end Channel

namespace Channel

variable {python : Interpreter} {runId : String} {role sender : Role} {message m : Message} {i j : Nat}
  {pairs : List (String × Json)}

theorem bound_body (fits : bound python runId role i pairs = some m)
    (same : Json.Same (.dict pairs) (.dict (body runId sender j message))) :
    sender = role.peer ∧ i = j ∧ m.Same message := by
  simp only [bound, Option.bind_eq_bind, Option.bind_eq_some_iff] at fits
  obtain ⟨version, hversion, run, hrun, direction, hdirection, number, hnumber, kind, hkind, fits⟩ := fits
  split at fits
  case h_2 => nomatch fits
  case h_1 version run direction number kind =>
    rw [Option.ite_none_right_eq_some] at fits
    obtain ⟨⟨_, place, _, peer⟩, fits⟩ := fits
    simp only [Option.bind_eq_some_iff, Option.some.injEq] at fits
    obtain ⟨payload, hpayload, _, _, rfl⟩ := fits
    have nodup : ((body runId sender j message).map Prod.fst).Nodup := by simp [body]
    have field {k : String} {a b : Json} (left : (item pairs k).toOption = some a)
        (right : (k, b) ∈ body runId sender j message) : a.Same b :=
      same.item k nodup (mem_of_item (toOption_eq_some.mp left)) right
    have sameDirection : direction = sender.text :=
      Json.str.inj (field hdirection (b := .str sender.text) (by simp [body]))
    have sameNumber : number = j := Json.int.inj (field hnumber (b := .int j) (by simp [body]))
    have sameKind : kind = message.kind :=
      Json.str.inj (field hkind (b := .str message.kind) (by simp [body]))
    refine ⟨?_, by omega, sameKind, field hpayload (by simp [body])⟩
    rw [peer] at sameDirection
    cases role <;> cases sender <;> first | rfl | exact absurd sameDirection (by decide)

end Channel

namespace Link

open Channel

variable {python : Interpreter} {key : Bytes} {runId : String} {link : Link}

/-- What holds of both ends. -/
structure Sane (python : Interpreter) (runId : String) (link : Link) : Prop where
  signs : ∀ role, Signs python runId role (link.channel role)
  checks : ∀ role, Checks python runId role (link.channel role)
  raised : ∀ role, 0 < (link.channel role).raised → (link.channel role).failed

theorem opened_sane : Sane python runId opened where
  signs role := by cases role <;> exact ⟨nofun, fun _ _ => ⟨rfl, rfl⟩, fun busy => absurd rfl busy⟩
  checks role := by cases role <;> exact ⟨rfl, nofun⟩
  raised role := by cases role <;> exact fun positive => absurd positive (Nat.lt_irrefl 0)

/-- A step of one end leaves the other end as it is. -/
theorem step_moved (event : Role × Channel.Event) (role : Role) :
    Moved python runId role (link.channel role) ((link.step python key runId event).channel role) := by
  obtain ⟨actor, event⟩ := event
  cases actor <;> cases role
  · exact Channel.step_moved event
  · exact .stay _
  · exact .stay _
  · exact Channel.step_moved event

theorem Sane.step (h : Sane python runId link) (event : Role × Channel.Event) :
    Sane python runId (link.step python key runId event) where
  signs role := (step_moved event role).signs (h.signs role)
  checks role := (step_moved event role).checks (h.checks role)
  raised role := (step_moved event role).raised (h.raised role)

theorem Sane.run (h : Sane python runId link) (events : List (Role × Channel.Event)) :
    Sane python runId (link.run python key runId events) := by
  induction events generalizing link with
  | nil => exact h
  | cons event events ih => exact ih (h.step event)

theorem run_settles {role : Role} (failed : (link.channel role).failed)
    (events : List (Role × Channel.Event)) :
    Settles (link.channel role) ((link.run python key runId events).channel role) := by
  have all {now : Link} (h : Settles (link.channel role) (now.channel role)) :
      Settles (link.channel role) ((now.run python key runId events).channel role) := by
    induction events generalizing now with
    | nil => exact h
    | cons event events ih => exact ih ((step_moved event role).settles h)
  exact all (.refl failed)

/-- What one end has returned at a place is what the other was given at that place. -/
theorem Sane.delivered (h : Sane python runId link) (unforged : link.Unforged) (role : Role) (i : Nat)
    (m : Message) (returned : (link.channel role).delivered[i]? = some m) :
    ∃ message, (link.channel role.peer).attempted[i]? = some message ∧ m.Same message := by
  obtain ⟨pairs, text, verified, htext, fits⟩ := (h.checks role).bound i m returned
  have signed : ∃ sender, text ∈ (link.channel sender).signed := by
    cases unforged role text verified with
    | inl host => exact ⟨.host, host⟩
    | inr guest => exact ⟨.guest, guest⟩
  obtain ⟨sender, mem⟩ := signed
  obtain ⟨j, hj⟩ := List.getElem?_of_mem mem
  obtain ⟨message, attempted, hbody⟩ := (h.signs sender).texts j text hj
  obtain ⟨rfl, rfl, same⟩ := bound_body fits (dumps_same htext hbody)
  exact ⟨message, attempted, same⟩

theorem exists_prefix {α β : Type} {R : α → β → Prop} {xs : List α} {ys : List β}
    (h : ∀ (i : Nat) (a : α), xs[i]? = some a → ∃ b : β, ys[i]? = some b ∧ R a b) :
    ∃ zs, zs <+: ys ∧ List.Forall₂ R xs zs := by
  induction xs generalizing ys with
  | nil => exact ⟨[], List.nil_prefix, .nil⟩
  | cons x xs ih =>
    obtain ⟨y, hy, related⟩ := h 0 x rfl
    cases ys with
    | nil => nomatch hy
    | cons first ys =>
      cases hy
      obtain ⟨zs, hzs, all⟩ := ih fun i a mem => h (i + 1) a mem
      exact ⟨_ :: zs, List.cons_prefix_cons.mpr ⟨rfl, hzs⟩, .cons related all⟩

/-- A key, and the code of one text under it. -/
def trialKey : Bytes := List.replicate 32 107

def trial : Interpreter where
  lower := id
  casefold := id
  nfc := id
  float := String.ofList
  depth := 8
  sha256 _ := ""
  hmac key text :=
    if key = trialKey ∧ text = utf8 "\x7b\"direction\":\"host\",\"payload\":\x7b\x7d,\"protocolVersion\":1,\"runId\":\"one\",\"sequence\":0,\"type\":\"cancel\"\x7d"
    then "ab52d21552e67872e996bd8c0f248097ba1e186071f071c7006998fe1200af3f"
    else ""

def trialRecord : Bytes :=
  utf8 "\x7b\"direction\":\"host\",\"mac\":\"ab52d21552e67872e996bd8c0f248097ba1e186071f071c7006998fe1200af3f\",\"payload\":\x7b\x7d,\"protocolVersion\":1,\"runId\":\"one\",\"sequence\":0,\"type\":\"cancel\"\x7d"

/-- The host cancels, and the guest returns the cancellation. -/
def trialEvents : List (Role × Channel.Event) :=
  [(.host, .send ⟨"cancel", .dict []⟩), (.host, .write (some 173)), (.host, .sendDone),
    (.guest, .receive), (.guest, .read (some (pack 169))), (.guest, .read (some trialRecord)),
    (.guest, .receiveDone)]

/-- What the host signs of it. -/
def trialText : String :=
  "\x7b\"direction\":\"host\",\"payload\":\x7b\x7d,\"protocolVersion\":1,\"runId\":\"one\",\"sequence\":0,\"type\":\"cancel\"\x7d"

theorem canonical_text {python : Interpreter} {value : Json} {text : String}
    (written : value.write python.depth = some text.toList) : canonical python value = some (utf8 text) := by
  rw [canonical, dumps, written, Option.map_some, String.ofList_toList]

theorem trial_coded : trial.hmac trialKey (utf8 trialText) =
    "ab52d21552e67872e996bd8c0f248097ba1e186071f071c7006998fe1200af3f" := by
  have code (text : Bytes) : trial.hmac trialKey text =
    if trialKey = trialKey ∧ text = utf8 trialText then _ else _ := rfl
  rw [code, if_pos ⟨rfl, rfl⟩]

theorem trial_signed : canonical trial (.dict (body "one" .host 0 ⟨"cancel", .dict []⟩)) = some (utf8 trialText) := by
  refine canonical_text ?_
  rw [show trialText.toList = _ from String.toList_ofList, Json.write_eq]
  decide +kernel

theorem trial_recorded : canonical trial (.dict (body "one" .host 0 ⟨"cancel", .dict []⟩ ++
    [("mac", Json.str (trial.hmac trialKey (utf8 trialText)))])) = some trialRecord := by
  rw [trial_coded]
  refine canonical_text ?_
  rw [show String.toList _ = _ from String.toList_ofList, Json.write_eq]
  decide +kernel

theorem trial_length : trialRecord.length = 169 := by
  rw [trialRecord, show utf8 _ = _ from utf8_ofList]
  decide +kernel

theorem decodeJson_utf8 {python : Interpreter} {text : String} (room : (utf8 text).length ≤ maxFrameBytes) :
    decodeJson python (utf8 text) = Json.read (reader python) python.depth text.toList := by
  rw [decodeJson, if_pos room, fromUTF8?_utf8]
  rfl

theorem trial_authentic : ∃ pairs, authentic trial trialKey trialRecord = some (pairs, utf8 trialText) := by
  have room : trialRecord.length ≤ maxFrameBytes := trial_length.trans_le (by decide)
  have proven : (authentic trial trialKey trialRecord).map Prod.snd = some (utf8 trialText) := by
    rw [authentic, show decodeJson trial trialRecord = _ from decodeJson_utf8 room,
      show String.toList _ = _ from String.toList_ofList, show utf8 trialText = _ from utf8_ofList]
    simp only [canonical, dumps_eq, Json.write_eq]
    decide +kernel
  obtain ⟨⟨pairs, text⟩, found, rfl⟩ := Option.map_eq_some_iff.mp proven
  exact ⟨pairs, found⟩

/-- The host's end, when its call of `send` has bytes left or none, and the guest's, when it has the record. -/
theorem trial_sent {text raw : Bytes} (length : raw.length = 169)
    (signed : canonical trial (.dict (body "one" .host 0 ⟨"cancel", .dict []⟩)) = some text)
    (recorded : canonical trial (.dict (body "one" .host 0 ⟨"cancel", .dict []⟩ ++
      [("mac", Json.str (trial.hmac trialKey text))])) = some raw) :
    (Channel.opened.send trial trialKey "one" .host ⟨"cancel", .dict []⟩).write (some 173) =
      ⟨false, 0, 0, .written, .idle, [⟨"cancel", .dict []⟩], [], 0, [text], []⟩ := by
  have valid : validateMessage trial .host ⟨"cancel", .dict []⟩ = .ok () := rfl
  have sent : Channel.opened.send trial trialKey "one" .host ⟨"cancel", .dict []⟩ =
      ⟨false, 0, 0, .writing (pack 169 ++ raw), .idle, [⟨"cancel", .dict []⟩], [], 0, [text], []⟩ := by
    simp only [send, Channel.opened, valid, signed, recorded, length]
    rfl
  have short : (pack 169 ++ raw).length ≤ 173 := by
    rw [List.length_append, length]
    decide
  rw [sent]
  exact if_pos short

theorem trial_received {text raw : Bytes} {pairs : List (String × Json)} (length : raw.length = 169)
    (proven : authentic trial trialKey raw = some (pairs, text)) :
    (((Channel.opened.receive.read (some (pack 169))).read (some raw)).receiveDone trial trialKey "one"
      .guest).verified = [text] := by
  have filled : raw ≠ [] := by
    rintro rfl
    cases length
  have sized : Channel.opened.receive.read (some (pack 169)) =
      ⟨false, 0, 0, .idle, .record 169 [], [], [], 0, [], []⟩ := rfl
  have record : Channel.read (some raw) ⟨false, 0, 0, .idle, .record 169 [], [], [], 0, [], []⟩ =
      ⟨false, 0, 0, .idle, .read raw, [], [], 0, [], []⟩ := by
    simp [Channel.read, length, filled, List.take_of_length_le]
  rw [sized, record]
  simp only [receiveDone, proven]
  split <;> rfl

/-- One call at each end, while the other end does nothing. -/
theorem run_cancelled {python : Interpreter} {key : Bytes} {runId : String} {message : Message} {count : Option Nat}
    {size record : Option Bytes} :
    opened.run python key runId [(.host, .send message), (.host, .write count), (.host, .sendDone),
      (.guest, .receive), (.guest, .read size), (.guest, .read record), (.guest, .receiveDone)] =
    ⟨((Channel.opened.send python key runId .host message).write count).sendDone,
      ((Channel.opened.receive.read size).read record).receiveDone python key runId .guest⟩ := by
  simp only [run, List.foldl_cons, List.foldl_nil, step, Channel.step, opened]
  rfl

theorem trial_unforged : (opened.run trial trialKey "one" trialEvents).Unforged := by
  obtain ⟨pairs, proven⟩ := trial_authentic
  have sent := trial_sent trial_length trial_signed trial_recorded
  have received := trial_received trial_length proven
  rw [trialEvents, run_cancelled, sent]
  intro role found verified
  cases role with
  | host => cases verified
  | guest =>
    left
    rwa [channel, received] at verified

end Link

end Reproof.Execution.Wire
