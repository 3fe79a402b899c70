import Foc.Library.EventLoop
import Foc.Library.LockTable
import Foc.Library.RequestBody
import Foc.Library.UuidText
import Mathlib.Data.List.Sort
import Mathlib.Logic.Function.Basic

/-!
Sending a message (`chat/chat.service.ts`, `chat.repository.ts`, `validation.ts`): access,
the look at what was sent before, and the transaction under the sender's and the
channel's locks, a statement at a time, with every other request and the retention
cleanup in between. A lock is held by the stage its request has reached, and what a
transaction wrote is seen once it commits. Chat has one clock and the database
another; `hashtext` is a parameter. A request may be lost at any statement. The nudge
to the sockets is left out.
-/
namespace Foc.Chat.Sending
open Library Library.Utf16 Library.UuidText Library.EventLoop Library.LockTable

abbrev UserId := String
abbrev Uuid := Nat

/-! ## Validation -/

structure Send where
  clientId : Uuid
  body : Units
  deriving DecidableEq

def maxBody : Nat := 280

/-- `clientId`, a UUID, and a body of 1 to 280 code points, not all white space and
without U+0000. -/
def sendSchema (input : Body) : Option Send :=
  if input.strict ["clientId", "body"] then do
    let clientId ← ((input.at? "clientId").bind Body.text?).bind fun units => scanUuid (text units)
    let body ← (input.at? "body").bind Body.text?
    if 1 ≤ body.length ∧ (points body).length ≤ maxBody ∧ trim body ≠ [] ∧ (0 : UInt16) ∉ body then
      return { clientId, body }
    else none
  else none

/-! ## Rows -/

structure OrderForChat where
  requesterId : UserId
  courierId : Option UserId
  endedAt : Option Int
  deriving DecidableEq, Repr

structure Message where
  orderId : Uuid
  seq : Int
  senderId : UserId
  clientId : Uuid
  body : String
  sentAt : Int
  deriving DecidableEq, Repr

structure AuthContext where
  userId : UserId
  isAdmin : Bool
  deriving DecidableEq, Repr

inductive Role where
  | requester | courier | admin
  deriving DecidableEq, Repr

def dayMs : Int := 24 * 60 * 60000

def pastRetention (order : OrderForChat) (retentionDays : Nat) (now : Int) : Bool :=
  order.endedAt.any fun endedAt => decide (retentionDays * dayMs < now - endedAt)

def roleOf (order : OrderForChat) (caller : AuthContext) : Option Role :=
  if caller.userId = order.requesterId then some .requester
  else if some caller.userId = order.courierId then some .courier
  else if caller.isAdmin then some .admin
  else none

def OrderForChat.open (order : OrderForChat) : Bool :=
  order.courierId.isSome && order.endedAt.isNone

/-- The text a column gives back for a string it was sent. -/
def storedBody (body : Units) : String := String.ofList (text body)

/-! ## Requests -/

/-- What the service answers. -/
inductive Reply where
  | sent (message : Message) (created : Bool)
  | retryAfter (seconds : Int)
  | channelClosed
  | busy
  | keyReused
  | notFound
  | notParticipant
  deriving DecidableEq, Repr

/-- The statement a request is at, with what it knows. -/
inductive Stage where
  | arrived
  | informed (order : OrderForChat)
  | opening
  | opened
  | admitted (isOpen : Bool)
  | unsent
  | sender
  | channel (latestSeq : Int)
  | unstored (latestSeq : Int)
  | counting (latestSeq : Int) (asOf : Int)
  | counted (latestSeq : Int) (asOf : Int)
  | inserted (message : Message) (asOf : Int)
  | answered (reply : Reply)
  | lost
  deriving DecidableEq, Repr

def Stage.holdsSender : Stage → Bool
  | .sender | .channel _ | .unstored _ | .counting _ _ | .counted _ _ | .inserted _ _ => true
  | _ => false

def Stage.holdsChannel : Stage → Bool
  | .channel _ | .unstored _ | .counting _ _ | .counted _ _ | .inserted _ _ => true
  | _ => false

structure Request where
  orderId : Uuid
  caller : AuthContext
  send : Send
  stage : Stage
  deriving DecidableEq

/-- `condemned`: the channels that a cleanup found past retention and has yet to delete. -/
structure State where
  now : Int
  clock : Int
  orders : Uuid → Option OrderForChat
  channels : Uuid → Option Int
  messages : List Message
  requests : List Request
  condemned : List Uuid

structure Settings where
  retentionDays : Nat
  hashtext : UserId → Int

/-! ## Statements -/

def sendLimit : Nat := 20

def window : Int := 60000000

def findSent (state : State) (orderId : Uuid) (senderId : UserId) (clientId : Uuid) :
    Option Message :=
  state.messages.find? fun message =>
    message.orderId == orderId && message.senderId == senderId && message.clientId == clientId

/-- A repeated `clientId`: the stored message, unless the body differs. -/
def repeated (message : Message) (body : Units) : Reply :=
  if ofText message.body.toList ≠ body then .keyReused else .sent message false

/-- The times of a sender's messages since the window began. -/
def recent (state : State) (senderId : UserId) (asOf : Int) : List Int :=
  (state.messages.filter fun message =>
    message.senderId == senderId && decide (asOf - window < message.sentAt)).map Message.sentAt

/-- Whole seconds, rounded up. -/
def ceilSeconds (time : Int) : Int := -(-time / 1000000)

/-- Undefined while the sender is under the limit. -/
def retryAfter (state : State) (senderId : UserId) (asOf : Int) : Option Int :=
  let sent := recent state senderId asOf
  if sendLimit ≤ sent.length then
    sent.min?.map fun oldest => max 1 (ceilSeconds (oldest + window - asOf))
  else none

/-- No other request holds the lock of this sender. -/
def senderFree (settings : Settings) (state : State) (senderId : UserId) : Bool :=
  state.requests.all fun other => !other.stage.holdsSender ||
    decide (settings.hashtext other.caller.userId ≠ settings.hashtext senderId)

def channelFree (state : State) (orderId : Uuid) : Bool :=
  state.requests.all fun other => !other.stage.holdsChannel || decide (other.orderId ≠ orderId)

def Request.message (request : Request) (latestSeq : Int) (sentAt : Int) : Message :=
  { orderId := request.orderId
    seq := latestSeq + 1
    senderId := request.caller.userId
    clientId := request.send.clientId
    body := storedBody request.send.body
    sentAt }

def maxSeq : Int := 2147483647

def refusal (order : OrderForChat) (caller : AuthContext) (existing : Option Int) : Option Reply :=
  match roleOf order caller with
  | none => if existing = none ∧ order.courierId = none then some .notFound else some .notParticipant
  | some .admin => if existing = none then some .notFound else some .notParticipant
  | some _ => if existing = none ∧ order.open = false then some .notFound else none

/-- The next statement of a request: the stage it leads to. -/
def advance (settings : Settings) (state : State) (request : Request) : Option Stage :=
  match request.stage with
  | .arrived =>
      match state.orders request.orderId with
      | none => some (.answered .notFound)
      | some order =>
          if pastRetention order settings.retentionDays state.clock then some (.answered .notFound)
          else some (.informed order)
  | .informed order =>
      match refusal order request.caller (state.channels request.orderId) with
      | some reply => some (.answered reply)
      | none =>
          if (state.channels request.orderId).isSome then some (.admitted order.open)
          else some .opening
  | .opening => some .opened
  | .opened =>
      if (state.channels request.orderId).isSome then some (.admitted true)
      else some (.answered .notFound)
  | .admitted isOpen =>
      match findSent state request.orderId request.caller.userId request.send.clientId with
      | some message => some (.answered (repeated message request.send.body))
      | none => if isOpen then some .unsent else some (.answered .channelClosed)
  | .unsent => if senderFree settings state request.caller.userId then some .sender else none
  | .sender =>
      match state.channels request.orderId with
      | none => some (.answered .channelClosed)
      | some latestSeq =>
          if channelFree state request.orderId then some (.channel latestSeq) else none
  | .channel latestSeq =>
      match findSent state request.orderId request.caller.userId request.send.clientId with
      | some message => some (.answered (repeated message request.send.body))
      | none => some (.unstored latestSeq)
  | .unstored latestSeq => some (.counting latestSeq state.now)
  | .counting latestSeq asOf =>
      match retryAfter state request.caller.userId asOf with
      | some seconds => some (.answered (.retryAfter seconds))
      | none => some (.counted latestSeq asOf)
  | .counted latestSeq asOf =>
      if latestSeq < maxSeq then some (.inserted (request.message latestSeq state.now) asOf)
      else some .lost
  | .inserted message _ => some (.answered (.sent message true))
  | .answered _ | .lost => none

/-- What the statement leaves in the tables: a channel opened, or a send committed. -/
def State.write (state : State) (request : Request) : State :=
  match request.stage with
  | .opening =>
      { state with channels := fun id => if id = request.orderId then (state.channels id).or (some 0)
                                         else state.channels id }
  | .inserted message _ =>
      { state with
        messages := state.messages ++ [message]
        channels := fun id => if id = request.orderId then (state.channels id).map fun _ => message.seq
                              else state.channels id }
  | _ => state

def State.put (state : State) (index : Nat) (request : Request) (stage : Stage) : State :=
  { state with requests := state.requests.set index { request with stage } }

inductive Event where
  | time (now : Int)
  | clock (time : Int)
  | order (orderId : Uuid) (order : OrderForChat)
  | arrive (orderId : Uuid) (caller : AuthContext) (input : Body)
  | advance (index : Nat)
  | lockTimeout (index : Nat)
  | lose (index : Nat)
  | condemn (orderId : Uuid)
  | deleteChannel (orderId : Uuid)

/-- An errand that has ended stays as it ended. -/
def mayBecome (before : Option OrderForChat) (after : OrderForChat) : Bool :=
  before.all fun order => order.endedAt.isNone || order.endedAt == after.endedAt

def turn (settings : Settings) (state : State) : Event → Option State
  | .time now => if state.now ≤ now then some { state with now } else none
  | .clock time => if state.clock ≤ time then some { state with clock := time } else none
  | .order orderId order =>
      if mayBecome (state.orders orderId) order then
        some { state with orders := Function.update state.orders orderId (some order) }
      else none
  | .arrive orderId caller input =>
      (sendSchema input).map fun send =>
        { state with requests := state.requests ++ [{ orderId, caller, send, stage := .arrived }] }
  | .advance index => do
      let request ← state.requests[index]?
      let stage ← advance settings state request
      return (state.write request).put index request stage
  | .lockTimeout index => do
      let request ← state.requests[index]?
      if request.stage = .unsent ∨ request.stage = .sender then
        return state.put index request (.answered .busy)
      else none
  | .lose index => do
      let request ← state.requests[index]?
      match request.stage with
      | .answered _ => none
      | _ => return state.put index request .lost
  | .condemn orderId =>
      match state.orders orderId with
      | none => none
      | some order =>
          if pastRetention order settings.retentionDays state.clock then
            some { state with condemned := orderId :: state.condemned }
          else none
  | .deleteChannel orderId =>
      if state.condemned.contains orderId && channelFree state orderId then
        some { state with
          channels := Function.update state.channels orderId none
          messages := state.messages.filter fun message => decide (message.orderId ≠ orderId) }
      else none

/-- No request has arrived and nothing is stored. -/
def State.Fresh (state : State) : Prop :=
  (∀ orderId, state.channels orderId = none) ∧ state.messages = [] ∧ state.requests = [] ∧
    state.condemned = []

/-! ## What an event can do -/

section Turns

variable {settings : Settings} {state after : State}

inductive Moved (settings : Settings) (state : State) : State → Prop where
  | time (now : Int) (later : state.now ≤ now) : Moved settings state { state with now }
  | clock (time : Int) (later : state.clock ≤ time) :
      Moved settings state { state with clock := time }
  | order (orderId : Uuid) (order : OrderForChat)
      (becomes : mayBecome (state.orders orderId) order = true) :
      Moved settings state
        { state with orders := Function.update state.orders orderId (some order) }
  | arrive (request : Request) (arrived : request.stage = .arrived) :
      Moved settings state { state with requests := state.requests ++ [request] }
  | advance (index : Nat) (request : Request) (stage : Stage)
      (found : state.requests[index]? = some request)
      (stepped : advance settings state request = some stage) :
      Moved settings state ((state.write request).put index request stage)
  | leave (index : Nat) (request : Request) (stage : Stage)
      (found : state.requests[index]? = some request)
      (unanswered : ∀ reply, request.stage ≠ .answered reply)
      (left : stage = .lost ∨ stage = .answered .busy ∧
        (request.stage = .unsent ∨ request.stage = .sender)) :
      Moved settings state (state.put index request stage)
  | condemn (orderId : Uuid) (order : OrderForChat) (is : state.orders orderId = some order)
      (past : pastRetention order settings.retentionDays state.clock = true) :
      Moved settings state { state with condemned := orderId :: state.condemned }
  | delete (orderId : Uuid) (condemned : orderId ∈ state.condemned)
      (free : channelFree state orderId = true) :
      Moved settings state
        { state with
          channels := Function.update state.channels orderId none
          messages := state.messages.filter fun message => decide (message.orderId ≠ orderId) }

theorem turn_moved {event : Event} (turned : turn settings state event = some after) :
    Moved settings state after := by
  cases event with
  | time now =>
      simp only [turn, Option.ite_none_right_eq_some, Option.some.injEq] at turned
      obtain ⟨later, rfl⟩ := turned
      exact .time now later
  | clock time =>
      simp only [turn, Option.ite_none_right_eq_some, Option.some.injEq] at turned
      obtain ⟨later, rfl⟩ := turned
      exact .clock time later
  | order orderId order =>
      simp only [turn, Option.ite_none_right_eq_some, Option.some.injEq] at turned
      obtain ⟨becomes, rfl⟩ := turned
      exact .order orderId order becomes
  | arrive orderId caller input =>
      obtain ⟨send, -, rfl⟩ := Option.map_eq_some_iff.mp turned
      exact .arrive _ rfl
  | advance index =>
      obtain ⟨request, found, turned⟩ := Option.bind_eq_some_iff.mp turned
      obtain ⟨stage, stepped, turned⟩ := Option.bind_eq_some_iff.mp turned
      cases turned
      exact .advance index request stage found stepped
  | lockTimeout index =>
      obtain ⟨request, found, turned⟩ := Option.bind_eq_some_iff.mp turned
      split at turned
      · next waits =>
        cases turned
        refine .leave index request _ found ?_ (.inr ⟨rfl, waits⟩)
        intro reply is
        rw [is] at waits
        simp at waits
      · cases turned
  | lose index =>
      obtain ⟨request, found, turned⟩ := Option.bind_eq_some_iff.mp turned
      split at turned
      · cases turned
      · next unanswered =>
        cases turned
        exact .leave index request _ found unanswered (.inl rfl)
  | condemn orderId =>
      simp only [turn] at turned
      split at turned
      · cases turned
      · next order is =>
        simp only [Option.ite_none_right_eq_some, Option.some.injEq] at turned
        obtain ⟨past, rfl⟩ := turned
        exact .condemn orderId order is past
  | deleteChannel orderId =>
      simp only [turn, Option.ite_none_right_eq_some, Option.some.injEq, Bool.and_eq_true,
        List.contains_iff_mem] at turned
      obtain ⟨⟨condemned, free⟩, rfl⟩ := turned
      exact .delete orderId condemned free

/-! ## Locks -/

def heldSender (settings : Settings) (request : Request) : Option Int :=
  if request.stage.holdsSender then some (settings.hashtext request.caller.userId) else none

def heldChannel (request : Request) : Option Uuid :=
  if request.stage.holdsChannel then some request.orderId else none

theorem sender_free {senderId : UserId} (free : senderFree settings state senderId = true)
    {index : Nat} {other : Request} (found : state.requests[index]? = some other) :
    heldSender settings other ≠ some (settings.hashtext senderId) := by
  have apart := List.all_eq_true.mp free other (List.mem_of_getElem? found)
  simp only [Bool.or_eq_true, Bool.not_eq_true', decide_eq_true_eq] at apart
  rw [heldSender]
  rcases apart with idle | apart
  · simp [idle]
  · split
    · simpa using apart
    · simp

theorem channel_free {orderId : Uuid} (free : channelFree state orderId = true) {index : Nat}
    {other : Request} (found : state.requests[index]? = some other) :
    heldChannel other ≠ some orderId := by
  have apart := List.all_eq_true.mp free other (List.mem_of_getElem? found)
  simp only [Bool.or_eq_true, Bool.not_eq_true', decide_eq_true_eq] at apart
  rw [heldChannel]
  rcases apart with idle | apart
  · simp [idle]
  · split
    · simpa using apart
    · simp

/-! ## What holds of every state -/

/-- A message is the one this request would store. -/
def Request.Keyed (request : Request) (message : Message) : Prop :=
  message.orderId = request.orderId ∧ message.senderId = request.caller.userId ∧
    message.clientId = request.send.clientId

theorem find_none (request : Request) :
    findSent state request.orderId request.caller.userId request.send.clientId = none ↔
      ∀ message ∈ state.messages, ¬ request.Keyed message := by
  simp [findSent, List.find?_eq_none, Request.Keyed]

theorem find_some {request : Request} {message : Message}
    (found : findSent state request.orderId request.caller.userId request.send.clientId =
      some message) : message ∈ state.messages ∧ request.Keyed message := by
  refine ⟨List.mem_of_find?_eq_some found, ?_⟩
  have keyed := List.find?_some found
  simpa [Request.Keyed, and_assoc] using keyed

/-- Under its sender's lock: nothing of theirs is later than the time it counts from. -/
structure Counts (state : State) (senderId : UserId) (asOf : Int) : Prop where
  now : asOf ≤ state.now
  before : ∀ message ∈ state.messages, message.senderId = senderId → message.sentAt ≤ asOf

/-- What a request knows at its stage. -/
def Knows (state : State) (request : Request) : Stage → Prop
  | .unstored _ => ∀ message ∈ state.messages, ¬ request.Keyed message
  | .counting _ asOf =>
      (∀ message ∈ state.messages, ¬ request.Keyed message) ∧ Counts state request.caller.userId asOf
  | .counted _ asOf =>
      (∀ message ∈ state.messages, ¬ request.Keyed message) ∧ Counts state request.caller.userId asOf ∧
        (recent state request.caller.userId asOf).length < sendLimit
  | .inserted message asOf =>
      (∀ message ∈ state.messages, ¬ request.Keyed message) ∧ Counts state request.caller.userId asOf ∧
        (recent state request.caller.userId asOf).length < sendLimit ∧
        (∃ latestSeq, message = request.message latestSeq message.sentAt) ∧
        asOf ≤ message.sentAt ∧ message.sentAt ≤ state.now
  | .answered (.retryAfter seconds) => 1 ≤ seconds ∧ seconds ≤ 60
  | .answered (.sent message true) => ∃ latestSeq sentAt, message = request.message latestSeq sentAt
  | _ => True

/-- No two messages of one channel and sender have one `clientId`. -/
def Distinct (messages : List Message) : Prop :=
  messages.Pairwise fun first second => ¬ (first.orderId = second.orderId ∧
    first.senderId = second.senderId ∧ first.clientId = second.clientId)

/-- A sender's messages within a time. -/
def within (state : State) (senderId : UserId) (inside : Int → Bool) : List Message :=
  state.messages.filter fun message => message.senderId == senderId && inside message.sentAt

structure Sound (settings : Settings) (state : State) : Prop where
  senders : Exclusive (heldSender settings) state.requests
  channels : Exclusive heldChannel state.requests
  knows : ∀ (index : Nat) request, state.requests[index]? = some request →
    Knows state request request.stage
  past : ∀ message ∈ state.messages, message.sentAt ≤ state.now
  distinct : Distinct state.messages
  limit : ∀ senderId inside, (∀ first second : Int, inside first = true → inside second = true →
    second - window < first) → (within state senderId inside).length ≤ sendLimit
  condemned : ∀ orderId ∈ state.condemned, ∃ order, state.orders orderId = some order ∧
    pastRetention order settings.retentionDays state.clock = true

/-! ## Frames -/

def ofSender (state : State) (senderId : UserId) : List Message :=
  state.messages.filter fun message => message.senderId == senderId

theorem within_sender (senderId : UserId) (inside : Int → Bool) :
    within state senderId inside =
      (ofSender state senderId).filter fun message => inside message.sentAt := by
  simp only [within, ofSender, List.filter_filter, Bool.and_comm]

theorem recent_within (senderId : UserId) (asOf : Int) : recent state senderId asOf =
    (within state senderId fun sentAt => decide (asOf - window < sentAt)).map Message.sentAt := rfl

theorem recent_length (senderId : UserId) (asOf : Int) : (recent state senderId asOf).length =
    (within state senderId fun sentAt => decide (asOf - window < sentAt)).length := by
  rw [recent_within, List.length_map]

theorem within_sublist {senderId : UserId}
    (fewer : (ofSender after senderId).Sublist (ofSender state senderId)) (inside : Int → Bool) :
    (within after senderId inside).Sublist (within state senderId inside) := by
  rw [within_sender, within_sender]
  exact fewer.filter _

theorem counts_frame {senderId : UserId} {asOf : Int} (counts : Counts state senderId asOf)
    (later : state.now ≤ after.now)
    (fewer : (ofSender after senderId).Sublist (ofSender state senderId)) :
    Counts after senderId asOf := by
  refine ⟨counts.now.trans later, ?_⟩
  intro message there sent
  have listed : message ∈ ofSender after senderId :=
    List.mem_filter.mpr ⟨there, beq_iff_eq.mpr sent⟩
  exact counts.before message (List.mem_filter.mp (fewer.subset listed)).1 sent

/-- What a request knows lasts while time goes on and nobody else stores on its channel
or for its sender. -/
theorem knows_frame {request : Request} {stage : Stage} (knows : Knows state request stage)
    (later : state.now ≤ after.now)
    (channel : stage.holdsChannel = true → ∀ message ∈ after.messages, request.Keyed message →
      message ∈ state.messages)
    (sender : stage.holdsSender = true →
      (ofSender after request.caller.userId).Sublist (ofSender state request.caller.userId)) :
    Knows after request stage := by
  have unstored : stage.holdsChannel = true → (∀ message ∈ state.messages, ¬ request.Keyed message) →
      ∀ message ∈ after.messages, ¬ request.Keyed message := fun holds none message there keyed =>
    none message (channel holds message there keyed) keyed
  have few : stage.holdsSender = true → ∀ asOf,
      (recent state request.caller.userId asOf).length < sendLimit →
      (recent after request.caller.userId asOf).length < sendLimit := by
    intro holds asOf less
    rw [recent_length] at less ⊢
    exact (within_sublist (sender holds) _).length_le.trans_lt less
  cases stage with
  | unstored latestSeq => exact unstored rfl knows
  | counting latestSeq asOf =>
      exact ⟨unstored rfl knows.1, counts_frame knows.2 later (sender rfl)⟩
  | counted latestSeq asOf =>
      obtain ⟨none, counts, less⟩ := knows
      exact ⟨unstored rfl none, counts_frame counts later (sender rfl), few rfl asOf less⟩
  | inserted message asOf =>
      obtain ⟨none, counts, less, made, since, until_⟩ := knows
      exact ⟨unstored rfl none, counts_frame counts later (sender rfl), few rfl asOf less, made, since,
        until_.trans later⟩
  | answered reply =>
      cases reply with
      | sent message created =>
          cases created with
          | true => exact knows
          | false => trivial
      | retryAfter seconds => exact knows
      | channelClosed => trivial
      | busy => trivial
      | keyReused => trivial
      | notFound => trivial
      | notParticipant => trivial
  | arrived => trivial
  | informed => trivial
  | opening => trivial
  | opened => trivial
  | admitted => trivial
  | unsent => trivial
  | sender => trivial
  | channel => trivial
  | lost => trivial

/-- With no message more and time no earlier, a request knows what it knew. -/
theorem knows_fewer {request : Request} {stage : Stage} (knows : Knows state request stage)
    (later : state.now ≤ after.now) (fewer : after.messages.Sublist state.messages) :
    Knows after request stage :=
  knows_frame knows later (fun _ _ there _ => fewer.subset there) fun _ => fewer.filter _

/-! ## One statement -/

/-- A statement takes no lock but those of `unsent` and `sender`. -/
theorem advance_locks {request : Request} {stage : Stage}
    (stepped : advance settings state request = some stage) :
    (stage.holdsSender = true → request.stage.holdsSender = true ∨
      senderFree settings state request.caller.userId = true) ∧
    (stage.holdsChannel = true → request.stage.holdsChannel = true ∨
      channelFree state request.orderId = true) := by
  cases is : request.stage with
  | unsent =>
      simp only [advance, is, Option.ite_none_right_eq_some, Option.some.injEq] at stepped
      obtain ⟨free, rfl⟩ := stepped
      exact ⟨fun _ => .inr free, nofun⟩
  | sender =>
      refine ⟨fun _ => .inl rfl, ?_⟩
      simp only [advance, is] at stepped
      split at stepped
      · cases stepped
        exact nofun
      · simp only [Option.ite_none_right_eq_some, Option.some.injEq] at stepped
        obtain ⟨free, rfl⟩ := stepped
        exact fun _ => .inr free
  | channel | unstored | counting | counted | inserted => exact ⟨fun _ => .inl rfl, fun _ => .inl rfl⟩
  | answered | lost =>
      simp only [advance, is] at stepped
      cases stepped
  | arrived | informed | opening | opened | admitted =>
      -- These only read, and lead to stages without locks.
      simp only [advance, is] at stepped
      repeat' split at stepped
      all_goals
        cases stepped
        exact ⟨nofun, nofun⟩

theorem advance_sender {request : Request} {stage : Stage}
    (stepped : advance settings state request = some stage) :
    heldSender settings { request with stage } = none ∨
      heldSender settings { request with stage } = heldSender settings request ∨
      ∀ (other : Nat) found, state.requests[other]? = some found →
        heldSender settings found ≠ heldSender settings { request with stage } := by
  by_cases holds : stage.holdsSender = true
  · rcases (advance_locks stepped).1 holds with held | free
    · exact .inr (.inl (by simp [heldSender, holds, held]))
    · refine .inr (.inr fun other found there => ?_)
      simpa [heldSender, holds] using sender_free free there
  · exact .inl (by simp [heldSender, holds])

theorem advance_channel {request : Request} {stage : Stage}
    (stepped : advance settings state request = some stage) :
    heldChannel { request with stage } = none ∨
      heldChannel { request with stage } = heldChannel request ∨
      ∀ (other : Nat) found, state.requests[other]? = some found →
        heldChannel found ≠ heldChannel { request with stage } := by
  by_cases holds : stage.holdsChannel = true
  · rcases (advance_locks stepped).2 holds with held | free
    · exact .inr (.inl (by simp [heldChannel, holds, held]))
    · refine .inr (.inr fun other found there => ?_)
      simpa [heldChannel, holds] using channel_free free there
  · exact .inl (by simp [heldChannel, holds])

theorem ceil_bounds {time : Int} (some : 0 < time) (most : time ≤ window) :
    1 ≤ max 1 (ceilSeconds time) ∧ max 1 (ceilSeconds time) ≤ 60 := by
  simp only [ceilSeconds, window] at most ⊢
  omega

/-- A refusal names the oldest message of the window. -/
theorem retry_some {senderId : UserId} {asOf : Int} {seconds : Int}
    (refused : retryAfter state senderId asOf = some seconds) :
    sendLimit ≤ (recent state senderId asOf).length ∧ ∃ oldest ∈ recent state senderId asOf,
      (∀ sentAt ∈ recent state senderId asOf, oldest ≤ sentAt) ∧
      seconds = max 1 (ceilSeconds (oldest + window - asOf)) := by
  simp only [retryAfter, Option.ite_none_right_eq_some] at refused
  obtain ⟨full, refused⟩ := refused
  obtain ⟨oldest, least, rfl⟩ := Option.map_eq_some_iff.mp refused
  rw [List.min?_eq_some_iff] at least
  exact ⟨full, oldest, least.1, least.2, rfl⟩

theorem retry_none {senderId : UserId} {asOf : Int}
    (free : retryAfter state senderId asOf = none) :
    (recent state senderId asOf).length < sendLimit := by
  by_contra full
  rw [retryAfter, if_pos (Nat.not_lt.mp full), Option.map_eq_none_iff, List.min?_eq_none_iff] at free
  rw [free] at full
  exact full (by decide)

theorem mem_recent {senderId : UserId} {asOf sentAt : Int}
    (listed : sentAt ∈ recent state senderId asOf) :
    asOf - window < sentAt ∧ ∃ message ∈ state.messages, message.senderId = senderId ∧
      message.sentAt = sentAt := by
  obtain ⟨message, kept, rfl⟩ := List.mem_map.mp listed
  obtain ⟨there, is⟩ := List.mem_filter.mp kept
  rw [Bool.and_eq_true, beq_iff_eq, decide_eq_true_eq] at is
  exact ⟨is.2, message, there, is.1, rfl⟩

theorem refusal_reply {order : OrderForChat} {caller : AuthContext} {existing : Option Int}
    {reply : Reply} (refused : refusal order caller existing = some reply) :
    reply = .notFound ∨ reply = .notParticipant := by
  simp only [refusal] at refused
  repeat' split at refused
  all_goals cases refused
  all_goals simp

theorem repeated_known {request : Request} (message : Message) (body : Units) :
    Knows state request (.answered (repeated message body)) := by
  rw [repeated]
  split <;> trivial

/-- What the next statement tells a request. -/
theorem advance_knows (sound : Sound settings state) {index : Nat} {request : Request}
    {stage : Stage} (found : state.requests[index]? = some request)
    (stepped : advance settings state request = some stage) : Knows state request stage := by
  have knows := sound.knows index request found
  cases is : request.stage with
  | channel latestSeq =>
      simp only [advance, is] at stepped
      split at stepped
      · cases stepped
        exact repeated_known _ _
      · next none =>
        cases stepped
        exact (find_none request).mp none
  | unstored latestSeq =>
      simp only [advance, is] at stepped
      cases stepped
      rw [is] at knows
      exact ⟨knows, Int.le_refl _, fun message there _ => sound.past message there⟩
  | counting latestSeq asOf =>
      rw [is] at knows
      obtain ⟨none, counts⟩ := knows
      simp only [advance, is] at stepped
      split at stepped
      · next seconds refused =>
        cases stepped
        obtain ⟨-, oldest, listed, -, rfl⟩ := retry_some refused
        obtain ⟨since, message, there, sent, rfl⟩ := mem_recent listed
        have before := counts.before message there sent
        exact ceil_bounds (by omega) (by omega)
      · next free =>
        cases stepped
        exact ⟨none, counts, retry_none free⟩
  | counted latestSeq asOf =>
      rw [is] at knows
      obtain ⟨none, counts, less⟩ := knows
      simp only [advance, is] at stepped
      split at stepped
      · cases stepped
        exact ⟨none, counts, less, ⟨latestSeq, rfl⟩, counts.now, Int.le_refl _⟩
      · cases stepped
        trivial
  | inserted message asOf =>
      rw [is] at knows
      obtain ⟨-, -, -, ⟨latestSeq, made⟩, -⟩ := knows
      simp only [advance, is] at stepped
      cases stepped
      exact ⟨latestSeq, message.sentAt, made⟩
  | answered | lost =>
      simp only [advance, is] at stepped
      cases stepped
  | informed order =>
      simp only [advance, is] at stepped
      split at stepped
      · next reply refused =>
        cases stepped
        rcases refusal_reply refused with rfl | rfl
        · trivial
        · trivial
      · split at stepped
        · cases stepped
          trivial
        · cases stepped
          trivial
  | admitted isOpen =>
      simp only [advance, is] at stepped
      split at stepped
      · cases stepped
        exact repeated_known _ _
      · split at stepped
        · cases stepped
          trivial
        · cases stepped
          trivial
  | arrived | opening | opened | unsent | sender =>
      simp only [advance, is] at stepped
      repeat' split at stepped
      all_goals cases stepped
      all_goals trivial

/-! ## Every turn keeps it -/

@[simp] theorem write_now (request : Request) : (state.write request).now = state.now := by
  rw [State.write]
  split <;> rfl

@[simp] theorem write_clock (request : Request) : (state.write request).clock = state.clock := by
  rw [State.write]
  split <;> rfl

@[simp] theorem write_orders (request : Request) : (state.write request).orders = state.orders := by
  rw [State.write]
  split <;> rfl

@[simp] theorem write_requests (request : Request) :
    (state.write request).requests = state.requests := by
  rw [State.write]
  split <;> rfl

@[simp] theorem write_condemned (request : Request) :
    (state.write request).condemned = state.condemned := by
  rw [State.write]
  split <;> rfl

theorem write_messages (request : Request) :
    (∃ message asOf, request.stage = .inserted message asOf ∧
      (state.write request).messages = state.messages ++ [message]) ∨
    (∀ message asOf, request.stage ≠ .inserted message asOf) ∧
      (state.write request).messages = state.messages := by
  cases is : request.stage with
  | inserted message asOf => exact .inl ⟨message, asOf, rfl, by simp [State.write, is]⟩
  | _ => exact .inr ⟨by simp, by simp [State.write, is]⟩

/-- One message more: the sender's window still holds no more than the limit. -/
theorem limit_added {message : Message} {asOf : Int} {senderId : UserId} {inside : Int → Bool}
    (less : (recent state message.senderId asOf).length < sendLimit) (since : asOf ≤ message.sentAt)
    (short : ∀ first second : Int, inside first = true → inside second = true →
      second - window < first)
    (limit : (within state senderId inside).length ≤ sendLimit) :
    ((state.messages ++ [message]).filter fun other =>
      other.senderId == senderId && inside other.sentAt).length ≤ sendLimit := by
  rw [List.filter_append, List.length_append]
  by_cases counted : (message.senderId == senderId && inside message.sentAt) = true
  · have parts := counted
    rw [Bool.and_eq_true, beq_iff_eq] at parts
    obtain ⟨rfl, inner⟩ := parts
    -- Whatever is in a window with the new message is recent where it was counted.
    have fewer : (within state message.senderId inside).length ≤
        (within state message.senderId fun sentAt => decide (asOf - window < sentAt)).length := by
      apply List.Sublist.length_le
      apply List.monotone_filter_right
      intro other is
      rw [Bool.and_eq_true] at is ⊢
      refine ⟨is.1, decide_eq_true ?_⟩
      have close := short other.sentAt message.sentAt is.2 inner
      omega
    rw [← recent_length] at fewer
    have one : [message].filter (fun other => other.senderId == message.senderId &&
        inside other.sentAt) = [message] := by
      rw [List.filter_singleton, counted]
      rfl
    rw [one, List.length_singleton]
    simp only [within] at fewer
    omega
  · have none : [message].filter (fun other => other.senderId == senderId &&
        inside other.sentAt) = [] := by
      rw [Bool.not_eq_true] at counted
      rw [List.filter_singleton, counted]
      rfl
    rw [none, List.length_nil, Nat.add_zero]
    exact limit

/-- With requests and messages only fewer, and time no earlier. -/
theorem sound_frame (sound : Sound settings state) (later : state.now ≤ after.now)
    (fewer : after.messages.Sublist state.messages)
    (same : after.requests = state.requests)
    (condemned : ∀ orderId ∈ after.condemned, ∃ order, after.orders orderId = some order ∧
      pastRetention order settings.retentionDays after.clock = true) : Sound settings after where
  senders := same ▸ sound.senders
  channels := same ▸ sound.channels
  knows := by
    intro index request found
    rw [same] at found
    exact knows_fewer (sound.knows index request found) later fewer
  past := fun message there => (sound.past message (fewer.subset there)).trans later
  distinct := sound.distinct.sublist fewer
  limit := fun senderId inside short =>
    (fewer.filter _).length_le.trans (sound.limit senderId inside short)
  condemned := condemned

theorem past_later {order : OrderForChat} {days : Nat} {clock later : Int} (on : clock ≤ later)
    (past : pastRetention order days clock = true) : pastRetention order days later = true := by
  rw [pastRetention, Option.any_eq_true] at past ⊢
  obtain ⟨endedAt, ended, past⟩ := past
  refine ⟨endedAt, ended, ?_⟩
  rw [decide_eq_true_eq] at past ⊢
  omega

theorem past_becomes {before after : OrderForChat} {days : Nat} {clock : Int}
    (becomes : mayBecome (some before) after = true)
    (past : pastRetention before days clock = true) : pastRetention after days clock = true := by
  rw [pastRetention, Option.any_eq_true] at past ⊢
  obtain ⟨endedAt, ended, past⟩ := past
  refine ⟨endedAt, ?_, past⟩
  simp only [mayBecome, Option.all_some, ended, Option.isNone_some, Bool.false_or, beq_iff_eq]
    at becomes
  exact becomes.symm

/-- The requests stay exclusive and keep what they know when one of them moves on. -/
theorem sound_put (sound : Sound settings state) {index : Nat} {request : Request} {stage : Stage}
    (found : state.requests[index]? = some request)
    (sender : heldSender settings { request with stage } = none ∨
      heldSender settings { request with stage } = heldSender settings request ∨
      ∀ (other : Nat) found, state.requests[other]? = some found →
        heldSender settings found ≠ heldSender settings { request with stage })
    (channel : heldChannel { request with stage } = none ∨
      heldChannel { request with stage } = heldChannel request ∨
      ∀ (other : Nat) found, state.requests[other]? = some found →
        heldChannel found ≠ heldChannel { request with stage })
    (knows : Knows state request stage) : Sound settings (state.put index request stage) where
  senders := exclusive_set sound.senders found sender
  channels := exclusive_set sound.channels found channel
  knows := by
    intro other asked there
    rcases (get_set found).mp there with ⟨-, rfl⟩ | ⟨-, there⟩
    · have known : Knows state { request with stage } stage := knows
      exact knows_fewer known (Int.le_refl _) (List.Sublist.refl _)
    · exact knows_fewer (sound.knows other asked there) (Int.le_refl _) (List.Sublist.refl _)
  past := sound.past
  distinct := sound.distinct
  limit := sound.limit
  condemned := sound.condemned

/-- A commit under both locks. -/
theorem sound_commit (sound : Sound settings state) {index : Nat} {request : Request}
    {message : Message} {asOf : Int} (found : state.requests[index]? = some request)
    (is : request.stage = .inserted message asOf) :
    Sound settings ((state.write request).put index request (.answered (.sent message true))) := by
  have knows := sound.knows index request found
  rw [is] at knows
  obtain ⟨none, counts, less, ⟨latestSeq, made⟩, since, until_⟩ := knows
  have keyed : request.Keyed message := by
    rw [made]
    exact ⟨rfl, rfl, rfl⟩
  have stored : (state.write request).messages = state.messages ++ [message] := by
    simp [State.write, is]
  have holdsSender : heldSender settings request =
      some (settings.hashtext request.caller.userId) := by
    simp [heldSender, is, Stage.holdsSender]
  have holdsChannel : heldChannel request = some request.orderId := by
    simp [heldChannel, is, Stage.holdsChannel]
  constructor
  · rw [State.put, write_requests]
    exact exclusive_set sound.senders found (.inl rfl)
  · rw [State.put, write_requests]
    exact exclusive_set sound.channels found (.inl rfl)
  · intro other asked there
    rw [State.put, write_requests] at there
    rcases (get_set found).mp there with ⟨-, rfl⟩ | ⟨apart, at_⟩
    · exact ⟨latestSeq, message.sentAt, made⟩
    · clear there
      refine knows_frame (sound.knows other asked at_) (write_now request).ge ?_ ?_
      · intro holds kept among keyed'
        rw [State.put, stored, List.mem_append, List.mem_singleton] at among
        rcases among with among | rfl
        · exact among
        · have same : heldChannel request = heldChannel asked := by
            rw [holdsChannel, heldChannel, if_pos holds, ← keyed'.1, keyed.1]
          exact absurd (sound.channels index other request asked found at_ same
            (by simp [holdsChannel])) apart
      · intro holds
        have differs : (message.senderId == asked.caller.userId) = false := by
          rw [beq_eq_false_iff_ne]
          intro same
          have locks : heldSender settings request = heldSender settings asked := by
            rw [holdsSender, heldSender, if_pos holds, ← same, keyed.2.1]
          exact apart (sound.senders index other request asked found at_ locks
            (by simp [holdsSender]))
        rw [ofSender, State.put, stored, List.filter_append, List.filter_singleton, differs]
        simp [ofSender]
  · intro kept among
    rw [State.put, stored, List.mem_append, List.mem_singleton] at among
    rw [State.put, write_now]
    rcases among with among | rfl
    · exact sound.past kept among
    · exact until_
  · rw [State.put, stored, Distinct, List.pairwise_append]
    refine ⟨sound.distinct, List.pairwise_singleton _ _, ?_⟩
    intro kept among added is' same
    rw [List.mem_singleton] at is'
    subst is'
    exact none kept among ⟨same.1.trans keyed.1, same.2.1.trans keyed.2.1, same.2.2.trans keyed.2.2⟩
  · intro senderId inside short
    rw [within, State.put, stored]
    rw [← keyed.2.1] at less
    exact limit_added less since short (sound.limit senderId inside short)
  · intro orderId listed
    rw [State.put, write_condemned] at listed
    rw [State.put, write_orders, write_clock]
    exact sound.condemned orderId listed

theorem write_fewer {request : Request}
    (quiet : ∀ message asOf, request.stage ≠ .inserted message asOf) :
    (state.write request).messages.Sublist state.messages := by
  rcases write_messages request with ⟨message, asOf, is, -⟩ | ⟨-, same⟩
  · exact absurd is (quiet message asOf)
  · rw [same]

theorem write_quiet {request : Request} (quiet : ∀ message asOf, request.stage ≠ .inserted message asOf)
    (sound : Sound settings state) : Sound settings (state.write request) := by
  refine sound_frame sound (write_now request).ge (write_fewer quiet) (write_requests request) ?_
  intro orderId listed
  rw [write_condemned] at listed
  rw [write_orders, write_clock]
  exact sound.condemned orderId listed

theorem sound_moved (sound : Sound settings state) (moved : Moved settings state after) :
    Sound settings after := by
  cases moved with
  | time now later => exact sound_frame sound later (List.Sublist.refl _) rfl sound.condemned
  | clock time later =>
      refine sound_frame sound (Int.le_refl _) (List.Sublist.refl _) rfl ?_
      intro orderId listed
      obtain ⟨order, is, past⟩ := sound.condemned orderId listed
      exact ⟨order, is, past_later later past⟩
  | order orderId order becomes =>
      refine sound_frame sound (Int.le_refl _) (List.Sublist.refl _) rfl ?_
      intro other listed
      obtain ⟨before, is, past⟩ := sound.condemned other listed
      by_cases same : other = orderId
      · subst same
        rw [is] at becomes
        exact ⟨order, Function.update_self .., past_becomes becomes past⟩
      · exact ⟨before, (Function.update_of_ne same _ _).trans is, past⟩
  | arrive request arrived =>
      constructor
      · exact exclusive_append sound.senders (by simp [heldSender, arrived, Stage.holdsSender])
      · exact exclusive_append sound.channels (by simp [heldChannel, arrived, Stage.holdsChannel])
      · intro index asked there
        rcases get_append there with there | ⟨-, rfl⟩
        · exact knows_fewer (sound.knows index asked there) (Int.le_refl _) (List.Sublist.refl _)
        · rw [arrived]
          trivial
      · exact sound.past
      · exact sound.distinct
      · exact sound.limit
      · exact sound.condemned
  | advance index request stage found stepped =>
      by_cases commits : ∃ message asOf, request.stage = .inserted message asOf
      · obtain ⟨message, asOf, is⟩ := commits
        simp only [advance, is, Option.some.injEq] at stepped
        subst stepped
        exact sound_commit sound found is
      · have quiet : ∀ message asOf, request.stage ≠ .inserted message asOf := fun message asOf is =>
          commits ⟨message, asOf, is⟩
        have written := write_quiet quiet sound
        have sender := advance_sender stepped
        have channel := advance_channel stepped
        have knows := advance_knows sound found stepped
        have same : (state.write request).requests = state.requests := write_requests request
        rw [← same] at found sender channel
        exact sound_put written found sender channel
          (knows_fewer knows (write_now request).ge (write_fewer quiet))
  | leave index request stage found unanswered left =>
      have free : stage.holdsSender = false ∧ stage.holdsChannel = false := by
        rcases left with rfl | ⟨rfl, -⟩
        · exact ⟨rfl, rfl⟩
        · exact ⟨rfl, rfl⟩
      have known : Knows state request stage := by
        rcases left with rfl | ⟨rfl, -⟩
        · trivial
        · trivial
      exact sound_put sound found (.inl (by simp [heldSender, free.1]))
        (.inl (by simp [heldChannel, free.2])) known
  | condemn orderId order is past =>
      refine sound_frame sound (Int.le_refl _) (List.Sublist.refl _) rfl ?_
      intro other listed
      rcases List.mem_cons.mp listed with rfl | listed
      · exact ⟨order, is, past⟩
      · exact sound.condemned other listed
  | delete orderId condemned free =>
      exact sound_frame sound (Int.le_refl _) List.filter_sublist rfl sound.condemned

theorem fresh_sound (fresh : state.Fresh) : Sound settings state := by
  obtain ⟨-, messages, requests, condemned⟩ := fresh
  constructor
  · simp [Exclusive, requests]
  · simp [Exclusive, requests]
  · simp [requests]
  · simp [messages]
  · simp [Distinct, messages]
  · simp [within, messages]
  · simp [condemned]

/-- Whatever the requests do together, every state reached is sound. -/
theorem run_sound (fresh : state.Fresh) (run : Run (turn settings) state after) :
    Sound settings after :=
  run_keeps (fun _ _ _ sound turned => sound_moved sound (turn_moved turned)) (fresh_sound fresh) run

end Turns

/-! ## One channel -/

def settingsOne : Settings := { retentionDays := 90, hashtext := fun _ => 0 }

def blank : State :=
  { now := 0
    clock := 0
    orders := fun _ => some { requesterId := "u1", courierId := some "u2", endedAt := none }
    channels := fun _ => none
    messages := []
    requests := []
    condemned := [] }

theorem blank_fresh : blank.Fresh := ⟨fun _ => rfl, rfl, rfl, rfl⟩

def inputOf (body : Units) : Body :=
  .object
    [(keyName "clientId", .string (keyName "11111111-1111-4111-8111-111111111111")),
      (keyName "body", .string body)]

def callerOne : AuthContext := { userId := "u1", isAdmin := false }

/-- A request and so many of its statements. -/
def statements (index : Nat) (body : Units) (count : Nat) : List Event :=
  .arrive 1 callerOne (inputOf body) :: List.replicate count (.advance index)

end Foc.Chat.Sending
