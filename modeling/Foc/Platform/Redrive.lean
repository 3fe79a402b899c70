import Foc.Library.EventLoop
import Foc.Library.LockTable
import Foc.Platform.Sender
import Mathlib.Logic.Function.Basic

/-!
Redriving dead letters (`redrive`, `publishToQueue` and the table of `dead-letters.ts`):
any number of calls on any rows, each one transaction that holds the row's lock while the
broker is asked. The broker hands an unroutable mandatory message back before it confirms
it, to whoever listens on the channel.
-/
namespace Foc.Redrive
open Library.EventLoop Library.LockTable
open Foc.Sender (Account SenderProperties failureHeaders headerRedriveOf headerSender redriveProperties)

/-- What a dead letter holds for good. -/
structure Letter where
  queue : String
  body : List UInt8
  messageId : Option String
  properties : SenderProperties

/-- `call` is the call that wrote the stamp. -/
structure Stamp where
  redrivenBy : String
  redriveReason : String
  redriveCorrelationId : String
  call : Nat

/-- A row, `WAITING` until it is stamped. -/
structure DeadLetter where
  letter : Letter
  redriven : Option Stamp

/-- What `dead_letters_guard` lets an update do. -/
def Guard (old new : DeadLetter) : Prop := old.redriven = none ∧ new.letter = old.letter

structure Message where
  routingKey : String
  body : List UInt8
  messageId : Option String
  properties : SenderProperties

/-- How a call ends. At `commitLost` the database fails it like at `databaseError`, but the
commit had taken effect. -/
inductive Result where
  | redriven
  | alreadyRedriven
  | notFound
  | brokerUnavailable
  | publishFailed
  | notDelivered
  | databaseError
  | commitLost
  deriving DecidableEq, Repr

inductive Phase where
  | waiting
  | locked (letter : Letter)
  | publishing (letter : Letter)
  | confirmed (letter : Letter)
  | stamped (letter : Letter)
  | ended (result : Result)

/-- A call of `redrive`. `alive` is its database connection, `offline` that the broker was
not connected when it began, and the rest what became of its message. -/
structure Call where
  id : String
  actorId : String
  reason : String
  correlationId : String
  offline : Bool
  phase : Phase
  alive : Bool
  channel : Nat
  sent : Option Message
  routed : Option Bool
  returned : Bool
  handedBack : Bool
  acknowledged : Bool

structure State where
  channel : Option Nat
  rows : String → Option DeadLetter
  calls : List Call

def initial : State := { channel := none, rows := fun _ => none, calls := [] }

inductive Event where
  | park (id : String) (letter : Letter)
  | broker (channel : Option Nat)
  | start (id actorId reason correlationId : String)
  | lock (index : Nat)
  | publish (index : Nat) (throws : Bool)
  | route (index : Nat) (queued : Bool)
  | handBack (index : Nat)
  | handBackOther (channel : Nat) (messageId : Option String)
  | answer (index : Nat) (error : Bool)
  | stamp (index : Nat)
  | commit (index : Nat) (lost : Bool)
  | fail (index : Nat)

/-- The row a call's transaction has locked. -/
def held (call : Call) : Option String :=
  match call.phase with
  | .locked _ | .publishing _ | .confirmed _ | .stamped _ => if call.alive then some call.id else none
  | .waiting | .ended _ => none

def put (state : State) (index : Nat) (call : Call) : State :=
  { state with calls := state.calls.set index call }

def conclude (state : State) (index : Nat) (call : Call) (result : Result) : State :=
  put state index { call with phase := .ended result }

/-- The listener of a call that waits for the broker: it knows its message by the id. -/
def hear (channel : Nat) (messageId : Option String) (call : Call) : Call :=
  match call.phase with
  | .publishing letter =>
      if call.channel = channel ∧ letter.messageId = messageId then { call with handedBack := true }
      else call
  | _ => call

def hearAll (state : State) (channel : Nat) (messageId : Option String) : State :=
  { state with calls := state.calls.map (hear channel messageId) }

def redriveMessage (account : Option Account) (id : String) (letter : Letter) : Message :=
  { routingKey := letter.queue
    body := letter.body
    messageId := letter.messageId
    properties := redriveProperties letter.properties id account }

def stampOf (index : Nat) (call : Call) : Stamp :=
  { redrivenBy := call.actorId, redriveReason := call.reason
    redriveCorrelationId := call.correlationId, call := index }

/-- `SELECT ... FOR UPDATE` and what is checked of the row. -/
def takeLock (state : State) (index : Nat) (call : Call) : State :=
  match state.rows call.id with
  | none => conclude state index call .notFound
  | some row =>
      match row.redriven with
      | some _ => conclude state index call .alreadyRedriven
      | none => put state index { call with phase := .locked row.letter }

/-- Whether the broker may answer: an error at any time, a confirmation once the message is
routed, or handed back. -/
def mayAnswer (call : Call) (error : Bool) : Bool :=
  error || match call.routed with
    | none => false
    | some queued => queued || call.returned

/-- The callback of `channel.publish`. -/
def settle (state : State) (index : Nat) (call : Call) (letter : Letter) (error : Bool) : State :=
  if error then conclude state index call .publishFailed
  else if call.handedBack then conclude state index call .notDelivered
  else put state index { call with phase := .confirmed letter, acknowledged := true }

/-- What a failing database does to a call: it ends, but for one that waits for the broker,
which ends at its next statement. -/
def breakOff (state : State) (index : Nat) (call : Call) : Option State :=
  match call.phase with
  | .publishing _ => some (put state index { call with alive := false })
  | .ended _ => none
  | _ => some (conclude state index call .databaseError)

def turn (account : Option Account) : Turn State Event := fun state event =>
  match event with
  | .park id letter =>
      match state.rows id with
      | none => some { state with
          rows := Function.update state.rows id (some { letter, redriven := none }) }
      | some _ => none
  | .broker channel => some { state with channel }
  | .start id actorId reason correlationId =>
      some { state with
        calls := state.calls ++
          [{ id, actorId, reason, correlationId, offline := state.channel.isNone
             phase := if state.channel.isSome then .waiting else .ended .brokerUnavailable
             alive := true, channel := 0, sent := none, routed := none, returned := false
             handedBack := false, acknowledged := false }] }
  | .lock index =>
      state.calls[index]?.bind fun call =>
        match call.phase with
        | .waiting =>
            if state.calls.all fun other => decide (held other ≠ some call.id) then
              some (takeLock state index call)
            else none
        | _ => none
  | .publish index throws =>
      state.calls[index]?.bind fun call =>
        match call.phase with
        | .locked letter =>
            match state.channel with
            | none => some (conclude state index call .publishFailed)
            | some channel =>
                if throws then some (conclude state index call .publishFailed)
                else some (put state index
                  { call with
                    phase := .publishing letter, channel
                    sent := some (redriveMessage account call.id letter) })
        | _ => none
  | .route index queued =>
      state.calls[index]?.bind fun call =>
        if call.sent.isSome ∧ call.routed = none then
          some (put state index { call with routed := some queued })
        else none
  | .handBack index =>
      state.calls[index]?.bind fun call =>
        match call.phase with
        | .publishing letter =>
            if call.routed = some false then
              some (hearAll (put state index { call with returned := true }) call.channel
                letter.messageId)
            else none
        | _ => none
  | .handBackOther channel messageId => some (hearAll state channel messageId)
  | .answer index error =>
      state.calls[index]?.bind fun call =>
        match call.phase with
        | .publishing letter =>
            if mayAnswer call error then some (settle state index call letter error) else none
        | _ => none
  | .stamp index =>
      state.calls[index]?.bind fun call =>
        match call.phase with
        | .confirmed letter =>
            if call.alive then some (put state index { call with phase := .stamped letter }) else none
        | _ => none
  | .commit index lost =>
      state.calls[index]?.bind fun call =>
        match call.phase with
        | .stamped _ =>
            if call.alive then
              some { conclude state index call (if lost then .commitLost else .redriven) with
                rows := Function.update state.rows call.id ((state.rows call.id).map fun row =>
                  { row with redriven := some (stampOf index call) }) }
            else none
        | _ => none
  | .fail index => state.calls[index]?.bind (breakOff state index)

end Foc.Redrive
