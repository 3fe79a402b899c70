import Foc.Library.ReadCommitted

/-!
The transactional inbox (`events/inbox.ts`), dead letters (`events/dead-letters.ts`)
and the retention of the inbox (`events/retention.ts`): `processOnce`, `park`,
`redrive` and the inbox half of `pruneEventTables` over one service's database,
with the copies of events in its queues. A consumer is named by its queue. Times
are the database's. What a message carries besides its event id is left out.
-/
namespace Foc.Inbox
open Library.ReadCommitted

abbrev Consumer := String
abbrev EventId := String
abbrev LetterId := String

/-- The text of an event id: the uuid it names, and whether it is spelled the
way PostgreSQL prints it. -/
structure IdText where
  uuid : EventId
  canonical : Bool
  deriving DecidableEq, Repr

/-- An event as one of its copies brings it to a consumer. -/
structure Delivery where
  consumer : Consumer
  eventId : IdText
  redriven : Bool
  deriving DecidableEq, Repr

/-- In the consumer's queue or a retry queue, with the consumer and not
acknowledged, or in the dead-letter queue. -/
inductive Place where
  | queued
  | held
  | dead
  deriving DecidableEq, Repr

structure Copy where
  delivery : Delivery
  place : Place
  deriving DecidableEq, Repr

/-- A committed effect, by the time its transaction began. -/
structure Effect where
  consumer : Consumer
  eventId : EventId
  processedAt : Int
  deriving DecidableEq, Repr

/-- A `processed_events` row. -/
structure Processed where
  processedAt : Int
  deriving DecidableEq, Repr

/-- A `dead_letters` row. -/
structure DeadLetter where
  queue : Consumer
  eventId : IdText
  redrivenAt : Option Int
  deriving DecidableEq, Repr

inductive Key where
  | processed (consumer : Consumer) (eventId : EventId)
  | letter (id : LetterId)
  deriving DecidableEq, Repr

@[reducible] def RowOf : Key → Type
  | .processed _ _ => Processed
  | .letter _ => DeadLetter

abbrev Rows := Store RowOf

def processedRow (rows : Rows) (consumer : Consumer) (eventId : EventId) : Option Processed :=
  rows.lookup (Key.processed consumer eventId)

def letterRow (rows : Rows) (id : LetterId) : Option DeadLetter := rows.lookup (Key.letter id)

structure Env where
  clock : Int
  copies : AList fun _ : Nat => Copy
  effects : List Effect

inductive Pc where
  | insertProcessed (delivery : Delivery) (now : Int)
  | applyEffect (delivery : Delivery) (now : Int)
  | processed (delivery : Delivery) (now : Int) (applied : Bool)
  | insertDeadLetter (id : LetterId) (delivery : Delivery)
  | parked (delivery : Delivery)
  | lockDeadLetter (id : LetterId) (now : Int)
  | publishToQueue (id : LetterId) (letter : DeadLetter) (now : Int)
  | stampRedriven (id : LetterId) (now : Int)
  | redriven
  | pruneInbox (now : Int) (batchSize : Nat)
  | pruned
  | failed
  deriving DecidableEq, Repr

/-- What comes from outside the database: whether the effect succeeds, and the
copy a redrive puts in the queue with whether the broker confirms it. -/
inductive Answer where
  | effect (succeeds : Bool)
  | published (copy : Nat)
  | failed (copy : Option Nat)

inductive Stimulus where
  | tick (clock : Int)
  | publish (copy : Nat) (consumer : Consumer) (eventId : IdText)
  | deliver (copy : Nat)
  | requeue (copy : Nat)
  | resend (copy : Nat) (sent : Nat) (dead : Bool)
  | settle (copy : Nat)

/-! ## Statements -/

/-- `EXISTS (SELECT 1 FROM dead_letters ..)`: a waiting dead letter whose
`event_id` is the text of the row's. -/
def waiting (snapshot : Rows) (eventId : EventId) : Bool :=
  snapshot.entries.any fun
    | ⟨.letter _, row⟩ => decide (row.eventId = { uuid := eventId, canonical := true }) &&
        row.redrivenAt.isNone
    | _ => false

def pruneWhere (retention now : Int) (snapshot : Rows) : (key : Key) → RowOf key → Bool
  | .processed _ eventId, row =>
      decide (row.processedAt < now - retention) && !waiting snapshot eventId
  | .letter _, _ => false

def letterWhere (id : LetterId) (key : Key) (_ : RowOf key) : Bool := decide (key = .letter id)

def setLetter (change : DeadLetter → DeadLetter) : (key : Key) → RowOf key → Option (RowOf key)
  | .letter _, row => some (change row)
  | .processed _ _, row => some row

def hitLetter : List (Sigma RowOf) → Option DeadLetter
  | ⟨.letter _, row⟩ :: _ => some row
  | _ => none

def afterLock (id : LetterId) (now : Int) (hits : List (Sigma RowOf)) : Pc :=
  match hitLetter hits with
  | none => .failed
  | some letter => if letter.redrivenAt.isSome then .failed else .publishToQueue id letter now

def request (retention : Int) : Pc → Request RowOf Pc Answer
  | .insertProcessed delivery now =>
      .insert (.processed delivery.consumer delivery.eventId.uuid) { processedAt := now }
        fun inserted =>
          if inserted then .applyEffect delivery now else .processed delivery now false
  | .applyEffect delivery now => .await fun
      | .effect true => .processed delivery now true
      | _ => .failed
  | .processed .. => .commit
  | .insertDeadLetter id delivery =>
      .insert (.letter id)
        { queue := delivery.consumer, eventId := delivery.eventId, redrivenAt := none }
        fun inserted => if inserted then .parked delivery else .failed
  | .parked _ => .commit
  | .lockDeadLetter id now => .scan
      { wanted := fun _ => letterWhere id
        write := fun _ row => some row
        skipLocked := false
        limit := none
        next := fun _ hits => afterLock id now hits }
  | .publishToQueue id _ now => .await fun
      | .published _ => .stampRedriven id now
      | _ => .failed
  | .stampRedriven id now => .scan
      { wanted := fun _ => letterWhere id
        write := setLetter fun row => { row with redrivenAt := some now }
        skipLocked := false
        limit := none
        next := fun _ _ => .redriven }
  | .redriven => .commit
  | .pruneInbox now batchSize => .scan
      { wanted := pruneWhere retention now
        write := fun _ _ => none
        skipLocked := true
        limit := some batchSize
        next := fun _ _ => .pruned }
  | .pruned => .commit
  | .failed => .stop

/-! ## The queues -/

def Env.has (env : Env) (delivery : Delivery) (place : Place) : Bool :=
  env.copies.entries.any fun copy => decide (copy.2 = { delivery, place })

def Env.add (env : Env) (id : Nat) (copy : Copy) : Option Env :=
  if (env.copies.lookup id).isNone then
    some { env with copies := env.copies.insert id copy }
  else none

/-- A copy goes from one place to another. -/
def Env.move (env : Env) (id : Nat) (source target : Place) : Option Env := do
  let copy ← env.copies.lookup id
  if copy.place = source then
    some { env with copies := env.copies.insert id { copy with place := target } }
  else none

/-- A redrive that the broker got, confirmed or not, is a copy in the queue. -/
def answered (env : Env) : Pc → Answer → Option Env
  | .applyEffect .., .effect _ => some env
  | .publishToQueue _ letter _, .published copy =>
      env.add copy
        { delivery := { consumer := letter.queue, eventId := letter.eventId, redriven := true }
          place := .queued }
  | .publishToQueue _ letter _, .failed (some copy) =>
      env.add copy
        { delivery := { consumer := letter.queue, eventId := letter.eventId, redriven := true }
          place := .queued }
  | .publishToQueue .., .failed none => some env
  | _, _ => none

/-- A copy the consumer gives up on is sent to a retry queue or the dead-letter
queue before it is settled; a lost connection puts it back in its queue. -/
def stimulus (env : Env) : Stimulus → Option Env
  | .tick clock => if env.clock ≤ clock then some { env with clock } else none
  | .publish copy consumer eventId =>
      env.add copy { delivery := { consumer, eventId, redriven := false }, place := .queued }
  | .deliver copy => env.move copy .queued .held
  | .requeue copy => env.move copy .held .queued
  | .resend copy sent dead => do
      let found ← env.copies.lookup copy
      if found.place = .held then
        env.add sent { found with place := if dead then .dead else .queued }
      else none
  | .settle copy => some { env with copies := env.copies.erase copy }

def starts (env : Env) : Pc → Bool
  | .insertProcessed delivery now => decide (now = env.clock) && env.has delivery .held
  | .insertDeadLetter _ delivery => env.has delivery .dead
  | .lockDeadLetter _ now => decide (now = env.clock)
  | .pruneInbox now _ => decide (now = env.clock)
  | _ => false

def finished (env : Env) : Pc → Env
  | .processed delivery now true =>
      { env with effects := env.effects ++
          [{ consumer := delivery.consumer, eventId := delivery.eventId.uuid,
             processedAt := now }] }
  | _ => env

/-- One service's consumers, dead letters and pruner; `retention` is `inboxDays`. -/
def service (retention : Int) : Machine RowOf Pc Answer Env Stimulus :=
  { request := request retention, starts, answered, finished, stimulus }

def opened (clock : Int) : Env := { clock, copies := ∅, effects := [] }

end Foc.Inbox
