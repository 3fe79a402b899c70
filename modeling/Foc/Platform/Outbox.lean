import Foc.Library.ReadCommitted
import Mathlib

/-!
The transactional outbox (`events/outbox.ts`) and its retention
(`events/retention.ts`): producers that append events, each while it holds the
aggregate's lock, any number of relays that claim, publish and mark rows, and the
pruner, over one service's database and a broker. A row is named by its aggregate
and its `seq`; its `id` and what the event carries are left out, so a payload the
catalogue refuses is a publish that fails before anything is sent. Times are the
database's, in microseconds. A claim takes its rows in any order: `ORDER BY seq`
is one of them.
-/
namespace Foc.Outbox
open Library.ReadCommitted

abbrev AggregateId := String

structure Event where
  aggregateId : AggregateId
  seq : Nat
  deriving DecidableEq, Repr

/-- An `outbox_events` row. -/
structure OutboxRow where
  publishedAt : Option Int
  attempts : Nat
  nextAttemptAt : Int
  deriving DecidableEq, Repr

inductive Key where
  | aggregate (id : AggregateId)
  | event (event : Event)
  deriving DecidableEq, Repr

@[reducible] def RowOf : Key → Type
  | .aggregate _ => Unit
  | .event _ => OutboxRow

abbrev Rows := Store RowOf

def eventRow (rows : Rows) (event : Event) : Option OutboxRow := rows.lookup (Key.event event)

structure Settings where
  backoffMs : Nat
  maxBackoffMs : Nat
  outboxRetention : Int

/-- How a publish ends for the relay: the last two stop its claim. -/
inductive Outcome where
  | confirmed
  | unroutable
  | refused
  | timedOut
  deriving DecidableEq, Repr

/-- One row a claim tried to publish: its place in the log of what was sent, unless
it failed before that, and its outcome, unless the claim ended first. -/
structure Attempt where
  event : Event
  send : Option Nat
  outcome : Option Outcome
  deriving DecidableEq, Repr

structure Claim where
  rows : List Event
  attempts : List Attempt
  committed : Bool
  deriving DecidableEq, Repr

/-- A message sent; a stray one by a relay that had yet to learn that the database
had rolled its claim back. -/
structure Sent where
  event : Event
  stray : Bool
  deriving DecidableEq, Repr

/-- The clock, the sequence and what has happened so far. `deliveries` and
`outcomes` name messages by their place in `sends`. -/
structure Env where
  clock : Int
  nextSeq : Nat
  appended : List Event
  sends : List Sent
  deliveries : List Nat
  outcomes : List (Nat × Outcome)
  claims : List Claim
  strays : List Event
  deriving DecidableEq, Repr

inductive Pc where
  | append (now : Int) (todo : List AggregateId) (done : List Event)
  | lockAggregate (now : Int) (aggregateId : AggregateId) (todo : List AggregateId)
      (done : List Event)
  | nextSeq (now : Int) (aggregateId : AggregateId) (todo : List AggregateId)
      (done : List Event)
  | insertOutboxEvent (now : Int) (event : Event) (todo : List AggregateId) (done : List Event)
  | claim (now : Int) (batchSize : Nat)
  | publish (now : Int) (claim : Claim) (rest : List Event)
  | confirm (now : Int) (claim : Claim) (send : Nat) (event : Event) (rest : List Event)
  | recordFailure (now : Int) (claim : Claim) (event : Event) (rest : List Event) (halts : Bool)
  | markPublished (now : Int) (claim : Claim) (event : Event) (rest : List Event)
  | halted (claim : Claim)
  | prune (now : Int) (batchSize : Nat)
  | pruned
  | failed
  deriving DecidableEq, Repr

inductive Answer where
  | sequence (seq : Nat)
  | invalid
  | sent (send : Nat)
  | outcome (outcome : Outcome)

inductive Stimulus where
  | tick (clock : Int)
  | deliver (send : Nat)
  | stray (event : Event)

/-! ## Statements -/

/-- `NOT EXISTS (SELECT 1 FROM outbox_events earlier ..)`, turned around. -/
def earlierUnpublished (snapshot : Rows) (event : Event) : Bool :=
  snapshot.entries.any fun
    | ⟨.event earlier, row⟩ => decide (earlier.aggregateId = event.aggregateId) &&
        row.publishedAt.isNone && decide (earlier.seq < event.seq)
    | _ => false

/-- The condition of `CLAIM_SQL`. -/
def claimWhere (now : Int) (snapshot : Rows) : (key : Key) → RowOf key → Bool
  | .event event, row => row.publishedAt.isNone && decide (row.nextAttemptAt ≤ now) &&
      !earlierUnpublished snapshot event
  | .aggregate _, _ => false

def pruneWhere (retention now : Int) : (key : Key) → RowOf key → Bool
  | .event _, row => row.publishedAt.any fun publishedAt => decide (publishedAt < now - retention)
  | .aggregate _, _ => false

def setRow (change : OutboxRow → OutboxRow) : (key : Key) → RowOf key → Option (RowOf key)
  | .event _, row => some (change row)
  | .aggregate _, row => some row

def eventOf (hit : Sigma RowOf) : Option Event :=
  match hit.1 with
  | .event event => some event
  | .aggregate _ => none

def hitEvents (hits : List (Sigma RowOf)) : List Event := hits.filterMap eventOf

def published (now : Int) (row : OutboxRow) : OutboxRow :=
  { row with publishedAt := some now, attempts := row.attempts + 1 }

def backedOff (settings : Settings) (now : Int) (row : OutboxRow) : OutboxRow :=
  let retryInMs := min settings.maxBackoffMs (settings.backoffMs * 2 ^ row.attempts)
  { row with attempts := row.attempts + 1, nextAttemptAt := now + 1000 * retryInMs }

def Outcome.halts : Outcome → Bool
  | .confirmed => false
  | .unroutable => false
  | .refused => true
  | .timedOut => true

def Claim.tried (claim : Claim) (event : Event) (send : Option Nat) (outcome : Option Outcome) :
    Claim :=
  { claim with attempts := claim.attempts ++ [{ event, send, outcome }] }

def locking (key : Key) (next : List (Sigma RowOf) → Pc) : Scan RowOf Pc :=
  { wanted := fun _ found _ => decide (found = key)
    write := fun _ row => some row
    skipLocked := false
    limit := none
    next := fun _ => next }

def updating (event : Event) (change : OutboxRow → OutboxRow) (next : Pc) : Scan RowOf Pc :=
  { wanted := fun _ found _ => decide (found = .event event)
    write := setRow change
    skipLocked := false
    limit := none
    next := fun _ _ => next }

def claiming (now : Int) (batchSize : Nat) : Scan RowOf Pc :=
  { wanted := claimWhere now
    write := fun _ row => some row
    skipLocked := true
    limit := some batchSize
    next := fun _ hits =>
      .publish now { rows := hitEvents hits, attempts := [], committed := false }
        (hitEvents hits) }

def pruning (settings : Settings) (now : Int) (batchSize : Nat) : Scan RowOf Pc :=
  { wanted := fun _ => pruneWhere settings.outboxRetention now
    write := fun _ _ => none
    skipLocked := true
    limit := some batchSize
    next := fun _ _ => .pruned }

/-- Where the relay goes once it knows how a publish ended. -/
def afterOutcome (now : Int) (claim : Claim) (event : Event) (rest : List Event) : Outcome → Pc
  | .confirmed => .markPublished now claim event rest
  | failure => .recordFailure now claim event rest failure.halts

def request (settings : Settings) : Pc → Request RowOf Pc Answer
  | .append _ [] _ => .commit
  | .append now (aggregateId :: todo) done =>
      -- a new aggregate is locked by its insertion
      .insert (.aggregate aggregateId) () fun inserted =>
        if inserted then .nextSeq now aggregateId todo done
        else .lockAggregate now aggregateId todo done
  | .lockAggregate now aggregateId todo done =>
      .scan <| locking (.aggregate aggregateId) fun hits =>
        if hits.isEmpty then .failed else .nextSeq now aggregateId todo done
  | .nextSeq now aggregateId todo done => .await fun
      | .sequence seq => .insertOutboxEvent now { aggregateId, seq } todo done
      | _ => .failed
  | .insertOutboxEvent now event todo done =>
      .insert (.event event) { publishedAt := none, attempts := 0, nextAttemptAt := now }
        fun inserted => if inserted then .append now todo (done ++ [event]) else .failed
  | .claim now batchSize => .scan (claiming now batchSize)
  | .publish _ _ [] => .commit
  | .publish now claim (event :: rest) => .await fun
      | .sent send => .confirm now claim send event rest
      | .invalid =>
          .recordFailure now (claim.tried event none (some .refused)) event rest true
      | _ => .failed
  | .confirm now claim send event rest => .await fun
      | .outcome outcome =>
          afterOutcome now (claim.tried event (some send) (some outcome)) event rest outcome
      | _ => .failed
  | .recordFailure now claim event rest halts =>
      .scan <| updating event (backedOff settings now)
        (if halts then .halted claim else .publish now claim rest)
  | .markPublished now claim event rest =>
      .scan <| updating event (published now) (.publish now claim rest)
  | .halted _ => .commit
  | .prune now batchSize => .scan (pruning settings now batchSize)
  | .pruned => .commit
  | .failed => .stop

/-! ## The broker -/

def answered (env : Env) : Pc → Answer → Option Env
  | .nextSeq .., .sequence seq =>
      if seq = env.nextSeq then some { env with nextSeq := seq + 1 } else none
  | .publish _ _ (event :: _), .sent send =>
      if send = env.sends.length then
        some { env with sends := env.sends ++ [{ event, stray := false }] }
      else none
  | .publish _ _ (_ :: _), .invalid => some env
  | .confirm _ _ send _ _, .outcome outcome =>
      if outcome = .confirmed → send ∈ env.deliveries then
        some { env with outcomes := env.outcomes ++ [(send, outcome)] }
      else none
  | _, _ => none

/-- A message sent may be delivered at any later time, whatever became of its
claim, and again. -/
def stimulus (env : Env) : Stimulus → Option Env
  | .tick clock => if env.clock ≤ clock then some { env with clock } else none
  | .deliver send =>
      if send < env.sends.length then some { env with deliveries := env.deliveries ++ [send] }
      else none
  | .stray event =>
      if event ∈ env.strays then
        some { env with sends := env.sends ++ [{ event, stray := true }] }
      else none

def starts (env : Env) : Pc → Bool
  | .append now _ done => decide (now = env.clock ∧ done = [])
  | .claim now _ => decide (now = env.clock)
  | .prune now _ => decide (now = env.clock)
  | _ => false

/-- The claim a relay has under way, the message it waits for included. -/
def underway : Pc → Option Claim
  | .publish _ claim _ => some claim
  | .confirm _ claim send event _ => some (claim.tried event (some send) none)
  | .recordFailure _ claim .. => some claim
  | .markPublished _ claim .. => some claim
  | .halted claim => some claim
  | _ => none

def appending : Pc → List Event
  | .append _ _ done => done
  | _ => []

/-- The row a relay is about to send. -/
def sending : Pc → Option Event
  | .publish _ _ (event :: _) => some event
  | _ => none

def Claim.commit (claim : Claim) : Claim := { claim with committed := true }

def finished (env : Env) (pc : Pc) : Env :=
  { env with
    appended := env.appended ++ appending pc
    claims := env.claims ++ (underway pc).toList.map Claim.commit }

def aborted (env : Env) (pc : Pc) : Env :=
  { env with
    claims := env.claims ++ (underway pc).toList
    strays := env.strays ++ (sending pc).toList }

def outbox (settings : Settings) : Machine RowOf Pc Answer Env Stimulus :=
  { request := request settings, starts, answered, finished, aborted, stimulus }

def opened (clock : Int) : Env :=
  { clock, nextSeq := 0, appended := [], sends := [], deliveries := [], outcomes := [],
    claims := [], strays := [] }

end Foc.Outbox
