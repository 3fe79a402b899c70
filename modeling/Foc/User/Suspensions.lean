import Foc.Library.Calendar
import Foc.Library.EventLoop
import Foc.Library.LockTable
import Foc.Library.SlidingWindow
import Foc.User.Administration

/-!
Suspensions by administrators (`AdminService.suspend`), any number at a time. Each is a transaction
under READ COMMITTED, with a second one where an alert is raised at most once an hour. What a
transaction has written is its own until it commits; the rows and the advisory lock it holds are
its own until it ends. Account ids are in canonical form, and an id that is drawn comes with the
call.
-/
namespace Foc.User.Suspensions
open Library.EventLoop Library.LockTable Library.SlidingWindow Library.Calendar
open Sessions (AccountStatus UserId SessionId)
open Administration (User Role Session AuditAction AdminError)

abbrev Micros := Int

/-! ## Rows -/

/-- An actor that is null is the system. -/
structure AuditRecord where
  id : String
  actorId : Option UserId
  targetUserId : UserId
  action : AuditAction
  reason : String
  correlationId : String
  occurredAt : Micros
  deriving DecidableEq, Repr

structure OutboxRow where
  id : String
  eventType : String
  aggregateId : UserId
  payload : List (String × String)
  correlationId : String
  deriving DecidableEq, Repr

inductive AlertKind where
  | roleChange | adminSuspended | adminReactivated | bulkSuspensions | suspensionLimitReached
  | bulkReads
  deriving DecidableEq, Repr

inductive AlertDetails where
  | target (targetUserId : UserId) (reasonRef : String)
  | limit (suspensionsInLastHour limit : Nat)
  | threshold (suspensionsInLastHour threshold : Nat)
  | other
  deriving DecidableEq, Repr

structure Alert where
  kind : AlertKind
  actorId : UserId
  details : AlertDetails
  occurredAt : Micros
  deriving DecidableEq, Repr

structure Tables where
  users : AList fun _ : UserId => User
  roles : List (UserId × Role)
  sessions : AList fun _ : SessionId => Session
  audits : List AuditRecord
  alerts : List Alert
  outbox : List OutboxRow

structure Settings where
  stepUpWindowSeconds : Nat
  suspensionsAlertPerHour : Nat
  suspensionsLimitPerHour : Nat

def HOUR_SECONDS : Nat := 3600

def seconds (count : Nat) : Micros := count * 1000000

def hour : Micros := seconds HOUR_SECONDS

/-- When an administrator acted so. -/
def actedAt (audits : List AuditRecord) (actorId : UserId) (action : AuditAction) : List Micros :=
  (audits.filter fun record =>
    decide (record.actorId = some actorId) && decide (record.action = action)).map
      AuditRecord.occurredAt

def countActorActions (audits : List AuditRecord) (actorId : UserId) (action : AuditAction)
    (span now : Micros) : Nat :=
  (actedAt audits actorId action).countP (recent span now)

/-- When an alert of a kind was raised for an administrator. -/
def raisedAt (alerts : List Alert) (kind : AlertKind) (actorId : UserId) : List Micros :=
  (alerts.filter fun alert =>
    decide (alert.kind = kind) && decide (alert.actorId = actorId)).map Alert.occurredAt

def hasRecentAlert (alerts : List Alert) (kind : AlertKind) (actorId : UserId)
    (span now : Micros) : Bool :=
  (raisedAt alerts kind actorId).any (recent span now)

/-- A revoked session's re-entry counts for nothing. -/
def steppedUpWithin (sessions : AList fun _ : SessionId => Session) (sessionId : SessionId)
    (span now : Micros) : Bool :=
  (sessions.lookup sessionId).any fun session =>
    session.revokedAt.isNone && session.steppedUpAt.any (recent span now)

/-! ## Transactions -/

inductive Lock where
  | user (id : UserId)
  | session (id : SessionId)
  /-- `lockAlert`. -/
  | alert (kind : AlertKind) (actorId : UserId)
  deriving DecidableEq, Repr

/-- A locked account, with its roles as the statement's snapshot has them. -/
structure LockedUser where
  status : AccountStatus
  isSeededAdmin : Bool
  roles : List Role
  deriving DecidableEq, Repr

/-- What a suspension has written. -/
structure Writes where
  suspends : Option UserId
  revokes : List SessionId
  audits : List AuditRecord
  alerts : List Alert
  outbox : List OutboxRow
  deriving DecidableEq, Repr

def Writes.none : Writes :=
  { suspends := .none, revokes := [], audits := [], alerts := [], outbox := [] }

/-- What the first transaction returns. -/
inductive Outcome where
  | idempotent
  | limited (recent : Nat)
  | suspended (suspendedInLastHour : Nat)
  deriving DecidableEq, Repr

/-- What the call returns. -/
inductive Answer where
  | view
  /-- 429, `RATE_LIMITED`. -/
  | rateLimited
  | failed (error : AdminError)
  /-- The database or the connection failed it. -/
  | broken
  deriving DecidableEq, Repr

inductive Stage where
  | begun
  /-- `lockUsers`: the roles its snapshot has, the accounts left to lock and those read. -/
  | locking (roles : List (UserId × Role)) (left : List UserId) (read : List (UserId × User))
  | steppingUp (target : LockedUser)
  | counting (target : LockedUser)
  | writing (target : LockedUser) (recent : Nat)
  | revoking (target : LockedUser) (recent : Nat) (own : Writes)
  /-- `revokeAllForUser`: the sessions of its snapshot that are left. -/
  | revokingRows (target : LockedUser) (recent : Nat) (own : Writes) (left : List SessionId)
  | recording (target : LockedUser) (recent : Nat) (own : Writes)
  | alerting (recent : Nat) (own : Writes)
  | publishing (recent : Nat) (own : Writes)
  | committing (outcome : Outcome) (own : Writes)
  /-- `raiseOncePerHour`, in a transaction that begins when it is called. -/
  | raising (kind : AlertKind) (details : AlertDetails) (answer : Answer)
  | lockingAlert (alert : Alert) (answer : Answer)
  | checkingAlert (alert : Alert) (answer : Answer)
  | committingAlert (alert : Alert) (answer : Answer)
  | ended (answer : Answer)
  deriving DecidableEq, Repr

structure Call where
  actorId : UserId
  sessionId : SessionId
  targetId : UserId
  reason : String
  correlationId : String
  auditId : String
  eventId : String
  /-- `now()` of the first transaction. -/
  now : Micros
  stage : Stage
  locks : List Lock
  deriving DecidableEq, Repr

structure State where
  clock : Micros
  tables : Tables
  calls : List Call

def begun (clock : Micros) (users : AList fun _ : UserId => User) (roles : List (UserId × Role))
    (sessions : AList fun _ : SessionId => Session) : State :=
  { clock
    tables := { users, roles, sessions, audits := [], alerts := [], outbox := [] }
    calls := [] }

def lockedUser (roles : List (UserId × Role)) (read : List (UserId × User)) (id : UserId) :
    Option LockedUser :=
  (read.lookup id).map fun row =>
    { status := row.status
      isSeededAdmin := row.isSeededAdmin
      roles := (roles.filter fun held => held.1 == id).map Prod.snd }

/-- The accounts `lockUsers` locks, each once and in the order of their ids. -/
def lockedIds (actorId targetId : UserId) : List UserId :=
  if actorId = targetId then [actorId]
  else if actorId < targetId then [actorId, targetId]
  else [targetId, actorId]

/-- What `suspend` does with a target that may be acted on. -/
def permitted (target : LockedUser) : Stage :=
  match target.status with
  | .suspended => .committing .idempotent .none
  | .pendingActivation => .ended (.failed .accountNotActive)
  | .active => .counting target

/-- What `suspend` does with the accounts it locked. -/
def locked (call : Call) (roles : List (UserId × Role)) (read : List (UserId × User)) : Stage :=
  match lockedUser roles read call.actorId with
  | none => .ended (.failed .forbidden)
  | some actor =>
      if actor.status ≠ .active ∨ Role.admin ∉ actor.roles then .ended (.failed .forbidden)
      else
        match lockedUser roles read call.targetId with
        | none => .ended (.failed .notFound)
        | some target =>
            if call.actorId = call.targetId then .ended (.failed .selfSuspensionForbidden)
            else if Role.admin ∈ target.roles then
              if actor.isSeededAdmin then .steppingUp target
              else .ended (.failed .adminActionNotPermitted)
            else permitted target

def suspendRecord (call : Call) : AuditRecord :=
  { id := call.auditId
    actorId := some call.actorId
    targetUserId := call.targetId
    action := .suspend
    reason := call.reason
    correlationId := call.correlationId
    occurredAt := call.now }

def adminSuspendedAlert (call : Call) : Alert :=
  { kind := .adminSuspended
    actorId := call.actorId
    details := .target call.targetId call.auditId
    occurredAt := call.now }

/-- The event, at a reading of the process's clock. -/
def suspendedEvent (call : Call) (clock : Micros) : OutboxRow :=
  { id := call.eventId
    eventType := "user.suspended"
    aggregateId := call.targetId
    payload :=
      [ ("userId", call.targetId), ("status", "SUSPENDED"), ("reasonRef", call.auditId),
        ("occurredAt", String.ofList (isoMillis (ofMicros clock))) ]
    correlationId := call.correlationId }

/-! ## Steps -/

def applyWrites (tables : Tables) (now : Micros) (own : Writes) : Tables :=
  { tables with
    users := own.suspends.elim tables.users fun target =>
      (tables.users.lookup target).elim tables.users fun row =>
        tables.users.insert target { row with status := .suspended }
    sessions := own.revokes.foldl (fun sessions id =>
      (sessions.lookup id).elim sessions fun row =>
        sessions.insert id { row with revokedAt := some now }) tables.sessions
    audits := tables.audits ++ own.audits
    alerts := tables.alerts ++ own.alerts
    outbox := tables.outbox ++ own.outbox }

/-- What follows the commit of the first transaction. -/
def afterCommit (settings : Settings) : Outcome → Stage
  | .idempotent => .ended .view
  | .limited recent =>
      .raising .suspensionLimitReached (.limit recent settings.suspensionsLimitPerHour)
        .rateLimited
  | .suspended suspendedInLastHour =>
      if settings.suspensionsAlertPerHour ≤ suspendedInLastHour then
        .raising .bulkSuspensions (.threshold suspendedInLastHour settings.suspensionsAlertPerHour)
          .view
      else .ended .view

def put (state : State) (index : Nat) (call : Call) (stage : Stage) : State :=
  { state with calls := state.calls.set index { call with stage } }

def lockAnd (state : State) (index : Nat) (call : Call) (lock : Lock) (stage : Stage) : State :=
  { state with
    calls := state.calls.set index { call with stage, locks := call.locks ++ [lock] } }

/-- The end of a transaction: its locks are free. -/
def release (state : State) (index : Nat) (call : Call) (stage : Stage) : State :=
  { state with calls := state.calls.set index { call with stage, locks := [] } }

/-- The sessions that `revokeAllForUser` finds. -/
def openSessions (tables : Tables) (userId : UserId) : List SessionId :=
  (tables.sessions.entries.filter fun entry =>
    decide (entry.2.userId = userId) && entry.2.revokedAt.isNone).map Sigma.fst

/-- A row is free to a call where no other one holds its lock. -/
def busy (state : State) (index : Nat) (lock : Lock) : Bool :=
  taken Call.locks state.calls index lock

/-- The next statement of a call, `none` where it waits or has ended. -/
def proceed (settings : Settings) (state : State) (index : Nat) (appClock : Micros) (call : Call) :
    Option State :=
  match call.stage with
  | .begun =>
      let left := (lockedIds call.actorId call.targetId).filter fun id =>
        (state.tables.users.lookup id).isSome
      some (put state index call (.locking state.tables.roles left []))
  | .locking roles (id :: left) read =>
      if busy state index (.user id) then none
      else
        match state.tables.users.lookup id with
        | none => some (put state index call (.locking roles left read))
        | some row =>
            some (lockAnd state index call (.user id)
              (.locking roles left (read ++ [(id, row)])))
  | .locking roles [] read =>
      let next := locked call roles read
      match next with
      | .ended answer => some (release state index call (.ended answer))
      | stage => some (put state index call stage)
  | .steppingUp target =>
      let span := seconds settings.stepUpWindowSeconds
      if steppedUpWithin state.tables.sessions call.sessionId span call.now then
        match permitted target with
        | .ended answer => some (release state index call (.ended answer))
        | stage => some (put state index call stage)
      else some (release state index call (.ended (.failed .stepUpRequired)))
  | .counting target =>
      let recent := countActorActions state.tables.audits call.actorId .suspend hour call.now
      if settings.suspensionsLimitPerHour ≤ recent then
        some (put state index call (.committing (.limited recent) .none))
      else some (put state index call (.writing target recent))
  -- The target's row is locked since `lockUsers`.
  | .writing target recent =>
      let own := { Writes.none with suspends := some call.targetId }
      some (put state index call (.revoking target recent own))
  | .revoking target recent own =>
      let left := openSessions state.tables call.targetId
      some (put state index call (.revokingRows target recent own left))
  | .revokingRows target recent own (id :: left) =>
      if busy state index (.session id) then none
      else
        match (state.tables.sessions.lookup id).filter fun row => row.revokedAt.isNone with
        | none => some (put state index call (.revokingRows target recent own left))
        | some _ =>
            some (lockAnd state index call (.session id)
              (.revokingRows target recent { own with revokes := own.revokes ++ [id] } left))
  | .revokingRows target recent own [] =>
      some (put state index call (.recording target recent own))
  | .recording target recent own =>
      let recorded := { own with audits := own.audits ++ [suspendRecord call] }
      if Role.admin ∈ target.roles then some (put state index call (.alerting recent recorded))
      else some (put state index call (.publishing recent recorded))
  | .alerting recent own =>
      let raised := { own with alerts := own.alerts ++ [adminSuspendedAlert call] }
      some (put state index call (.publishing recent raised))
  | .publishing recent own =>
      let published := { own with outbox := own.outbox ++ [suspendedEvent call appClock] }
      some (put state index call (.committing (.suspended (recent + 1)) published))
  | .committing outcome own =>
      some
        { release state index call (afterCommit settings outcome) with
          tables := applyWrites state.tables call.now own }
  | .raising kind details answer =>
      let alert := { kind, actorId := call.actorId, details, occurredAt := state.clock }
      some (put state index call (.lockingAlert alert answer))
  | .lockingAlert alert answer =>
      let lock := Lock.alert alert.kind alert.actorId
      if busy state index lock then none
      else some (lockAnd state index call lock (.checkingAlert alert answer))
  | .checkingAlert alert answer =>
      if hasRecentAlert state.tables.alerts alert.kind alert.actorId hour alert.occurredAt then
        some (release state index call (.ended answer))
      else some (put state index call (.committingAlert alert answer))
  | .committingAlert alert answer =>
      some
        { release state index call (.ended answer) with
          tables := { state.tables with alerts := state.tables.alerts ++ [alert] } }
  | .ended _ => none

/-- A call that the database or the connection fails, or whose commit it does not hear of. -/
def breaks (state : State) (index : Nat) (landed : Bool) (call : Call) : Option State :=
  match call.stage with
  | .ended _ => none
  | .committing _ own =>
      let gone := release state index call (.ended .broken)
      if landed then some { gone with tables := applyWrites state.tables call.now own }
      else some gone
  | .committingAlert alert _ =>
      let gone := release state index call (.ended .broken)
      if landed then
        some { gone with
          tables := { state.tables with alerts := state.tables.alerts ++ [alert] } }
      else some gone
  | _ => some (release state index call (.ended .broken))

/-! ## The rest of the service -/

/-- Raised at most once an hour, by these calls only. -/
def AlertKind.hourly : AlertKind → Bool
  | .bulkSuspensions | .suspensionLimitReached => true
  | _ => false

/-- What another transaction commits: the accounts, roles and sessions as it leaves them, and the
rows it adds. -/
structure Elsewhere where
  users : AList fun _ : UserId => User
  roles : List (UserId × Role)
  sessions : AList fun _ : SessionId => Session
  audits : List AuditRecord
  alerts : List Alert
  outbox : List OutboxRow

def leaves (tables : Tables) (elsewhere : Elsewhere) : Lock → Bool
  | .user id => decide (elsewhere.users.lookup id = tables.users.lookup id)
  | .session id => decide (elsewhere.sessions.lookup id = tables.sessions.lookup id)
  | .alert _ _ => true

/-- It leaves the rows that are locked, and writes no SUSPEND record: only `suspend` does. -/
def allowed (state : State) (elsewhere : Elsewhere) : Bool :=
  (state.calls.all fun call => call.locks.all (leaves state.tables elsewhere)) &&
    (elsewhere.audits.all fun record => decide (record.action ≠ .suspend)) &&
    elsewhere.alerts.all fun alert => !alert.kind.hourly

def commitElsewhere (tables : Tables) (elsewhere : Elsewhere) : Tables :=
  { users := elsewhere.users
    roles := elsewhere.roles
    sessions := elsewhere.sessions
    audits := tables.audits ++ elsewhere.audits
    alerts := tables.alerts ++ elsewhere.alerts
    outbox := tables.outbox ++ elsewhere.outbox }

/-- What a call of `suspend` is given, with the ids it draws. -/
structure Asked where
  actorId : UserId
  sessionId : SessionId
  targetId : UserId
  reason : String
  correlationId : String
  auditId : String
  eventId : String
  deriving DecidableEq, Repr

inductive Event where
  | tick (now : Micros)
  | suspend (asked : Asked)
  /-- The next statement of a call, at a reading of its process's clock. -/
  | run (index : Nat) (appClock : Micros)
  | breaks (index : Nat) (landed : Bool)
  | elsewhere (change : Elsewhere)

def turn (settings : Settings) : Turn State Event := fun state event =>
  match event with
  | .tick now => some { state with clock := now }
  | .suspend asked =>
      let call : Call :=
        { actorId := asked.actorId
          sessionId := asked.sessionId
          targetId := asked.targetId
          reason := asked.reason
          correlationId := asked.correlationId
          auditId := asked.auditId
          eventId := asked.eventId
          now := state.clock
          stage := .begun
          locks := [] }
      some { state with calls := state.calls ++ [call] }
  | .run index appClock => state.calls[index]?.bind (proceed settings state index appClock)
  | .breaks index landed => state.calls[index]?.bind (breaks state index landed)
  | .elsewhere change =>
      if allowed state change then
        some { state with tables := commitElsewhere state.tables change }
      else none

end Foc.User.Suspensions
