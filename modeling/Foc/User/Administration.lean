import Foc.User.Sessions

/-!
Administration of accounts (`admin/admin.service.ts` over
`admin/admin.repository.ts`): suspensions and role changes as programs of
statements under READ COMMITTED. Account ids are in canonical form; times are in
microseconds, and `now` is the transaction's. Alerts, outbox events and the free
texts (reasons, correlation ids) are left out: no decision reads them.
-/
namespace Foc.Administration
open Library.ReadCommitted
open Sessions (AccountStatus UserId SessionId)

abbrev RequestId := String
abbrev AuditId := String

inductive Role where
  | admin | student
  deriving DecidableEq, Repr

inductive RequestStatus where
  | pending | approved | rejected | expired
  deriving DecidableEq, Repr

inductive Approval where
  | secondAdmin | noApprover
  deriving DecidableEq, Repr

inductive AuditAction where
  | suspend | reactivate | roleGrant | roleRevoke | roleChangeRequested | roleChangeRejected
  deriving DecidableEq, Repr

structure User where
  status : AccountStatus
  isSeededAdmin : Bool
  deriving DecidableEq, Repr

/-- A `user_roles` row; its account and role are its key. -/
structure UserRole where
  grantedBy : Option UserId
  deriving DecidableEq, Repr

structure RoleRequest where
  targetUserId : UserId
  role : Role
  requestedBy : UserId
  status : RequestStatus
  expiresAt : Int
  decidedBy : Option UserId
  deriving DecidableEq, Repr

structure Session where
  userId : UserId
  steppedUpAt : Option Int
  revokedAt : Option Int
  deriving DecidableEq, Repr

structure AuditRecord where
  actorId : UserId
  targetUserId : UserId
  action : AuditAction
  occurredAt : Int
  approval : Option Approval
  deriving DecidableEq, Repr

inductive Key where
  | user (id : UserId)
  | role (userId : UserId) (role : Role)
  | request (id : RequestId)
  | session (id : SessionId)
  | audit (id : AuditId)
  deriving DecidableEq, Repr

@[reducible] def RowOf : Key → Type
  | .user _ => User
  | .role _ _ => UserRole
  | .request _ => RoleRequest
  | .session _ => Session
  | .audit _ => AuditRecord

abbrev Rows := Store RowOf

def userRow (rows : Rows) (id : UserId) : Option User := rows.lookup (Key.user id)

def adminRow (rows : Rows) (id : UserId) : Option UserRole := rows.lookup (Key.role id .admin)

def sessionRow (rows : Rows) (id : SessionId) : Option Session := rows.lookup (Key.session id)

structure Settings where
  roleRequestTtlHours : Nat
  stepUpWindowSeconds : Nat
  suspensionsLimitPerHour : Nat

inductive Command where
  | suspend (targetId : UserId)
  | reactivate (targetId : UserId)
  | requestRoleChange (targetId : UserId) (role : Role)
  | approveRoleRequest (requestId : RequestId)
  | rejectRoleRequest (requestId : RequestId)
  deriving DecidableEq, Repr

/-- One call, with the ids it generates for the rows it inserts. -/
structure Call where
  actorId : UserId
  sessionId : SessionId
  command : Command
  now : Int
  newRequestId : RequestId
  newAuditId : AuditId
  deriving DecidableEq, Repr

structure RoleChange where
  approverId : UserId
  requesterId : UserId
  approval : Approval
  targetId : UserId
  role : Role
  deriving DecidableEq, Repr

inductive AdminError where
  | forbidden | notFound | selfSuspensionForbidden | adminActionNotPermitted | stepUpRequired
  | accountNotActive | selfDemotionForbidden | adminDowngradeNotPermitted | lastAdmin
  | roleRequestPending | requestNotFound | roleRequestExpired | roleRequestNotPending
  | selfApprovalForbidden | conflictOfInterest | roleRequestStale | duplicateKey
  deriving DecidableEq, Repr

/-- What a committed call did. -/
inductive Note where
  | nothing
  | suspensionLimitReached
  | suspended (targetId : UserId)
  | reactivated (targetId : UserId)
  | requested (targetId : UserId)
  | rejected (targetId : UserId)
  | applied (change : RoleChange)
  deriving DecidableEq, Repr

/-- What is left to do once the accounts are locked and the rules checked. -/
inductive Task where
  | suspend (targetId : UserId) (status : AccountStatus)
  | reactivate (targetId : UserId) (status : AccountStatus)
  | requestRoleChange (adminIds : List UserId) (targetId : UserId) (role : Role)
  | approve (requestId : RequestId) (adminIds : List UserId) (change : RoleChange)
  | reject (requestId : RequestId) (targetId : UserId)
  deriving DecidableEq, Repr

inductive Place where
  | lockAdminIds
  | lockRoleRequest (adminIds : List UserId)
  | lockUsers (adminIds : List UserId) (request : Option (RequestId × RoleRequest))
  | isSeededAdmin (userId : UserId) (adminIds : List UserId) (task : Task)
  | requireStepUp (task : Task)
  | countActorActions (targetId : UserId)
  | setStatus (targetId : UserId) (status : AccountStatus)
  | revokeAllForUser (targetId : UserId)
  | expireStaleRequests (adminIds : List UserId) (targetId : UserId) (role : Role)
  | findPendingRequest (adminIds : List UserId) (targetId : UserId) (role : Role)
  | insertRoleRequest (targetId : UserId) (role : Role)
  | decideRoleRequest (task : Task)
  | applyRoleChange (adminIds : List UserId) (change : RoleChange)
  | insertAudit (targetId : UserId) (action : AuditAction) (approval : Option Approval)
      (note : Note)
  | done (note : Note)
  | failed (error : AdminError)
  deriving DecidableEq, Repr

structure Pc where
  call : Call
  place : Place
  deriving DecidableEq, Repr

/-! ## Reading what was locked -/

structure LockedUser where
  status : AccountStatus
  isSeededAdmin : Bool
  roles : List Role
  deriving DecidableEq, Repr

/-- `rolesOf`: a subquery, answered by the statement's snapshot. -/
def rolesOf (snapshot : Rows) (id : UserId) : List Role :=
  [Role.admin, .student].filter fun role => (snapshot.lookup (Key.role id role)).isSome

def hitUser (hits : List (Sigma RowOf)) (id : UserId) : Option User :=
  hits.findSome? fun
    | ⟨.user other, row⟩ => if other = id then some row else none
    | _ => none

/-- The locked account as `lockUsers` returns it: its own columns as locked, its
roles from the snapshot. -/
def lockedUser (snapshot : Rows) (hits : List (Sigma RowOf)) (id : UserId) :
    Option LockedUser :=
  (hitUser hits id).map fun row =>
    { status := row.status, isSeededAdmin := row.isSeededAdmin, roles := rolesOf snapshot id }

def hitAdmins (hits : List (Sigma RowOf)) : List UserId :=
  hits.filterMap fun
    | ⟨.role id .admin, _⟩ => some id
    | _ => none

def hitRequest (hits : List (Sigma RowOf)) : Option (RequestId × RoleRequest) :=
  hits.findSome? fun
    | ⟨.request id, row⟩ => some (id, row)
    | _ => none

def activeAdmin (actor : LockedUser) : Bool :=
  decide (actor.status = .active) && decide (Role.admin ∈ actor.roles)

def effectiveStatus (request : RoleRequest) (now : Int) : RequestStatus :=
  if request.status = .pending ∧ request.expiresAt ≤ now then .expired else request.status

/-! ## Rules -/

/-- After `guardAdminTarget`, or without it for a target who is no admin. -/
def suspendTarget (targetId : UserId) (status : AccountStatus) : Place :=
  match status with
  | .suspended => .done .nothing
  | .active => .countActorActions targetId
  | .pendingActivation => .failed .accountNotActive

def reactivateTarget (targetId : UserId) (status : AccountStatus) : Place :=
  match status with
  | .active => .done .nothing
  | .suspended => .setStatus targetId .active
  | .pendingActivation => .failed .accountNotActive

/-- `roleRulesAllow` up to the query it makes for a downgrade; `unchanged` is
where a change of nothing leads. -/
def roleRulesAllow (requesterId : UserId) (targetId : UserId) (target : LockedUser) (role : Role)
    (adminIds : List UserId) (unchanged : Place) (task : Task) : Place :=
  match role with
  | .admin =>
      if Role.admin ∈ target.roles then unchanged
      else if target.status ≠ .active then .failed .accountNotActive
      else .requireStepUp task
  | .student =>
      if Role.admin ∉ target.roles then unchanged
      else if requesterId = targetId then .failed .selfDemotionForbidden
      else .isSeededAdmin requesterId adminIds task

def afterLockUsers (call : Call) (adminIds : List UserId)
    (request : Option (RequestId × RoleRequest)) (snapshot : Rows)
    (hits : List (Sigma RowOf)) : Place :=
  let locked := lockedUser snapshot hits
  match locked call.actorId with
  | none => .failed .forbidden
  | some actor =>
      if activeAdmin actor = false then .failed .forbidden
      else match call.command, request with
        | .suspend targetId, _ =>
            match locked targetId with
            | none => .failed .notFound
            | some target =>
                if call.actorId = targetId then .failed .selfSuspensionForbidden
                else if Role.admin ∈ target.roles then
                  if actor.isSeededAdmin then .requireStepUp (.suspend targetId target.status)
                  else .failed .adminActionNotPermitted
                else suspendTarget targetId target.status
        | .reactivate targetId, _ =>
            match locked targetId with
            | none => .failed .notFound
            | some target =>
                if Role.admin ∈ target.roles then
                  if actor.isSeededAdmin then .requireStepUp (.reactivate targetId target.status)
                  else .failed .adminActionNotPermitted
                else reactivateTarget targetId target.status
        | .requestRoleChange targetId role, _ =>
            match locked targetId with
            | none => .failed .notFound
            | some target =>
                roleRulesAllow call.actorId targetId target role adminIds (.done .nothing)
                  (.requestRoleChange adminIds targetId role)
        | .approveRoleRequest requestId, some (_, request) =>
            match locked request.requestedBy with
            | none => .failed .roleRequestStale
            | some requester =>
                if activeAdmin requester = false then .failed .roleRequestStale
                else match locked request.targetUserId with
                  | none => .failed .notFound
                  | some target =>
                      roleRulesAllow request.requestedBy request.targetUserId target request.role
                        adminIds (.failed .roleRequestStale)
                        (.approve requestId adminIds
                          { approverId := call.actorId
                            requesterId := request.requestedBy
                            approval := .secondAdmin
                            targetId := request.targetUserId
                            role := request.role })
        | .rejectRoleRequest requestId, some (_, request) =>
            if call.actorId ≠ request.requestedBy then
              .requireStepUp (.reject requestId request.targetUserId)
            else .decideRoleRequest (.reject requestId request.targetUserId)
        | _, none => .failed .requestNotFound

/-- `openRequest`, and `assertCanDecide` or its counterpart for a rejection. -/
def afterLockRoleRequest (call : Call) (adminIds : List UserId)
    (hits : List (Sigma RowOf)) : Place :=
  match hitRequest hits with
  | none => .failed .requestNotFound
  | some (id, request) =>
      match effectiveStatus request call.now with
      | .expired => .failed .roleRequestExpired
      | .approved => .failed .roleRequestNotPending
      | .rejected => .failed .roleRequestNotPending
      | .pending =>
          match call.command with
          | .approveRoleRequest _ =>
              if call.actorId = request.requestedBy then .failed .selfApprovalForbidden
              else if call.actorId = request.targetUserId then .failed .conflictOfInterest
              else .lockUsers adminIds (some (id, request))
          | _ =>
              if call.actorId = request.targetUserId then .failed .conflictOfInterest
              else .lockUsers adminIds (some (id, request))

def afterLockAdminIds (call : Call) (hits : List (Sigma RowOf)) : Place :=
  match call.command with
  | .approveRoleRequest _ => .lockRoleRequest (hitAdmins hits)
  | _ => .lockUsers (hitAdmins hits) none

def afterSeededAdmin (adminIds : List UserId) (task : Task) (seeded : Bool) : Place :=
  if seeded = false then .failed .adminDowngradeNotPermitted
  else if adminIds.length ≤ 1 then .failed .lastAdmin
  else .requireStepUp task

def afterStepUp (task : Task) (steppedUp : Bool) : Place :=
  if steppedUp = false then .failed .stepUpRequired
  else match task with
    | .suspend targetId status => suspendTarget targetId status
    | .reactivate targetId status => reactivateTarget targetId status
    | .requestRoleChange adminIds targetId role => .expireStaleRequests adminIds targetId role
    | .approve .. => .decideRoleRequest task
    | .reject .. => .decideRoleRequest task

def steppedUpWithin (view : Rows) (sessionId : SessionId) (seconds : Nat) (now : Int) : Bool :=
  match sessionRow view sessionId with
  | none => false
  | some session => session.revokedAt.isNone &&
      session.steppedUpAt.any fun steppedUpAt => decide (now - seconds * 1000000 < steppedUpAt)

/-- Audit rows this actor wrote in the last `seconds`. -/
def countActorActions (view : Rows) (actorId : UserId) (action : AuditAction) (seconds : Nat)
    (now : Int) : Nat :=
  view.entries.countP fun
    | ⟨.audit _, row⟩ => decide (row.actorId = actorId ∧ row.action = action ∧
        now - seconds * 1000000 < row.occurredAt)
    | _ => false

def hasPendingRequest (view : Rows) (targetId : UserId) : Bool :=
  view.entries.any fun
    | ⟨.request _, row⟩ => decide (row.targetUserId = targetId ∧ row.status = .pending)
    | _ => false

/-- Without another holder of the role, the requester acts alone. -/
def afterFindPending (call : Call) (adminIds : List UserId) (targetId : UserId) (role : Role)
    (pending : Bool) : Place :=
  if pending then .failed .roleRequestPending
  else if (adminIds.filter fun id => decide (id ≠ call.actorId ∧ id ≠ targetId)) = [] then
    .applyRoleChange adminIds
      { approverId := call.actorId, requesterId := call.actorId, approval := .noApprover, targetId,
        role }
  else .insertRoleRequest targetId role

def afterDecide : Task → Place
  | .approve _ adminIds change => .applyRoleChange adminIds change
  | .reject _ targetId => .insertAudit targetId .roleChangeRejected none (.rejected targetId)
  | _ => .failed .requestNotFound

def afterApply (change : RoleChange) : Place :=
  .insertAudit change.targetId (if change.role = .admin then .roleGrant else .roleRevoke)
    (some change.approval) (.applied change)

/-! ## Statements -/

def scanAt (call : Call) (wanted : (key : Key) → RowOf key → Bool)
    (write : (key : Key) → RowOf key → Option (RowOf key))
    (next : Rows → List (Sigma RowOf) → Place) : Request RowOf Pc Empty :=
  .scan
    { wanted := fun _ => wanted
      write
      skipLocked := false
      limit := none
      next := fun snapshot hits => { call, place := next snapshot hits } }

def lockedIds (call : Call) (request : Option (RequestId × RoleRequest)) : List UserId :=
  match call.command, request with
  | .suspend targetId, _ => [call.actorId, targetId]
  | .reactivate targetId, _ => [call.actorId, targetId]
  | .requestRoleChange targetId _, _ => [call.actorId, targetId]
  | .approveRoleRequest _, some (_, request) =>
      [call.actorId, request.requestedBy, request.targetUserId]
  | _, _ => [call.actorId]

def whereAdmin (key : Key) (_ : RowOf key) : Bool :=
  match key with
  | .role _ .admin => true
  | _ => false

def whereUser (ids : List UserId) (key : Key) (_ : RowOf key) : Bool :=
  match key with
  | .user id => decide (id ∈ ids)
  | _ => false

def whereRequest (wanted : RequestId → RoleRequest → Bool) : (key : Key) → RowOf key → Bool
  | .request id, row => wanted id row
  | _, _ => false

def whereSession (wanted : Session → Bool) : (key : Key) → RowOf key → Bool
  | .session _, row => wanted row
  | _, _ => false

def setUser (change : User → User) : (key : Key) → RowOf key → Option (RowOf key)
  | .user _, row => some (change row)
  | _, row => some row

def setRequest (change : RoleRequest → RoleRequest) : (key : Key) → RowOf key → Option (RowOf key)
  | .request _, row => some (change row)
  | _, row => some row

def setSession (change : Session → Session) : (key : Key) → RowOf key → Option (RowOf key)
  | .session _, row => some (change row)
  | _, row => some row

def decided (task : Task) : RequestId × RequestStatus :=
  match task with
  | .approve id .. => (id, .approved)
  | .reject id _ => (id, .rejected)
  | _ => ("", .pending)

/-- The statement of each place, or where the transaction ends. -/
def request (settings : Settings) (pc : Pc) : Request RowOf Pc Empty :=
  let call := pc.call
  match pc.place with
  | .lockAdminIds => scanAt call whereAdmin (fun _ row => some row) fun _ hits =>
      afterLockAdminIds call hits
  | .lockRoleRequest adminIds =>
      scanAt call (whereRequest fun id _ => match call.command with
        | .approveRoleRequest requestId => decide (id = requestId)
        | .rejectRoleRequest requestId => decide (id = requestId)
        | _ => false) (fun _ row => some row) fun _ hits =>
        afterLockRoleRequest call adminIds hits
  | .lockUsers adminIds request =>
      scanAt call (whereUser (lockedIds call request)) (fun _ row => some row)
        (afterLockUsers call adminIds request)
  | .isSeededAdmin userId adminIds task => .select fun view =>
      { call
        place := afterSeededAdmin adminIds task
          ((userRow view userId).any fun user => user.isSeededAdmin) }
  | .requireStepUp task => .select fun view =>
      { call
        place := afterStepUp task
          (steppedUpWithin view call.sessionId settings.stepUpWindowSeconds call.now) }
  | .countActorActions targetId => .select fun view =>
      { call
        place := if settings.suspensionsLimitPerHour ≤
            countActorActions view call.actorId .suspend 3600 call.now
          then .done .suspensionLimitReached else .setStatus targetId .suspended }
  | .setStatus targetId status =>
      scanAt call (whereUser [targetId]) (setUser fun user => { user with status }) fun _ _ =>
        match status with
        | .suspended => .revokeAllForUser targetId
        | _ => .insertAudit targetId .reactivate none (.reactivated targetId)
  | .revokeAllForUser targetId =>
      scanAt call (whereSession fun row => decide (row.userId = targetId) && row.revokedAt.isNone)
        (setSession fun row => { row with revokedAt := some call.now }) fun _ _ =>
        .insertAudit targetId .suspend none (.suspended targetId)
  | .expireStaleRequests adminIds targetId role =>
      scanAt call (whereRequest fun _ row => decide (row.targetUserId = targetId ∧
          row.status = .pending ∧ row.expiresAt ≤ call.now))
        (setRequest fun row => { row with status := .expired }) fun _ _ =>
        .findPendingRequest adminIds targetId role
  | .findPendingRequest adminIds targetId role => .select fun view =>
      { call
        place := afterFindPending call adminIds targetId role (hasPendingRequest view targetId) }
  | .insertRoleRequest targetId role =>
      .insert (.request call.newRequestId)
        { targetUserId := targetId, role, requestedBy := call.actorId, status := .pending
          expiresAt := call.now + settings.roleRequestTtlHours * 3600000000, decidedBy := none }
        fun inserted =>
        { call
          place := if inserted
            then .insertAudit targetId .roleChangeRequested none (.requested targetId)
            else .failed .duplicateKey }
  | .decideRoleRequest task =>
      scanAt call (whereRequest fun id _ => decide (id = (decided task).1))
        (setRequest fun row =>
          { row with status := (decided task).2, decidedBy := some call.actorId }) fun _ _ =>
        afterDecide task
  | .applyRoleChange _ change =>
      match change.role with
      | .admin => .insert (.role change.targetId .admin) { grantedBy := some change.requesterId }
          fun _ => { call, place := afterApply change }
      | .student => scanAt call (fun key _ => decide (key = .role change.targetId .admin))
          (fun _ _ => none) fun _ _ => afterApply change
  | .insertAudit targetUserId action approval note =>
      .insert (.audit call.newAuditId)
        { actorId := call.actorId, targetUserId, action, occurredAt := call.now, approval }
        fun inserted =>
        { call, place := if inserted then .done note else .failed .duplicateKey }
  | .done _ => .commit
  | .failed _ => .stop

def firstPlace : Command → Place
  | .suspend _ => .lockUsers [] none
  | .reactivate _ => .lockUsers [] none
  | .requestRoleChange .. => .lockAdminIds
  | .approveRoleRequest _ => .lockAdminIds
  | .rejectRoleRequest _ => .lockRoleRequest []

/-- The administration of the User Service; the log is of what each call committed. -/
def service (settings : Settings) : Machine RowOf Pc Empty (List (Call × Note)) Empty :=
  { request := request settings
    starts := fun _ pc => decide (pc.place = firstPlace pc.call.command)
    answered := fun _ _ _ => none
    finished := fun log pc => match pc.place with
      | .done note => log ++ [(pc.call, note)]
      | _ => log
    stimulus := fun _ _ => none }

end Foc.Administration
