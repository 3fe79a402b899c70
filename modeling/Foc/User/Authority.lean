import Foc.User.Administration

/-!
Who acts as an administrator, and with whose agreement. The assertions are about
the account and role rows a transaction has locked or written. `strict` adds
what the two-person rule needs to what keeping an administrator needs.
-/
namespace Foc.Administration
open Library.ReadCommitted
open Sessions (AccountStatus UserId SessionId)

abbrev Own := Writes RowOf

/-- What a transaction has locked or written of accounts and of the admin role. -/
structure Accounts where
  user : UserId → Option (Option User)
  admin : UserId → Option (Option UserRole)

def accounts (own : Own) : Accounts :=
  { user := fun id => own.lookup (Key.user id)
    admin := fun id => own.lookup (Key.role id .admin) }

def Holds (held : Accounts) (id : UserId) : Prop := held.user id ≠ none

def ActiveAdmin (rows : Rows) (id : UserId) : Prop :=
  (∃ row, userRow rows id = some row ∧ row.status = .active) ∧ adminRow rows id ≠ none

/-- An active administrator whose account the transaction has locked. -/
structure Acting (rows : Rows) (held : Accounts) (id : UserId) : Prop where
  held : Holds held id
  active : ActiveAdmin rows id

/-- What a transaction may have changed, besides locking rows. -/
inductive Effect where
  | status (targetId : UserId) (status : AccountStatus)
  | change (change : RoleChange)

structure Within (rows : Rows) (held : Accounts) (effect : Option Effect) : Prop where
  users : ∀ id value, held.user id = some value → value = userRow rows id ∨
    ∃ status row, effect = some (.status id status) ∧ value = some row ∧ row.status = status
  admins : ∀ id value, held.admin id = some value → value = adminRow rows id ∨
    ∃ change, effect = some (.change change) ∧ change.targetId = id ∧
      (change.role = .admin → value ≠ none)

def Note.effect : Note → Option Effect
  | .suspended targetId => some (.status targetId .suspended)
  | .reactivated targetId => some (.status targetId .active)
  | .applied change => some (.change change)
  | _ => none

/-- The change a transaction may have made by a place. -/
def Place.written : Place → Option Effect
  | .setStatus targetId status => some (.status targetId status)
  | .revokeAllForUser targetId => some (.status targetId .suspended)
  | .applyRoleChange _ change => some (.change change)
  | .insertAudit _ _ _ note => note.effect
  | .done note => note.effect
  | _ => none

/-! ## Warrants -/

/-- Nobody but the requester and the target holds the role. -/
def Alone (rows : Rows) (change : RoleChange) : Prop :=
  ∀ id, adminRow rows id ≠ none → id = change.requesterId ∨ id = change.targetId

/-- Two people, both of them acting administrators, neither of them approving
for themselves. -/
structure Seconded (rows : Rows) (held : Accounts) (change : RoleChange) : Prop where
  notRequester : change.approverId ≠ change.requesterId
  notTarget : change.approverId ≠ change.targetId
  approver : Acting rows held change.approverId
  requester : Acting rows held change.requesterId

structure Changing (strict : Bool) (rows : Rows) (held : Accounts) (actorId : UserId)
    (change : RoleChange) : Prop where
  target : Holds held change.targetId
  notSelf : change.role = .student → change.targetId ≠ actorId
  seconded : strict = true → change.approval = .secondAdmin → Seconded rows held change

def Asking (held : Accounts) (actorId targetId : UserId) (role : Role) : Prop :=
  Holds held targetId ∧ (role = .student → targetId ≠ actorId)

def Task.Warranted (strict : Bool) (rows : Rows) (held : Accounts) (actorId : UserId) :
    Task → Prop
  | .suspend targetId _ => targetId ≠ actorId
  | .requestRoleChange _ targetId role => Asking held actorId targetId role
  | .approve _ _ change =>
      Changing strict rows held actorId change ∧ change.approval = .secondAdmin
  | _ => True

def Note.Warranted (strict : Bool) (rows : Rows) (held : Accounts) (actorId : UserId) :
    Note → Prop
  | .suspended targetId => targetId ≠ actorId
  | .applied change => Changing strict rows held actorId change ∧
      (strict = true → change.approval = .noApprover →
        Alone rows change ∧ Holds held change.requesterId)
  | _ => True

/-- What a place past the locks rests on, the actor's authority apart. -/
def Place.Warranted (strict : Bool) (rows : Rows) (held : Accounts) (actorId : UserId) :
    Place → Prop
  | .isSeededAdmin _ _ task => task.Warranted strict rows held actorId
  | .requireStepUp task => task.Warranted strict rows held actorId
  | .decideRoleRequest task => task.Warranted strict rows held actorId
  | .countActorActions targetId => targetId ≠ actorId
  | .setStatus targetId status =>
      status = .active ∨ status = .suspended ∧ targetId ≠ actorId
  | .revokeAllForUser targetId => targetId ≠ actorId
  | .expireStaleRequests _ targetId role => Asking held actorId targetId role
  | .findPendingRequest _ targetId role => Asking held actorId targetId role
  | .applyRoleChange adminIds change => Changing strict rows held actorId change ∧
      (change.approval = .noApprover → change.requesterId = actorId ∧
        ∀ id, id ∈ adminIds → id = change.requesterId ∨ id = change.targetId)
  | .insertAudit _ _ _ note => note.Warranted strict rows held actorId
  | .done note => note.Warranted strict rows held actorId
  | .insertRoleRequest .. => True
  | .failed _ => True
  | .lockAdminIds => False
  | .lockRoleRequest _ => False
  | .lockUsers .. => False

structure Settled (strict : Bool) (rows : Rows) (held : Accounts) (pc : Pc) : Prop where
  within : Within rows held pc.place.written
  acting : Acting rows held pc.call.actorId
  warranted : pc.place.Warranted strict rows held pc.call.actorId

/-- Whose roles, as the locking statement saw them, have to be current. -/
def authorities (strict : Bool) (call : Call) (request : Option (RequestId × RoleRequest)) :
    List UserId :=
  if strict then call.actorId :: request.toList.map fun found => found.2.requestedBy
  else [call.actorId]

/-- During `lockUsers`. -/
structure Locking (strict : Bool) (rows : Rows) (held : Accounts) (call : Call)
    (request : Option (RequestId × RoleRequest)) (progress : Option (Progress RowOf)) : Prop where
  hits : ∀ found id row, progress = some found → (⟨Key.user id, row⟩ : Sigma RowOf) ∈ found.hits →
    held.user id = some (some row)
  roles : ∀ found id row, progress = some found → (⟨Key.user id, row⟩ : Sigma RowOf) ∈ found.hits →
    id ∈ authorities strict call request → adminRow found.snapshot id ≠ none →
    adminRow rows id ≠ none
  different : ∀ requestId id opened, call.command = .approveRoleRequest requestId →
    request = some (id, opened) →
    call.actorId ≠ opened.requestedBy ∧ call.actorId ≠ opened.targetUserId

def AssertedAt (strict : Bool) (rows : Rows) (tx : Tx RowOf Pc) : Prop :=
  match tx.pc.place with
  | .failed _ => True
  | .lockAdminIds => Within rows (accounts tx.own) none
  | .lockRoleRequest _ => Within rows (accounts tx.own) none
  | .lockUsers _ request => Within rows (accounts tx.own) none ∧
      Locking strict rows (accounts tx.own) tx.pc.call request tx.progress
  | _ => Settled strict rows (accounts tx.own) tx.pc

def asserted (strict : Bool) : Assertions RowOf Pc (List (Call × Note)) :=
  { global := fun _ _ => True
    localAt := fun rows _ tx => AssertedAt strict rows tx }

/-! ## Assertions against the commits of others -/

section Stable

/-- What another transaction's commit leaves alone, for one that holds `held`. -/
structure Quiet (held : Accounts) (rows after : Rows) : Prop where
  users : ∀ id, Holds held id → userRow after id = userRow rows id
  admins : ∀ id value, held.admin id = some value → adminRow after id = adminRow rows id
  roles : ∀ id, Holds held id → adminRow after id = adminRow rows id
  granted : ∀ id, adminRow after id ≠ none → adminRow rows id ≠ none ∨
    ∃ actor, adminRow rows actor ≠ none ∧ ¬ Holds held actor

variable {strict : Bool} {rows after : Rows} {held : Accounts} {actorId : UserId}

theorem within_stable {effect : Option Effect} (quiet : Quiet held rows after)
    (within : Within rows held effect) : Within after held effect := by
  constructor
  · intro id value found
    have holds : Holds held id := fun free => nomatch free.symm.trans found
    rw [quiet.users id holds]
    exact within.users id value found
  · intro id value found
    rw [quiet.admins id value found]
    exact within.admins id value found

theorem acting_stable {id : UserId} (quiet : Quiet held rows after)
    (acting : Acting rows held id) : Acting after held id := by
  refine ⟨acting.held, ?_⟩
  unfold ActiveAdmin
  rw [quiet.users id acting.held, quiet.roles id acting.held]
  exact acting.active

theorem alone_stable {change : RoleChange} (quiet : Quiet held rows after)
    (alone : Alone rows change) (requester : Holds held change.requesterId)
    (target : Holds held change.targetId) : Alone after change := by
  intro id holder
  rcases quiet.granted id holder with before | ⟨actor, admin, free⟩
  · exact alone id before
  · exfalso
    rcases alone actor admin with rfl | rfl
    · exact free requester
    · exact free target

theorem changing_stable {change : RoleChange} (quiet : Quiet held rows after)
    (changing : Changing strict rows held actorId change) :
    Changing strict after held actorId change := by
  refine ⟨changing.target, changing.notSelf, fun isStrict approval => ?_⟩
  have seconded := changing.seconded isStrict approval
  exact
    { seconded with
      approver := acting_stable quiet seconded.approver
      requester := acting_stable quiet seconded.requester }

theorem task_stable {task : Task} (quiet : Quiet held rows after)
    (warranted : task.Warranted strict rows held actorId) :
    task.Warranted strict after held actorId := by
  cases task with
  | approve id adminIds change => exact ⟨changing_stable quiet warranted.1, warranted.2⟩
  | suspend => exact warranted
  | reactivate => exact warranted
  | requestRoleChange => exact warranted
  | reject => exact warranted

theorem note_stable {note : Note} (quiet : Quiet held rows after)
    (warranted : note.Warranted strict rows held actorId) :
    note.Warranted strict after held actorId := by
  cases note with
  | applied change =>
      refine ⟨changing_stable quiet warranted.1, fun isStrict approval => ?_⟩
      obtain ⟨alone, requester⟩ := warranted.2 isStrict approval
      exact ⟨alone_stable quiet alone requester warranted.1.target, requester⟩
  | _ => exact warranted

theorem place_stable {place : Place} (quiet : Quiet held rows after)
    (warranted : place.Warranted strict rows held actorId) :
    place.Warranted strict after held actorId := by
  cases place with
  | isSeededAdmin => exact task_stable quiet warranted
  | requireStepUp => exact task_stable quiet warranted
  | decideRoleRequest => exact task_stable quiet warranted
  | applyRoleChange => exact ⟨changing_stable quiet warranted.1, warranted.2⟩
  | insertAudit => exact note_stable quiet warranted
  | done => exact note_stable quiet warranted
  | _ => exact warranted

theorem locking_stable {call : Call} {request : Option (RequestId × RoleRequest)}
    {progress : Option (Progress RowOf)} (quiet : Quiet held rows after)
    (locking : Locking strict rows held call request progress) :
    Locking strict after held call request progress := by
  refine { locking with roles := ?_ }
  intro found id row underway hit authority admin
  have holds : Holds held id :=
    fun free => nomatch free.symm.trans (locking.hits found id row underway hit)
  rw [quiet.roles id holds]
  exact locking.roles found id row underway hit authority admin

theorem settled_stable {pc : Pc} (quiet : Quiet held rows after)
    (settled : Settled strict rows held pc) : Settled strict after held pc :=
  ⟨within_stable quiet settled.within, acting_stable quiet settled.acting,
    place_stable quiet settled.warranted⟩

theorem asserted_stable {tx : Tx RowOf Pc} (quiet : Quiet (accounts tx.own) rows after)
    (assertedAt : AssertedAt strict rows tx) : AssertedAt strict after tx := by
  unfold AssertedAt at assertedAt ⊢
  cases place : tx.pc.place with
  | failed => trivial
  | lockAdminIds =>
      rw [place] at assertedAt
      exact within_stable quiet assertedAt
  | lockRoleRequest =>
      rw [place] at assertedAt
      exact within_stable quiet assertedAt
  | lockUsers =>
      rw [place] at assertedAt
      exact ⟨within_stable quiet assertedAt.1, locking_stable quiet assertedAt.2⟩
  | _ =>
      rw [place] at assertedAt
      exact settled_stable quiet assertedAt

end Stable

/-! ## Assertions against the transaction's own steps -/

section Writes

variable {strict : Bool} {rows : Rows} {own : Own} {held more : Accounts} {actorId : UserId}

theorem user_insert (own : Own) (id : UserId) (value : Option User) :
    (accounts (own.insert (Key.user id) value)).user id = some value :=
  AList.lookup_insert own

theorem user_insert_other (own : Own) {id : UserId} (key : Key) (value : Option (RowOf key))
    (different : Key.user id ≠ key) :
    (accounts (own.insert key value)).user id = (accounts own).user id :=
  AList.lookup_insert_ne different

theorem admin_insert (own : Own) (id : UserId) (value : Option UserRole) :
    (accounts (own.insert (Key.role id .admin) value)).admin id = some value :=
  AList.lookup_insert own

theorem admin_insert_other (own : Own) {id : UserId} (key : Key) (value : Option (RowOf key))
    (different : Key.role id .admin ≠ key) :
    (accounts (own.insert key value)).admin id = (accounts own).admin id :=
  AList.lookup_insert_ne different

theorem user_overlay (rows : Rows) (own : Own) (id : UserId) :
    userRow (overlay rows own) id = ((accounts own).user id).getD (userRow rows id) :=
  lookup_overlay rows own (Key.user id)

theorem admin_overlay (rows : Rows) (own : Own) (id : UserId) :
    adminRow (overlay rows own) id = ((accounts own).admin id).getD (adminRow rows id) :=
  lookup_overlay rows own (Key.role id .admin)

theorem holds_insert {id : UserId} {key : Key} (value : Option (RowOf key))
    (holds : Holds (accounts own) id) : Holds (accounts (own.insert key value)) id := by
  unfold Holds
  by_cases same : Key.user id = key
  · subst same
    rw [user_insert]
    exact Option.some_ne_none value
  · rw [user_insert_other own key value same]
    exact holds

theorem acting_mono {id : UserId} (grows : ∀ id, Holds held id → Holds more id)
    (acting : Acting rows held id) : Acting rows more id :=
  ⟨grows id acting.held, acting.active⟩

theorem changing_mono {change : RoleChange} (grows : ∀ id, Holds held id → Holds more id)
    (changing : Changing strict rows held actorId change) :
    Changing strict rows more actorId change := by
  refine ⟨grows change.targetId changing.target, changing.notSelf, fun isStrict approval => ?_⟩
  have seconded := changing.seconded isStrict approval
  exact
    { seconded with
      approver := acting_mono grows seconded.approver
      requester := acting_mono grows seconded.requester }

theorem asking_mono {targetId : UserId} {role : Role}
    (grows : ∀ id, Holds held id → Holds more id) (asking : Asking held actorId targetId role) :
    Asking more actorId targetId role :=
  ⟨grows targetId asking.1, asking.2⟩

theorem task_mono {task : Task} (grows : ∀ id, Holds held id → Holds more id)
    (warranted : task.Warranted strict rows held actorId) :
    task.Warranted strict rows more actorId := by
  cases task with
  | approve id adminIds change => exact ⟨changing_mono grows warranted.1, warranted.2⟩
  | requestRoleChange adminIds targetId role => exact asking_mono grows warranted
  | suspend => exact warranted
  | reactivate => exact warranted
  | reject => exact warranted

theorem note_mono {note : Note} (grows : ∀ id, Holds held id → Holds more id)
    (warranted : note.Warranted strict rows held actorId) :
    note.Warranted strict rows more actorId := by
  cases note with
  | applied change =>
      refine ⟨changing_mono grows warranted.1, fun isStrict approval => ?_⟩
      obtain ⟨alone, requester⟩ := warranted.2 isStrict approval
      exact ⟨alone, grows change.requesterId requester⟩
  | _ => exact warranted

theorem place_mono {place : Place} (grows : ∀ id, Holds held id → Holds more id)
    (warranted : place.Warranted strict rows held actorId) :
    place.Warranted strict rows more actorId := by
  cases place with
  | isSeededAdmin => exact task_mono grows warranted
  | requireStepUp => exact task_mono grows warranted
  | decideRoleRequest => exact task_mono grows warranted
  | expireStaleRequests => exact asking_mono grows warranted
  | findPendingRequest => exact asking_mono grows warranted
  | applyRoleChange => exact ⟨changing_mono grows warranted.1, warranted.2⟩
  | insertAudit => exact note_mono grows warranted
  | done => exact note_mono grows warranted
  | _ => exact warranted

theorem within_weaken {effect : Option Effect} (within : Within rows held none) :
    Within rows held effect := by
  constructor
  · intro id value found
    rcases within.users id value found with same | ⟨status, row, absurd, _⟩
    · exact .inl same
    · exact nomatch absurd
  · intro id value found
    rcases within.admins id value found with same | ⟨change, absurd, _⟩
    · exact .inl same
    · exact nomatch absurd

/-- Locking a row changes nothing. -/
theorem within_lock {effect : Option Effect} {key : Key} {row : RowOf key}
    (within : Within rows (accounts own) effect)
    (found : (overlay rows own).lookup key = some row) :
    Within rows (accounts (own.insert key (some row))) effect := by
  constructor
  · intro id value written
    by_cases same : Key.user id = key
    · subst same
      rw [user_insert, Option.some.injEq] at written
      have view := (user_overlay rows own id).symm.trans found
      cases before : (accounts own).user id with
      | some old =>
          rw [before, Option.getD_some] at view
          rw [← written, ← view]
          exact within.users id old before
      | none =>
          rw [before, Option.getD_none] at view
          exact .inl (written.symm.trans view.symm)
    · rw [user_insert_other own key _ same] at written
      exact within.users id value written
  · intro id value written
    by_cases same : Key.role id .admin = key
    · subst same
      rw [admin_insert, Option.some.injEq] at written
      have view := (admin_overlay rows own id).symm.trans found
      cases before : (accounts own).admin id with
      | some old =>
          rw [before, Option.getD_some] at view
          rw [← written, ← view]
          exact within.admins id old before
      | none =>
          rw [before, Option.getD_none] at view
          exact .inl (written.symm.trans view.symm)
    · rw [admin_insert_other own key _ same] at written
      exact within.admins id value written

/-- Rows of other tables are of no account. -/
theorem within_elsewhere {effect : Option Effect} {key : Key} {value : Option (RowOf key)}
    (within : Within rows (accounts own) effect) (notUser : ∀ id, Key.user id ≠ key)
    (notAdmin : ∀ id, Key.role id .admin ≠ key) :
    Within rows (accounts (own.insert key value)) effect := by
  constructor
  · intro id written found
    rw [user_insert_other own key value (notUser id)] at found
    exact within.users id written found
  · intro id written found
    rw [admin_insert_other own key value (notAdmin id)] at found
    exact within.admins id written found

theorem within_status {targetId : UserId} {status : AccountStatus} {row : User}
    (within : Within rows (accounts own) (some (.status targetId status)))
    (set : row.status = status) :
    Within rows (accounts (own.insert (Key.user targetId) (some row)))
      (some (.status targetId status)) := by
  constructor
  · intro id value written
    by_cases same : id = targetId
    · subst same
      rw [user_insert, Option.some.injEq] at written
      exact .inr ⟨status, row, rfl, written.symm, set⟩
    · rw [user_insert_other own _ _ (by simpa using same)] at written
      exact within.users id value written
  · intro id value written
    rw [admin_insert_other own _ _ (by simp)] at written
    exact within.admins id value written

theorem within_change {change : RoleChange} {value : Option UserRole}
    (within : Within rows (accounts own) (some (.change change)))
    (kept : change.role = .admin → value ≠ none) :
    Within rows (accounts (own.insert (Key.role change.targetId .admin) value))
      (some (.change change)) := by
  constructor
  · intro id written found
    rw [user_insert_other own _ _ (by simp)] at found
    exact within.users id written found
  · intro id written found
    by_cases same : id = change.targetId
    · subst same
      rw [admin_insert, Option.some.injEq] at found
      subst found
      exact .inr ⟨change, rfl, rfl, kept⟩
    · rw [admin_insert_other own _ _ (by simpa using same)] at found
      exact within.admins id written found

end Writes

section Rules

variable {strict : Bool} {rows : Rows} {held : Accounts} {actorId : UserId}

theorem suspend_target_warranted {targetId : UserId} {status : AccountStatus}
    (different : targetId ≠ actorId) :
    (suspendTarget targetId status).Warranted strict rows held actorId := by
  cases status with
  | pendingActivation => trivial
  | active => exact different
  | suspended => trivial

theorem reactivate_target_warranted {targetId : UserId} {status : AccountStatus} :
    (reactivateTarget targetId status).Warranted strict rows held actorId := by
  cases status with
  | pendingActivation => trivial
  | active => trivial
  | suspended => exact .inl rfl

theorem role_rules_warranted {requesterId targetId : UserId} {target : LockedUser} {role : Role}
    {adminIds : List UserId} {unchanged : Place} {task : Task}
    (nothing : unchanged.Warranted strict rows held actorId)
    (allowed : (role = .student → requesterId ≠ targetId) →
      task.Warranted strict rows held actorId) :
    (roleRulesAllow requesterId targetId target role adminIds unchanged task).Warranted
      strict rows held actorId := by
  cases role with
  | admin =>
      unfold roleRulesAllow
      dsimp only
      split
      · exact nothing
      · split
        · trivial
        · exact allowed (fun student => nomatch student)
  | student =>
      unfold roleRulesAllow
      dsimp only
      split
      · exact nothing
      · split
        · trivial
        · rename_i different
          exact allowed fun _ => different

theorem seeded_admin_warranted {adminIds : List UserId} {task : Task} {seeded : Bool}
    (warranted : task.Warranted strict rows held actorId) :
    (afterSeededAdmin adminIds task seeded).Warranted strict rows held actorId := by
  unfold afterSeededAdmin
  split
  · trivial
  · split
    · trivial
    · exact warranted

theorem step_up_warranted {task : Task} {steppedUp : Bool}
    (warranted : task.Warranted strict rows held actorId) :
    (afterStepUp task steppedUp).Warranted strict rows held actorId := by
  unfold afterStepUp
  split
  · trivial
  · cases task with
    | suspend targetId status => exact suspend_target_warranted warranted
    | reactivate targetId status => exact reactivate_target_warranted
    | requestRoleChange adminIds targetId role => exact warranted
    | approve id adminIds change => exact warranted
    | reject id targetId => exact warranted

theorem find_pending_warranted {call : Call} {adminIds : List UserId} {targetId : UserId}
    {role : Role} {pending : Bool} (asking : Asking held call.actorId targetId role) :
    (afterFindPending call adminIds targetId role pending).Warranted strict rows held
      call.actorId := by
  unfold afterFindPending
  split
  · trivial
  · split
    · rename_i others
      refine ⟨⟨asking.1, asking.2, fun _ approval => nomatch approval⟩, fun _ => ⟨rfl, ?_⟩⟩
      intro id member
      rw [List.filter_eq_nil_iff] at others
      have self := others id member
      simp only [decide_eq_true_eq, not_and_or, not_not] at self
      exact self
    · trivial

theorem decide_warranted {task : Task} (warranted : task.Warranted strict rows held actorId) :
    (afterDecide task).Warranted strict rows held actorId := by
  cases task with
  | approve id adminIds change =>
      refine ⟨warranted.1, fun approval => ?_⟩
      exact nomatch warranted.2.symm.trans approval
  | _ => trivial

theorem hit_user_mem {hits : List (Sigma RowOf)} {id : UserId} {row : User}
    (found : hitUser hits id = some row) : (⟨Key.user id, row⟩ : Sigma RowOf) ∈ hits := by
  obtain ⟨⟨key, value⟩, member, same⟩ := List.exists_of_findSome?_eq_some found
  cases key with
  | user other =>
      dsimp only at same
      split at same
      · rename_i isUser
        subst isUser
        rw [Option.some.injEq] at same
        subst same
        exact member
      · exact nomatch same
  | _ => exact nomatch same

theorem roles_admin {snapshot : Rows} {id : UserId} (listed : Role.admin ∈ rolesOf snapshot id) :
    adminRow snapshot id ≠ none := by
  simp only [rolesOf, List.mem_filter] at listed
  exact Option.isSome_iff_ne_none.mp listed.2

section Locked

variable {call : Call} {request : Option (RequestId × RoleRequest)} {found : Progress RowOf}

theorem locked_holds {id : UserId} {user : LockedUser}
    (locking : Locking strict rows held call request (some found))
    (locked : lockedUser found.snapshot found.hits id = some user) : Holds held id := by
  obtain ⟨row, hit, _⟩ := Option.map_eq_some_iff.mp locked
  intro free
  exact nomatch free.symm.trans (locking.hits found id row rfl (hit_user_mem hit))

theorem locked_acting {id : UserId} {user : LockedUser} (within : Within rows held none)
    (locking : Locking strict rows held call request (some found))
    (authority : id ∈ authorities strict call request)
    (locked : lockedUser found.snapshot found.hits id = some user)
    (admin : activeAdmin user = true) : Acting rows held id := by
  obtain ⟨row, hit, rfl⟩ := Option.map_eq_some_iff.mp locked
  have member := hit_user_mem hit
  have own := locking.hits found id row rfl member
  simp only [activeAdmin, Bool.and_eq_true, decide_eq_true_eq] at admin
  refine ⟨locked_holds locking locked, ⟨row, ?_, admin.1⟩, ?_⟩
  · rcases within.users id (some row) own with same | ⟨status, other, absurd, _⟩
    · exact same.symm
    · exact nomatch absurd
  · exact locking.roles found id row rfl member authority (roles_admin admin.2)

theorem actor_authority : call.actorId ∈ authorities strict call request := by
  unfold authorities
  split
  · exact List.mem_cons_self
  · exact List.mem_cons_self

theorem approval_changing {requestId id : RequestId} {opened : RoleRequest}
    {requester target : LockedUser} {adminIds : List UserId}
    (within : Within rows held none)
    (locking : Locking strict rows held call (some (id, opened)) (some found))
    (command : call.command = .approveRoleRequest requestId)
    (acting : Acting rows held call.actorId)
    (lockedRequester : lockedUser found.snapshot found.hits opened.requestedBy = some requester)
    (admin : activeAdmin requester = true)
    (lockedTarget : lockedUser found.snapshot found.hits opened.targetUserId = some target) :
    (Task.approve requestId adminIds
      { approverId := call.actorId, requesterId := opened.requestedBy, approval := .secondAdmin
        targetId := opened.targetUserId, role := opened.role }).Warranted strict rows held
        call.actorId := by
  obtain ⟨notRequester, notTarget⟩ := locking.different requestId id opened command rfl
  refine ⟨⟨locked_holds locking lockedTarget, fun _ => Ne.symm notTarget, ?_⟩, rfl⟩
  intro isStrict approval
  refine ⟨notRequester, notTarget, acting, ?_⟩
  refine locked_acting within locking ?_ lockedRequester admin
  simp [authorities, isStrict]

/-- `lockUsers` leads to a refusal, or to a place its rules warrant. -/
theorem after_lock_users {adminIds : List UserId} (within : Within rows held none)
    (locking : Locking strict rows held call request (some found)) :
    (∃ error, afterLockUsers call adminIds request found.snapshot found.hits = .failed error) ∨
      Acting rows held call.actorId ∧
        (afterLockUsers call adminIds request found.snapshot found.hits).Warranted strict rows held
          call.actorId := by
  unfold afterLockUsers
  dsimp only
  split
  · exact .inl ⟨_, rfl⟩
  · rename_i actor lockedActor
    split
    · exact .inl ⟨_, rfl⟩
    · rename_i admin
      rw [Bool.not_eq_false] at admin
      have acting := locked_acting within locking actor_authority lockedActor admin
      refine .inr ⟨acting, ?_⟩
      split
      · rename_i targetId command
        split
        · trivial
        · rename_i target lockedTarget
          split
          · trivial
          · rename_i different
            split
            · split
              · exact Ne.symm different
              · trivial
            · exact suspend_target_warranted (Ne.symm different)
      · split
        · trivial
        · split
          · split
            · trivial
            · trivial
          · exact reactivate_target_warranted
      · rename_i targetId role command
        split
        · trivial
        · rename_i target lockedTarget
          refine role_rules_warranted trivial fun allowed => ?_
          exact ⟨locked_holds locking lockedTarget, fun student => Ne.symm (allowed student)⟩
      · rename_i requestId id opened command
        split
        · trivial
        · rename_i requester lockedRequester
          split
          · trivial
          · rename_i requesterAdmin
            rw [Bool.not_eq_false] at requesterAdmin
            split
            · trivial
            · rename_i target lockedTarget
              refine role_rules_warranted trivial fun _ => ?_
              exact approval_changing within locking command acting lockedRequester requesterAdmin
                lockedTarget
      · split
        · trivial
        · trivial
      · trivial

end Locked

end Rules

section Moves

variable {strict : Bool} {settings : Settings} {rows : Rows} {taken : Key → Bool}
  {pick : Option Key} {call : Call} {own : Own} {progress : Option (Progress RowOf)}

theorem asserted_settled {tx : Tx RowOf Pc} (settled : Settled strict rows (accounts tx.own) tx.pc) :
    AssertedAt strict rows tx := by
  obtain ⟨⟨call, place⟩, own, progress⟩ := tx
  cases place with
  | lockAdminIds => exact settled.warranted.elim
  | lockRoleRequest => exact settled.warranted.elim
  | lockUsers => exact settled.warranted.elim
  | failed => trivial
  | _ => exact settled

theorem asserted_landed {place : Place} (within : Within rows (accounts own) none)
    (landed : (∃ error, place = .failed error) ∨ Acting rows (accounts own) call.actorId ∧
      place.Warranted strict rows (accounts own) call.actorId) :
    AssertedAt strict rows { pc := { call, place }, own, progress } := by
  rcases landed with ⟨error, rfl⟩ | ⟨acting, warranted⟩
  · trivial
  · exact asserted_settled ⟨within_weaken within, acting, warranted⟩

theorem settled_insert {pc : Pc} {key : Key} {value : Option (RowOf key)}
    (settled : Settled strict rows (accounts own) pc)
    (within : Within rows (accounts (own.insert key value)) pc.place.written) :
    Settled strict rows (accounts (own.insert key value)) pc :=
  ⟨within, acting_mono (fun _ => holds_insert value) settled.acting,
    place_mono (fun _ => holds_insert value) settled.warranted⟩

/-- A locking statement at a settled place, given what taking a row may change. -/
theorem settled_scan {tx moved : Tx RowOf Pc} {wanted : (key : Key) → RowOf key → Bool}
    {write : (key : Key) → RowOf key → Option (RowOf key)}
    {next : Rows → List (Sigma RowOf) → Place}
    (settled : Settled strict rows (accounts tx.own) tx.pc)
    (asked : request settings tx.pc = scanAt tx.pc.call wanted write next)
    (move : LocalMove (service settings) rows taken tx pick moved)
    (takes : ∀ own key row, Within rows (accounts own) tx.pc.place.written →
      (overlay rows own).lookup key = some row → wanted key row = true →
      Within rows (accounts (own.insert key (write key row))) tx.pc.place.written)
    (nexts : ∀ own snapshot hits, Settled strict rows (accounts own) tx.pc →
      AssertedAt strict rows
        { pc := { call := tx.pc.call, place := next snapshot hits }, own, progress := none }) :
    AssertedAt strict rows moved := by
  obtain ⟨kept, stays | ⟨ended, underway, found, leaves⟩⟩ := scan_keeps
    (fun own => Settled strict rows (accounts own) tx.pc) (scan_moves asked move) settled
    fun found key row underway present holds =>
      settled_insert settled (takes tx.own key row settled.within present holds)
  · refine asserted_settled ?_
    rw [stays]
    exact kept
  · obtain ⟨pc, own, progress⟩ := moved
    dsimp only at ended leaves kept
    subst ended leaves
    exact nexts own underway.snapshot underway.hits kept

/-- A statement on another table. -/
theorem elsewhere {write : (key : Key) → RowOf key → Option (RowOf key)}
    {wanted : (key : Key) → RowOf key → Bool} {effect : Option Effect}
    (users : ∀ id row, wanted (Key.user id) row = false)
    (admins : ∀ id row, wanted (Key.role id .admin) row = false) (own : Own) (key : Key)
    (row : RowOf key) (within : Within rows (accounts own) effect)
    (holds : wanted key row = true) :
    Within rows (accounts (own.insert key (write key row))) effect := by
  apply within_elsewhere within
  · rintro id rfl
    exact nomatch (users id row).symm.trans holds
  · rintro id rfl
    exact nomatch (admins id row).symm.trans holds

theorem settled_select {tx moved : Tx RowOf Pc} {next : Rows → Place}
    (settled : Settled strict rows (accounts tx.own) tx.pc) (unwritten : tx.pc.place.written = none)
    (asked : request settings tx.pc = .select fun view =>
      { call := tx.pc.call, place := next view })
    (move : LocalMove (service settings) rows taken tx pick moved)
    (nexts : ∀ view,
      (next view).Warranted strict rows (accounts tx.own) tx.pc.call.actorId) :
    AssertedAt strict rows moved := by
  rw [select_moves asked move]
  have within := settled.within
  rw [unwritten] at within
  exact asserted_landed within (.inr ⟨settled.acting, nexts _⟩)

/-- An insertion into another table. -/
theorem settled_insertion {tx moved : Tx RowOf Pc} {key : Key} {row : RowOf key}
    (next : Bool → Place) (settled : Settled strict rows (accounts tx.own) tx.pc)
    (asked : request settings tx.pc = .insert key row fun inserted =>
      { call := tx.pc.call, place := next inserted })
    (move : LocalMove (service settings) rows taken tx pick moved)
    (notUser : ∀ id, Key.user id ≠ key) (notAdmin : ∀ id, Key.role id .admin ≠ key)
    (nexts : ∀ held inserted, Settled strict rows held tx.pc →
      (∃ error, next inserted = .failed error) ∨
        Settled strict rows held { call := tx.pc.call, place := next inserted }) :
    AssertedAt strict rows moved := by
  have landed : ∀ own inserted, Settled strict rows (accounts own) tx.pc →
      AssertedAt strict rows
        { pc := { call := tx.pc.call, place := next inserted }, own, progress := none } := by
    intro own inserted kept
    rcases nexts (accounts own) inserted kept with ⟨error, failed⟩ | reached
    · rw [failed]
      trivial
    · exact asserted_settled reached
  obtain ⟨free, ⟨absent, rfl⟩ | ⟨old, present, rfl⟩⟩ := insert_moves asked move
  · exact landed _ true (settled_insert settled
      (within_elsewhere settled.within notUser notAdmin))
  · exact landed tx.own false settled

/-- The role of an authority, as the statement under way saw it, is current. -/
def Current (strict : Bool) (rows : Rows) (tx : Tx RowOf Pc) (pick : Option Key) : Prop :=
  ∀ adminIds request found id, tx.pc.place = .lockUsers adminIds request →
    tx.progress = some found → pick = some (Key.user id) →
    id ∈ authorities strict tx.pc.call request → adminRow found.snapshot id ≠ none →
    adminRow rows id ≠ none

/-- The list that shows nobody to ask is complete. -/
def Listed (strict : Bool) (rows : Rows) (pc : Pc) : Prop :=
  ∀ adminIds change, pc.place = .applyRoleChange adminIds change → strict = true →
    change.approval = .noApprover → ∀ id, adminRow rows id ≠ none → id ∈ adminIds

theorem lock_admins_moves {moved : Tx RowOf Pc} (within : Within rows (accounts own) none)
    (move : LocalMove (service settings) rows taken
      { pc := { call, place := .lockAdminIds }, own, progress } pick moved) :
    AssertedAt strict rows moved := by
  obtain ⟨kept, stays | ⟨ended, underway, found, leaves⟩⟩ := scan_keeps
    (fun own => Within rows (accounts own) none) (scan_moves rfl move) within
    fun found key row underway present holds => within_lock within present
  · unfold AssertedAt
    rw [stays]
    exact kept
  · obtain ⟨pc, own, progress⟩ := moved
    dsimp only at ended leaves kept
    subst ended leaves
    unfold AssertedAt
    dsimp only [afterLockAdminIds]
    cases command : call.command with
    | approveRoleRequest requestId => exact kept
    | _ =>
        refine ⟨kept, ?_, ?_, ?_⟩
        · intro found id row absurd
          exact nomatch absurd
        · intro found id row absurd
          exact nomatch absurd
        · intro requestId id opened approves absurd
          exact nomatch absurd

theorem lock_request_moves {adminIds : List UserId} {moved : Tx RowOf Pc}
    (within : Within rows (accounts own) none)
    (move : LocalMove (service settings) rows taken
      { pc := { call, place := .lockRoleRequest adminIds }, own, progress } pick moved) :
    AssertedAt strict rows moved := by
  obtain ⟨kept, stays | ⟨ended, underway, found, leaves⟩⟩ := scan_keeps
    (fun own => Within rows (accounts own) none) (scan_moves rfl move) within
    fun found key row underway present holds => within_lock within present
  · unfold AssertedAt
    rw [stays]
    exact kept
  · obtain ⟨pc, own, progress⟩ := moved
    dsimp only at ended leaves kept
    subst ended leaves
    have locking : ∀ id (opened : RoleRequest),
        (∀ requestId, call.command = .approveRoleRequest requestId →
          call.actorId ≠ opened.requestedBy ∧ call.actorId ≠ opened.targetUserId) →
        AssertedAt strict rows
          { pc := { call, place := .lockUsers adminIds (some (id, opened)) }, own
            progress := none } := by
      intro id opened different
      refine ⟨kept, ?_, ?_, ?_⟩
      · intro found id row absurd
        exact nomatch absurd
      · intro found id row absurd
        exact nomatch absurd
      · intro requestId id opened approves same
        obtain ⟨_, rfl⟩ := Option.some.inj same
        exact different requestId approves
    unfold afterLockRoleRequest
    split
    · trivial
    · rename_i id opened hit
      split
      · trivial
      · trivial
      · trivial
      · split
        · split
          · trivial
          · rename_i notRequester
            split
            · trivial
            · rename_i notTarget
              exact locking id opened fun _ _ => ⟨notRequester, notTarget⟩
        · rename_i notApproval
          split
          · trivial
          · exact locking id opened fun requestId approves =>
              absurd approves (notApproval requestId)

theorem lock_users_moves {adminIds : List UserId} {request : Option (RequestId × RoleRequest)}
    {moved : Tx RowOf Pc} (within : Within rows (accounts own) none)
    (locking : Locking strict rows (accounts own) call request progress)
    (current : Current strict rows
      { pc := { call, place := .lockUsers adminIds request }, own, progress } pick)
    (move : LocalMove (service settings) rows taken
      { pc := { call, place := .lockUsers adminIds request }, own, progress } pick moved) :
    AssertedAt strict rows moved := by
  have moves := scan_moves rfl move
  cases moves with
  | start idle =>
      refine ⟨within, ?_, ?_, locking.different⟩
      · intro found id row same hit
        cases Option.some.inj same
        exact absurd hit List.not_mem_nil
      · intro found id row same hit
        cases Option.some.inj same
        exact absurd hit List.not_mem_nil
  | drop found key underway picked member cause =>
      refine ⟨within, ?_, ?_, locking.different⟩
      · intro after id row same hit
        cases Option.some.inj same
        exact locking.hits found id row underway hit
      · intro after id row same hit
        cases Option.some.inj same
        exact locking.roles found id row underway hit
  | take found key row underway picked member free present wanted =>
      refine ⟨within_lock within present, ?_, ?_, locking.different⟩
      · intro after id hitRow same hit
        cases Option.some.inj same
        rcases List.mem_append.mp hit with past | new
        · have was := locking.hits found id hitRow underway past
          by_cases isKey : Key.user id = key
          · subst isKey
            have view := user_overlay rows own id
            rw [was, Option.getD_some] at view
            have agree : hitRow = row := Option.some.inj (view.symm.trans present)
            rw [agree]
            exact user_insert own id (some row)
          · exact (user_insert_other own key _ isKey).trans was
        · cases List.mem_singleton.mp new
          exact user_insert own id (some hitRow)
      · intro after id hitRow same hit authority seen
        cases Option.some.inj same
        rcases List.mem_append.mp hit with past | new
        · exact locking.roles found id hitRow underway past authority seen
        · cases List.mem_singleton.mp new
          exact current adminIds request found id rfl underway picked authority seen
  | finish found underway done =>
      refine asserted_landed within ?_
      dsimp only at underway
      subst underway
      exact after_lock_users within locking

theorem set_status_moves {targetId : UserId} {status : AccountStatus} {moved : Tx RowOf Pc}
    (settled : Settled strict rows (accounts own) { call, place := .setStatus targetId status })
    (move : LocalMove (service settings) rows taken
      { pc := { call, place := .setStatus targetId status }, own, progress } pick moved) :
    AssertedAt strict rows moved := by
  refine settled_scan settled rfl move ?_ ?_
  · intro own key row within present wanted
    cases key with
    | user id =>
        have isTarget : id = targetId := by simpa [whereUser] using wanted
        subst isTarget
        exact within_status within rfl
    | _ => exact nomatch wanted
  · intro own snapshot hits kept
    refine asserted_settled ?_
    obtain ⟨within, acting, active | ⟨suspended, different⟩⟩ := kept
    · subst active
      exact ⟨within, acting, trivial⟩
    · subst suspended
      exact ⟨within, acting, different⟩

theorem after_apply_settled {held : Accounts} {adminIds : List UserId} {change : RoleChange}
    (settled : Settled strict rows held { call, place := .applyRoleChange adminIds change })
    (listed : Listed strict rows { call, place := .applyRoleChange adminIds change }) :
    Settled strict rows held { call, place := afterApply change } := by
  obtain ⟨within, acting, changing, alone⟩ := settled
  refine ⟨within, acting, changing, fun isStrict approval => ⟨?_, ?_⟩⟩
  · intro id holder
    exact (alone approval).2 id (listed adminIds change rfl isStrict approval id holder)
  · rw [(alone approval).1]
    exact acting.held

theorem apply_moves {adminIds : List UserId} {change : RoleChange} {moved : Tx RowOf Pc}
    (settled : Settled strict rows (accounts own)
      { call, place := .applyRoleChange adminIds change })
    (listed : Listed strict rows { call, place := .applyRoleChange adminIds change })
    (move : LocalMove (service settings) rows taken
      { pc := { call, place := .applyRoleChange adminIds change }, own, progress } pick moved) :
    AssertedAt strict rows moved := by
  cases granted : change.role with
  | admin =>
      have asked : (service settings).request { call, place := .applyRoleChange adminIds change } =
          .insert (.role change.targetId .admin) { grantedBy := some change.requesterId }
            fun _ => { call, place := afterApply change } := by
        simp only [service, request, granted]
      obtain ⟨free, ⟨absent, rfl⟩ | ⟨old, present, rfl⟩⟩ := insert_moves asked move
      · refine asserted_settled (after_apply_settled ?_ listed)
        exact settled_insert settled
          (within_change settled.within fun _ => Option.some_ne_none _)
      · exact asserted_settled (after_apply_settled settled listed)
  | student =>
      have asked : request settings { call, place := .applyRoleChange adminIds change } =
          scanAt call (fun key _ => decide (key = .role change.targetId .admin))
            (fun _ _ => none) fun _ _ => afterApply change := by
        simp only [request, granted]
      refine settled_scan settled asked move ?_ ?_
      · intro own key row within present wanted
        have isRole := of_decide_eq_true wanted
        subst isRole
        exact within_change within fun admin => nomatch granted.symm.trans admin
      · intro own snapshot hits kept
        exact asserted_settled (after_apply_settled kept listed)

theorem asserted_moves {tx moved : Tx RowOf Pc} (assertedAt : AssertedAt strict rows tx)
    (current : Current strict rows tx pick) (listed : Listed strict rows tx.pc)
    (move : LocalMove (service settings) rows taken tx pick moved) :
    AssertedAt strict rows moved := by
  obtain ⟨⟨call, place⟩, own, progress⟩ := tx
  cases place with
  | lockAdminIds => exact lock_admins_moves assertedAt move
  | lockRoleRequest adminIds => exact lock_request_moves assertedAt move
  | lockUsers adminIds request =>
      exact lock_users_moves assertedAt.1 assertedAt.2 current move
  | isSeededAdmin userId adminIds task =>
      have settled : Settled strict rows (accounts own) _ := assertedAt
      exact settled_select settled rfl rfl move fun view =>
        seeded_admin_warranted settled.warranted
  | requireStepUp task =>
      have settled : Settled strict rows (accounts own) _ := assertedAt
      exact settled_select settled rfl rfl move fun view => step_up_warranted settled.warranted
  | countActorActions targetId =>
      have settled : Settled strict rows (accounts own) _ := assertedAt
      refine settled_select settled rfl rfl move fun view => ?_
      split
      · trivial
      · exact .inr ⟨rfl, settled.warranted⟩
  | setStatus targetId status => exact set_status_moves assertedAt move
  | revokeAllForUser targetId =>
      refine settled_scan assertedAt rfl move (fun own key row within present wanted =>
        elsewhere (fun _ _ => rfl) (fun _ _ => rfl) own key row within wanted) ?_
      intro own snapshot hits kept
      exact asserted_settled ⟨kept.within, kept.acting, kept.warranted⟩
  | expireStaleRequests adminIds targetId role =>
      refine settled_scan assertedAt rfl move (fun own key row within present wanted =>
        elsewhere (fun _ _ => rfl) (fun _ _ => rfl) own key row within wanted) ?_
      intro own snapshot hits kept
      exact asserted_settled ⟨kept.within, kept.acting, kept.warranted⟩
  | findPendingRequest adminIds targetId role =>
      have settled : Settled strict rows (accounts own) _ := assertedAt
      exact settled_select settled rfl rfl move fun view =>
        find_pending_warranted settled.warranted
  | insertRoleRequest targetId role =>
      have settled : Settled strict rows (accounts own) _ := assertedAt
      refine settled_insertion (fun inserted => if inserted
        then .insertAudit targetId .roleChangeRequested none (.requested targetId)
        else .failed .duplicateKey) settled rfl move (by simp) (by simp) ?_
      intro held inserted kept
      cases inserted with
      | false => exact .inl ⟨_, rfl⟩
      | true => exact .inr ⟨kept.within, kept.acting, trivial⟩
  | decideRoleRequest task =>
      refine settled_scan assertedAt rfl move (fun own key row within present wanted =>
        elsewhere (fun _ _ => rfl) (fun _ _ => rfl) own key row within wanted) ?_
      intro own snapshot hits kept
      exact asserted_landed kept.within (.inr ⟨kept.acting, decide_warranted kept.warranted⟩)
  | applyRoleChange adminIds change => exact apply_moves assertedAt listed move
  | insertAudit targetId action approval note =>
      have settled : Settled strict rows (accounts own) _ := assertedAt
      refine settled_insertion (fun inserted => if inserted then .done note
        else .failed .duplicateKey) settled rfl move (by simp) (by simp) ?_
      intro held inserted kept
      cases inserted with
      | false => exact .inl ⟨_, rfl⟩
      | true => exact .inr ⟨kept.within, kept.acting, kept.warranted⟩
  | done note => exact absurd move (no_local_move (.inl rfl))
  | failed error => exact absurd move (no_local_move (.inr (.inl rfl)))

end Moves

end Foc.Administration
