import Foc.User.Authority
import Mathlib

/-!
Role changes need two people, and administration is never lost. Both rest on
what `lockUsers` and `lockAdminIds` read: the roles of an account locked come
from the statement's snapshot, and the list of administrators lacks a row
inserted while the statement waited.
-/
namespace Foc.Administration
open Library.ReadCommitted
open Sessions (AccountStatus UserId SessionId)

abbrev Admins := World RowOf Pc (List (Call × Note))

/-- `lockUsers` is granted an account whose admin role, which its snapshot shows,
was revoked while it waited. -/
def revokedMeanwhile (strict : Bool) (world : Admins) : Event Key Pc Empty Empty → Bool
  | .run id (some (.user user)) =>
      (world.active.lookup id).any fun tx =>
        match tx.pc.place, tx.progress with
        | .lockUsers _ request, some progress =>
            decide (user ∈ authorities strict tx.pc.call request) &&
              (adminRow progress.snapshot user).isSome && (adminRow world.committed user).isNone
        | _, _ => false
  | _ => false

/-- A role is changed without an approver although an admin role was granted
that the list from `lockAdminIds` lacks. -/
def grantedMeanwhile (world : Admins) : Event Key Pc Empty Empty → Bool
  | .run id _ =>
      (world.active.lookup id).any fun tx =>
        match tx.pc.place with
        | .applyRoleChange adminIds change => decide (change.approval = .noApprover) &&
            world.committed.entries.any fun
              | ⟨.role user .admin, _⟩ => decide (user ∉ adminIds)
              | _ => false
        | _ => false
  | _ => false

def stale (strict : Bool) (world : Admins) (event : Event Key Pc Empty Empty) : Bool :=
  revokedMeanwhile strict world event || strict && grantedMeanwhile world event

section Kept

variable {strict : Bool} {settings : Settings} {world : Admins} {id : Nat}
  {pick : Option Key} {tx : Tx RowOf Pc}

theorem current_of_fresh (found : world.active.lookup id = some tx)
    (fresh : stale strict world (.run id pick) = false) :
    Current strict world.committed tx pick := by
  intro adminIds request progress user place underway picked authority seen
  subst picked
  intro revoked
  have late : revokedMeanwhile strict world (.run id (some (Key.user user))) = true := by
    simp [revokedMeanwhile, found, place, underway, authority, revoked,
      Option.isSome_iff_ne_none, seen]
  simp [stale, late] at fresh

theorem listed_of_fresh (found : world.active.lookup id = some tx)
    (fresh : stale strict world (.run id pick) = false) :
    Listed strict world.committed tx.pc := by
  intro adminIds change place isStrict approval user holder
  by_contra missing
  obtain ⟨row, present⟩ := Option.ne_none_iff_exists'.mp holder
  have member : (⟨Key.role user .admin, row⟩ : Sigma RowOf) ∈ world.committed.entries :=
    AList.mem_lookup_iff.mp present
  have late : grantedMeanwhile world (.run id pick) = true := by
    simp only [grantedMeanwhile, found, Option.any_some, place, approval, decide_true,
      Bool.true_and, List.any_eq_true]
    exact ⟨_, member, decide_eq_true missing⟩
  simp [stale, late, isStrict] at fresh

theorem note_effect_change {note : Note} {change : RoleChange}
    (effect : note.effect = some (.change change)) : note = .applied change := by
  cases note with
  | applied other =>
      cases effect
      rfl
  | _ => exact nomatch effect

theorem done_settled (hold : (asserted strict).Hold world)
    (found : world.active.lookup id = some tx)
    (asked : (service settings).request tx.pc = .commit) :
    ∃ note, tx.pc.place = .done note ∧ Settled strict world.committed (accounts tx.own) tx.pc := by
  have assertedAt := hold.localAt id tx found
  obtain ⟨⟨call, place⟩, own, progress⟩ := tx
  cases place with
  | done note => exact ⟨note, rfl, assertedAt⟩
  | applyRoleChange adminIds change =>
      cases granted : change.role <;> simp [service, request, scanAt, granted] at asked
  | _ => cases asked

theorem commit_quiet (hold : (asserted strict).Hold world)
    (found : world.active.lookup id = some tx) {note : Note} (place : tx.pc.place = .done note)
    (settled : Settled strict world.committed (accounts tx.own) tx.pc) {other : Nat}
    {otherTx : Tx RowOf Pc} (different : other ≠ id)
    (foundOther : world.active.lookup other = some otherTx) :
    Quiet (accounts otherTx.own) world.committed (overlay world.committed tx.own) := by
  have apart : ∀ user, Holds (accounts tx.own) user → ¬ Holds (accounts otherTx.own) user :=
    fun user held both =>
      both (hold.exclusive id other tx otherTx (Ne.symm different) found foundOther _ held)
  obtain ⟨within, acting, warranted⟩ := settled
  rw [place] at within warranted
  -- The admin role changes only where the target's account is held.
  have changed : ∀ user, adminRow (overlay world.committed tx.own) user =
      adminRow world.committed user ∨ Holds (accounts tx.own) user := by
    intro user
    rw [admin_overlay]
    cases written : (accounts tx.own).admin user with
    | none => exact .inl rfl
    | some value =>
        rcases within.admins user value written with same | ⟨change, effect, target, _⟩
        · exact .inl same
        · have applied := note_effect_change effect
          subst applied
          exact .inr (target ▸ warranted.1.target)
  constructor
  · intro user held
    exact commit_frame hold.exclusive different found foundOther held
  · intro user value written
    exact commit_frame hold.exclusive different found foundOther fun free =>
      nomatch free.symm.trans written
  · intro user held
    rcases changed user with same | holder
    · exact same
    · exact absurd held (apart user holder)
  · intro user holder
    rcases changed user with same | _
    · exact .inl (same ▸ holder)
    · exact .inr ⟨tx.pc.call.actorId, acting.active.2, apart _ acting.held⟩

theorem within_empty (rows : Rows) : Within rows (accounts ∅) none := by
  constructor
  · intro user value found
    exact nomatch found
  · intro user value found
    exact nomatch found

theorem begins_asserted {rows : Rows} {pc : Pc} (first : pc.place = firstPlace pc.call.command) :
    AssertedAt strict rows { pc, own := ∅, progress := none } := by
  have locking : Locking strict rows (accounts ∅) pc.call none none := by
    refine ⟨?_, ?_, ?_⟩
    · intro found user row absurd
      exact nomatch absurd
    · intro found user row absurd
      exact nomatch absurd
    · intro requestId user opened command absurd
      exact nomatch absurd
  obtain ⟨call, place⟩ := pc
  dsimp only at first
  cases command : call.command with
  | suspend targetId =>
      rw [command] at first
      subst first
      exact ⟨within_empty rows, locking⟩
  | reactivate targetId =>
      rw [command] at first
      subst first
      exact ⟨within_empty rows, locking⟩
  | _ =>
      rw [command] at first
      subst first
      exact within_empty rows

theorem asserted_kept : (asserted strict).Kept (service settings)
    fun world event => stale strict world event = false := by
  constructor
  · intro world id pc hold fresh starts
    exact begins_asserted (of_decide_eq_true starts)
  · intro world id pick tx moved hold fresh found move
    exact asserted_moves (hold.localAt id tx found) (current_of_fresh found fresh)
      (listed_of_fresh found fresh) move
  · intro world id value
    exact nomatch value
  · intro world id tx hold fresh found asked
    obtain ⟨note, place, settled⟩ := done_settled hold found asked
    refine ⟨trivial, fun other otherTx different foundOther => ?_⟩
    exact asserted_stable (commit_quiet hold found place settled different foundOther)
      (hold.localAt other otherTx foundOther)
  · intro world id tx hold permitted found
    exact ⟨hold.global, fun other otherTx _ present => hold.localAt other otherTx present⟩
  · intro world value
    exact nomatch value

theorem hold_run {rows : Rows} (run : Run (service settings)
    (fun world event => stale strict world event = false) (idle rows []) world) :
    (asserted strict).Hold world :=
  assertions_run asserted_kept (hold_idle (asserted strict) trivial) run

end Kept

/-! ## The two-person rule -/

/-- A role change as it commits, from `rows` to `after`. -/
def TwoPersonRule (rows after : Rows) (change : RoleChange) : Prop :=
  match change.approval with
  | .secondAdmin => change.approverId ≠ change.requesterId ∧
      change.approverId ≠ change.targetId ∧ ActiveAdmin rows change.approverId ∧
      ActiveAdmin rows change.requesterId
  | .noApprover => ∀ user, adminRow after user ≠ none →
      user = change.requesterId ∨ user = change.targetId

/-- The commit changes the role of nobody but the target of the call's role
change, and that change obeys the two-person rule. -/
def Obeys (world after : Admins) (id : Nat) : Prop :=
  ∃ tx note, world.active.lookup id = some tx ∧ tx.pc.place = .done note ∧
    (∀ user, adminRow after.committed user ≠ adminRow world.committed user →
      ∃ change, note = .applied change ∧ change.targetId = user) ∧
    ∀ change, note = .applied change → TwoPersonRule world.committed after.committed change

/-- In every run in which no operation relies on a stale role or a stale list of
administrators, every commit obeys the two-person rule. -/
theorem two_person_rule (settings : Settings) (rows : Rows) (world after : Admins) (id : Nat)
    (run : Run (service settings) (fun world event => stale true world event = false)
      (idle rows []) world)
    (stepped : step (service settings) world (.commit id) = some after) :
    Obeys world after id := by
  have hold := hold_run run
  cases step_moves stepped with
  | commit id tx found asked =>
      obtain ⟨note, place, within, acting, warranted⟩ := done_settled hold found asked
      rw [place] at within warranted
      have changes : ∀ user, adminRow (overlay world.committed tx.own) user =
          adminRow world.committed user ∨
          ∃ change, note = .applied change ∧ change.targetId = user := by
        intro user
        rw [admin_overlay]
        cases written : (accounts tx.own).admin user with
        | none => exact .inl rfl
        | some value =>
            rcases within.admins user value written with same | ⟨change, effect, target, _⟩
            · exact .inl same
            · exact .inr ⟨change, note_effect_change effect, target⟩
      refine ⟨tx, note, found, place, fun user differs => ?_, fun change applied => ?_⟩
      · exact (changes user).resolve_left differs
      · subst applied
        unfold TwoPersonRule
        split
        · rename_i approval
          have seconded := warranted.1.seconded rfl approval
          exact ⟨seconded.notRequester, seconded.notTarget, seconded.approver.active,
            seconded.requester.active⟩
        · rename_i approval
          intro user holder
          rcases changes user with same | ⟨other, sameNote, target⟩
          · exact (warranted.2 rfl approval).1 user (same ▸ holder)
          · cases sameNote
            exact .inr target.symm

/-! ## Runs -/

def trialSettings : Settings :=
  { roleRequestTtlHours := 24, stepUpWindowSeconds := 300, suspensionsLimitPerHour := 10 }

def account (rows : Rows) (id : UserId) (admin : Bool) : Rows :=
  let known := rows.insert (.user id) { status := .active, isSeededAdmin := admin }
  let signedIn := known.insert (.session id)
    { userId := id, steppedUpAt := some 0, revokedAt := none }
  if admin then signedIn.insert (.role id .admin) { grantedBy := none } else signedIn

def calling (actorId : UserId) (command : Command) (newId : String) : Call :=
  { actorId, sessionId := actorId, command, now := 10, newRequestId := newId, newAuditId := newId }

def opening (id : Nat) (call : Call) : Event Key Pc Empty Empty :=
  .begin id { call, place := firstPlace call.command }

def scanning (id : Nat) (keys : List Key) : List (Event Key Pc Empty Empty) :=
  .run id none :: keys.map (fun key => .run id (some key)) ++ [.run id none]

def oneAdmin : Rows := account (account (account ∅ "ada" true) "bea" false) "cy" false

/-- Ada makes a student an administrator, from her lock on the accounts on. -/
def grantingAlone (id : Nat) (targetId : UserId) : List (Event Key Pc Empty Empty) :=
  scanning id [.user "ada", .user targetId] ++ [.run id none] ++ scanning id [] ++
    [.run id none, .run id none, .run id none]

def appointing (targetId : UserId) : Call :=
  calling "ada" (.requestRoleChange targetId .admin) targetId

def appointment (targetId : UserId) : RoleChange :=
  { approverId := "ada", requesterId := "ada", approval := .noApprover, targetId, role := .admin }

theorem only_admin_appoints : ∃ world after,
    Run (service trialSettings) (fun world event => stale true world event = false)
      (idle oneAdmin []) world ∧
    step (service trialSettings) world (.commit 1) = some after ∧
    after.env = [(appointing "bea", .applied (appointment "bea"))] ∧ Obeys world after 1 := by
  have reached : ((steps (service trialSettings) (fun world event => stale true world event = false)
      (idle oneAdmin []) ([opening 1 (appointing "bea")] ++ scanning 1 [.role "ada" .admin] ++
        grantingAlone 1 "bea")).bind fun world =>
      (step (service trialSettings) world (.commit 1)).map World.env) =
      some [(appointing "bea", .applied (appointment "bea"))] := by decide
  obtain ⟨world, stepped, reached⟩ := Option.bind_eq_some_iff.mp reached
  obtain ⟨after, committed, log⟩ := Option.map_eq_some_iff.mp reached
  have run := run_steps .refl _ stepped
  exact ⟨world, after, run, committed, log,
    two_person_rule trialSettings oneAdmin world after 1 run committed⟩

/-- Ada appoints two students at once: the second appointment waited for her own
row only, and finds nobody to ask although the first has committed. -/
theorem racing_appointments_disobey : ¬ ∀ settings rows world after id,
    Run (service settings) (fun _ _ => True) (idle rows []) world →
    step (service settings) world (.commit id) = some after → Obeys world after id := by
  intro obeys
  have reached : ((steps (service trialSettings) (fun _ _ => True) (idle oneAdmin [])
      ([opening 1 (appointing "bea")] ++ scanning 1 [.role "ada" .admin] ++
        [opening 2 (appointing "cy"), .run 2 none] ++ grantingAlone 1 "bea" ++ [.commit 1] ++
        [.run 2 (some (.role "ada" .admin)), .run 2 none] ++ grantingAlone 2 "cy")).bind
      fun world => (step (service trialSettings) world (.commit 2)).map fun after =>
        ((world.active.lookup 2).map fun tx => tx.pc.place, adminRow after.committed "bea")) =
      some (some (.done (.applied (appointment "cy"))), some { grantedBy := some "ada" }) := by
    decide
  obtain ⟨world, stepped, reached⟩ := Option.bind_eq_some_iff.mp reached
  obtain ⟨after, committed, seen⟩ := Option.map_eq_some_iff.mp reached
  rw [Prod.mk.injEq] at seen
  obtain ⟨tx, note, found, place, _, rule⟩ :=
    obeys trialSettings oneAdmin world after 2 (run_steps .refl _ stepped) committed
  rw [found, Option.map_some, place, Option.some.injEq, Place.done.injEq] at seen
  have alone := rule (appointment "cy") seen.1 "bea" (by simp [seen.2])
  exact absurd alone (by decide)

/-! ## Administration is never lost -/

section Administered

variable {strict : Bool} {settings : Settings}

/-- A committed call leaves its actor an active administrator. -/
theorem actor_stays {rows : Rows} {held : Own} {pc : Pc} {note : Note}
    (place : pc.place = .done note) (settled : Settled strict rows (accounts held) pc) :
    ActiveAdmin (overlay rows held) pc.call.actorId := by
  obtain ⟨within, ⟨holds, ⟨row, found, active⟩, admin⟩, warranted⟩ := settled
  rw [place] at within warranted
  constructor
  · rw [user_overlay]
    cases written : (accounts held).user pc.call.actorId with
    | none => exact ⟨row, found, active⟩
    | some value =>
        rcases within.users _ value written with same | ⟨status, set, effect, rfl, hasStatus⟩
        · exact ⟨row, same.trans found, active⟩
        · cases note with
          | suspended targetId =>
              cases effect
              exact absurd rfl warranted
          | reactivated targetId =>
              cases effect
              exact ⟨set, rfl, hasStatus⟩
          | _ => exact nomatch effect
  · rw [admin_overlay]
    cases written : (accounts held).admin pc.call.actorId with
    | none => exact admin
    | some value =>
        rcases within.admins _ value written with same | ⟨change, effect, target, granted⟩
        · rw [Option.getD_some, same]
          exact admin
        · have applied := note_effect_change effect
          subst applied
          cases role : change.role with
          | admin => exact granted role
          | student => exact absurd target (warranted.1.notSelf role)

theorem request_keeps_call (settings : Settings) (pc : Pc) :
    (request settings pc).All fun next => next.call = pc.call := by
  obtain ⟨call, place⟩ := pc
  cases place with
  | isSeededAdmin => exact fun view => rfl
  | requireStepUp => exact fun view => rfl
  | countActorActions => exact fun view => rfl
  | findPendingRequest => exact fun view => rfl
  | insertRoleRequest => exact fun inserted => rfl
  | insertAudit => exact fun inserted => rfl
  | applyRoleChange adminIds change =>
      cases granted : change.role with
      | admin =>
          simp only [request, granted]
          exact fun inserted => rfl
      | student =>
          simp only [request, granted]
          exact fun snapshot hits => rfl
  | done => trivial
  | failed => trivial
  | _ => exact fun snapshot hits => rfl

theorem call_kept {rows : Rows} {taken : Key → Bool} {pick : Option Key}
    {tx moved : Tx RowOf Pc} (move : LocalMove (service settings) rows taken tx pick moved) :
    moved.pc.call = tx.pc.call :=
  local_pc (fun next => next.call = tx.pc.call) rfl (request_keeps_call settings tx.pc) move

def Underway (strict : Bool) (id : Nat) (world : Admins) (event : Event Key Pc Empty Empty) :
    Prop :=
  stale strict world event = false ∧ event ≠ .commit id ∧ event ≠ .abort id

/-- A call under way that holds an account, of which nothing has changed. -/
structure Guarded (strict : Bool) (rows : Rows) (id : Nat) (call : Call) (user : UserId) (world : Admins) :
    Prop where
  hold : (asserted strict).Hold world
  holds : ∃ tx, world.active.lookup id = some tx ∧ tx.pc.call = call ∧
    Holds (accounts tx.own) user
  account : userRow world.committed user = userRow rows user
  role : adminRow world.committed user = adminRow rows user

theorem guarded_step {rows : Rows} {id : Nat} {call : Call} {user : UserId}
    {world after : Admins} {event : Event Key Pc Empty Empty}
    (guarded : Guarded strict rows id call user world)
    (permitted : Underway strict id world event)
    (stepped : step (service settings) world event = some after) :
    Guarded strict rows id call user after := by
  obtain ⟨hold, ⟨tx, found, same, held⟩, account, role⟩ := guarded
  have holdAfter := assertions_step asserted_kept hold permitted.1 stepped
  have elsewhere : ∀ other moved, other ≠ id →
      ((world.active.insert other moved).lookup id = some tx) := by
    intro other moved different
    rw [AList.lookup_insert_ne (Ne.symm different)]
    exact found
  cases step_moves stepped with
  | begin other pc fresh =>
      have different : other ≠ id := by
        rintro rfl
        exact nomatch found.symm.trans fresh
      exact ⟨holdAfter, ⟨tx, elsewhere other _ different, same, held⟩, account, role⟩
  | run other pick otherTx moved foundOther move =>
      refine ⟨holdAfter, ?_, account, role⟩
      by_cases isOwn : other = id
      · subst isOwn
        rw [found, Option.some.injEq] at foundOther
        subst foundOther
        exact ⟨moved, AList.lookup_insert _, (call_kept move).trans same,
          local_own_mono move held⟩
      · exact ⟨tx, elsewhere other moved isOwn, same, held⟩
  | answer other value => exact nomatch value
  | commit other otherTx foundOther asked =>
      have different : id ≠ other := by
        rintro rfl
        exact permitted.2.1 rfl
      obtain ⟨note, place, settled⟩ := done_settled hold foundOther asked
      have quiet := commit_quiet hold foundOther place settled different found
      refine ⟨holdAfter, ⟨tx, ?_, same, held⟩, (quiet.users user held).trans account,
        (quiet.roles user held).trans role⟩
      exact (AList.lookup_erase_ne different).trans found
  | abort other =>
      have different : id ≠ other := by
        rintro rfl
        exact permitted.2.2 rfl
      refine ⟨holdAfter, ⟨tx, ?_, same, held⟩, account, role⟩
      exact (AList.lookup_erase_ne different).trans found
  | stimulus value => exact nomatch value

end Administered

theorem guarded_run {strict : Bool} {settings : Settings} {rows : Rows} {id : Nat} {call : Call}
    {user : UserId} {granted world : Admins} (guarded : Guarded strict rows id call user granted)
    (run : Run (service settings) (Underway strict id) granted world) :
    Guarded strict rows id call user world := by
  induction run with
  | refl => exact guarded
  | next event run permitted stepped ih => exact guarded_step ih permitted stepped

/-- Where a commit's actor is an active administrator when the commit happens. -/
theorem actor_at_commit {strict : Bool} {settings : Settings} {world after : Admins} {id : Nat}
    (hold : (asserted strict).Hold world)
    (stepped : step (service settings) world (.commit id) = some after) :
    ∃ tx, world.active.lookup id = some tx ∧
      Acting world.committed (accounts tx.own) tx.pc.call.actorId := by
  cases step_moves stepped with
  | commit id tx found asked =>
      obtain ⟨note, place, settled⟩ := done_settled hold found asked
      exact ⟨tx, found, settled.acting⟩

/-- In every state some active account holds the role, and whoever's lock is
granted is an active administrator then, if the call goes on to commit. -/
def Administered (strict : Bool) (settings : Settings) (world : Admins) : Prop :=
  (∃ user, ActiveAdmin world.committed user) ∧
    (∀ id after, step (service settings) world (.commit id) = some after →
      ∃ tx, world.active.lookup id = some tx ∧
        Acting world.committed (accounts tx.own) tx.pc.call.actorId) ∧
    ∀ id tx granted moved later after, world.active.lookup id = some tx →
      step (service settings) world (.run id (some (.user tx.pc.call.actorId))) = some granted →
      stale strict world (.run id (some (.user tx.pc.call.actorId))) = false →
      granted.active.lookup id = some moved → Holds (accounts moved.own) tx.pc.call.actorId →
      Run (service settings) (Underway strict id) granted later →
      step (service settings) later (.commit id) = some after →
      ActiveAdmin world.committed tx.pc.call.actorId

/-- From a state with an active administrator, in every run in which `lockUsers`
never relies on a role of its actor that was revoked while it waited. -/
theorem administration_never_lost (settings : Settings) (rows : Rows) (world : Admins)
    (seeded : ∃ user, ActiveAdmin rows user)
    (run : Run (service settings) (fun world event => stale false world event = false)
      (idle rows []) world) : Administered false settings world := by
  have hold := hold_run run
  refine ⟨?_, fun id after stepped => actor_at_commit hold stepped, ?_⟩
  · have kept : ((asserted false).strengthen fun rows => ∃ user, ActiveAdmin rows user).Kept
        (service settings) fun world event => stale false world event = false := by
      apply strengthen_kept asserted_kept
      intro world id tx hold administered found asked
      obtain ⟨note, place, settled⟩ := done_settled hold found asked
      exact ⟨tx.pc.call.actorId, actor_stays place settled⟩
    exact (assertions_run kept (hold_idle _ ⟨trivial, seeded⟩) run).global.2
  · intro id tx granted moved later after found grant fresh foundMoved holds rest stepped
    have holdGranted := assertions_step asserted_kept hold fresh grant
    have guarded : Guarded false world.committed id tx.pc.call tx.pc.call.actorId granted := by
      cases step_moves grant with
      | run id pick other after foundOther move =>
          rw [found, Option.some.injEq] at foundOther
          subst foundOther
          have same : moved = after :=
            Option.some.inj (foundMoved.symm.trans (AList.lookup_insert _))
          subst same
          exact ⟨holdGranted, ⟨moved, foundMoved, call_kept move, holds⟩, rfl, rfl⟩
    have reached := guarded_run guarded rest
    obtain ⟨last, foundLast, acting⟩ := actor_at_commit reached.hold stepped
    obtain ⟨other, foundOther, sameCall, _⟩ := reached.holds
    rw [foundLast, Option.some.injEq] at foundOther
    subst foundOther
    rw [sameCall] at acting
    have active := acting.active
    unfold ActiveAdmin at active ⊢
    rwa [reached.account, reached.role] at active

def twoAdmins : Rows := account (account ∅ "ada" true) "bea" true

def suspending : Call := calling "ada" (.suspend "bea") "suspension"

/-- Ada suspends Bea, from her lock on the accounts on. -/
def suspendingLocked (id : Nat) : List (Event Key Pc Empty Empty) :=
  [.run id (some (.user "ada")), .run id (some (.user "bea")), .run id none, .run id none,
    .run id none] ++ scanning id [.user "bea"] ++ scanning id [.session "bea"] ++
    [.run id none, .commit id]

theorem suspension_keeps_an_admin : ∃ world,
    Run (service trialSettings) (fun world event => stale false world event = false)
      (idle twoAdmins []) world ∧
    world.env = [(suspending, .suspended "bea")] ∧ Administered false trialSettings world := by
  have reached : (steps (service trialSettings)
      (fun world event => stale false world event = false) (idle twoAdmins [])
      ([opening 1 suspending, .run 1 none] ++ suspendingLocked 1)).map World.env =
      some [(suspending, .suspended "bea")] := by decide
  obtain ⟨world, stepped, log⟩ := Option.map_eq_some_iff.mp reached
  have run := run_steps .refl _ stepped
  have seeded : ∃ user, ActiveAdmin twoAdmins user :=
    ⟨"ada", ⟨{ status := .active, isSeededAdmin := true }, by decide, rfl⟩, by decide⟩
  exact ⟨world, run, log, administration_never_lost trialSettings twoAdmins world seeded run⟩

theorem holder_listed {rows : Rows} {user : UserId} (holder : adminRow rows user ≠ none) :
    user ∈ hitAdmins rows.entries := by
  obtain ⟨row, found⟩ := Option.ne_none_iff_exists'.mp holder
  have present : rows.lookup (Key.role user .admin) = some row := found
  have member := AList.mem_lookup_iff.mp present
  exact List.mem_filterMap.mpr ⟨_, member, rfl⟩

/-- Bea removes Ada's role while Ada's suspension of Bea waits for the accounts:
the suspension still sees Ada's role, and nobody administers any more. -/
theorem crossed_actions_lose_administration : ¬ ∀ settings rows world,
    (∃ user, ActiveAdmin rows user) →
    Run (service settings) (fun _ _ => True) (idle rows []) world →
    Administered false settings world := by
  intro administered
  have reached : (steps (service trialSettings) (fun _ _ => True) (idle twoAdmins [])
      ([opening 2 (calling "bea" (.requestRoleChange "ada" .student) "downgrade")] ++
        scanning 2 [.role "ada" .admin, .role "bea" .admin] ++
        scanning 2 [.user "ada", .user "bea"] ++ [.run 2 none, .run 2 none] ++ scanning 2 [] ++
        [.run 2 none, opening 1 suspending, .run 1 none] ++ scanning 2 [.role "ada" .admin] ++
        [.run 2 none, .commit 2] ++ suspendingLocked 1)).map
      (fun world => (hitAdmins world.committed.entries, userRow world.committed "bea")) =
      some (["bea"], some { status := .suspended, isSeededAdmin := true }) := by decide
  obtain ⟨world, stepped, seen⟩ := Option.map_eq_some_iff.mp reached
  rw [Prod.mk.injEq] at seen
  have seeded : ∃ user, ActiveAdmin twoAdmins user :=
    ⟨"ada", ⟨{ status := .active, isSeededAdmin := true }, by decide, rfl⟩, by decide⟩
  obtain ⟨⟨user, ⟨row, found, active⟩, holder⟩, _⟩ :=
    administered trialSettings twoAdmins world seeded (run_steps .refl _ stepped)
  have listed := holder_listed holder
  rw [seen.1, List.mem_singleton] at listed
  subst listed
  rw [seen.2, Option.some.injEq] at found
  subst found
  exact nomatch active

end Foc.Administration
