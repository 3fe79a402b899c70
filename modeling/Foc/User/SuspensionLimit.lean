import Foc.User.Suspensions
import Mathlib

/-!
The limits on suspensions over every interleaving. An administrator's own account is locked from
`lockUsers` to the end of the transaction, so the suspensions of one administrator count one after
the other, whatever the order of their start times.
-/
namespace Foc.User.Suspensions
open Library.EventLoop Library.LockTable Library.SlidingWindow
open Sessions (UserId SessionId)
open Administration (Role User AuditAction)

variable {settings : Settings} {state after : State} {tables later : Tables} {call moved : Call}
  {index : Nat}

/-! ## What a call has found -/

/-- The administrator is locked, and the recent suspensions are under the limit. -/
structure Room (settings : Settings) (tables : Tables) (call : Call) : Prop where
  actor : Lock.user call.actorId ∈ call.locks
  count : countActorActions tables.audits call.actorId .suspend hour call.now <
    settings.suspensionsLimitPerHour

/-- No alert of the kind was raised in the last hour. -/
structure AlertRoom (tables : Tables) (call : Call) (alert : Alert) : Prop where
  lock : Lock.alert alert.kind alert.actorId ∈ call.locks
  hourly : alert.kind.hourly = true
  count : (raisedAt tables.alerts alert.kind alert.actorId).countP
    (recent hour alert.occurredAt) < 1

def Plain (own : Writes) : Prop := ∀ alert ∈ own.alerts, alert.kind.hourly = false

/-- What a call relies on at each stage. -/
def Asserts (settings : Settings) (tables : Tables) (call : Call) : Prop :=
  match call.stage with
  | .locking _ _ read => ∀ entry ∈ read, Lock.user entry.1 ∈ call.locks
  | .steppingUp _ => Lock.user call.actorId ∈ call.locks
  | .counting _ => Lock.user call.actorId ∈ call.locks
  | .writing _ _ => Room settings tables call
  | .revoking _ _ own => Room settings tables call ∧ own.audits = [] ∧ Plain own
  | .revokingRows _ _ own _ => Room settings tables call ∧ own.audits = [] ∧ Plain own
  | .recording _ _ own => Room settings tables call ∧ own.audits = [] ∧ Plain own
  | .alerting _ own => Room settings tables call ∧ own.audits = [suspendRecord call] ∧ Plain own
  | .publishing _ own => Room settings tables call ∧ own.audits = [suspendRecord call] ∧ Plain own
  | .committing (.suspended _) own =>
      Room settings tables call ∧ own.audits = [suspendRecord call] ∧ Plain own
  | .committing _ own => own = .none
  | .raising kind _ _ => kind.hourly = true
  | .lockingAlert alert _ => alert.kind.hourly = true
  | .checkingAlert alert _ =>
      Lock.alert alert.kind alert.actorId ∈ call.locks ∧ alert.kind.hourly = true
  | .committingAlert alert _ => AlertRoom tables call alert
  | _ => True

/-- What others leave to one that holds some locks. -/
structure Frame (locks : List Lock) (tables later : Tables) : Prop where
  acted : ∀ actorId, Lock.user actorId ∈ locks →
    actedAt later.audits actorId .suspend = actedAt tables.audits actorId .suspend
  raised : ∀ kind actorId, Lock.alert kind actorId ∈ locks → kind.hourly = true →
    raisedAt later.alerts kind actorId = raisedAt tables.alerts kind actorId

theorem Frame.refl (locks : List Lock) : Frame locks tables tables :=
  ⟨fun _ _ => rfl, fun _ _ _ _ => rfl⟩

theorem Room.framed (room : Room settings tables call)
    (frame : Frame call.locks tables later) : Room settings later call := by
  refine ⟨room.actor, ?_⟩
  rw [countActorActions, frame.acted call.actorId room.actor]
  exact room.count

theorem AlertRoom.framed {alert : Alert} (room : AlertRoom tables call alert)
    (frame : Frame call.locks tables later) : AlertRoom later call alert := by
  refine ⟨room.lock, room.hourly, ?_⟩
  rw [frame.raised alert.kind alert.actorId room.lock room.hourly]
  exact room.count

theorem asserts_frame (asserts : Asserts settings tables call)
    (frame : Frame call.locks tables later) : Asserts settings later call := by
  unfold Asserts at asserts ⊢
  split at asserts
  · exact asserts
  · exact asserts
  · exact asserts
  · exact asserts.framed frame
  · exact ⟨asserts.1.framed frame, asserts.2⟩
  · exact ⟨asserts.1.framed frame, asserts.2⟩
  · exact ⟨asserts.1.framed frame, asserts.2⟩
  · exact ⟨asserts.1.framed frame, asserts.2⟩
  · exact ⟨asserts.1.framed frame, asserts.2⟩
  · exact ⟨asserts.1.framed frame, asserts.2⟩
  · exact asserts
  · exact asserts
  · exact asserts
  · exact asserts
  · exact asserts.framed frame
  · trivial

/-! ## The limits -/

/-- Every hour holds so many SUSPEND records of an administrator at most, and one alert of a kind
that is raised once an hour. -/
structure Within (settings : Settings) (tables : Tables) : Prop where
  suspensions : ∀ actorId,
    Limited hour settings.suspensionsLimitPerHour (actedAt tables.audits actorId .suspend)
  alerts : ∀ kind actorId, kind.hourly = true →
    Limited hour 1 (raisedAt tables.alerts kind actorId)

structure Sound (settings : Settings) (state : State) : Prop where
  apart : Apart Call.locks state.calls
  asserts : ∀ (index : Nat) call, state.calls[index]? = some call →
    Asserts settings state.tables call
  within : Within settings state.tables

theorem begun_sound (clock : Micros) (users : AList fun _ : UserId => User)
    (roles : List (UserId × Role)) (sessions : AList fun _ : SessionId => Administration.Session) :
    Sound settings (begun clock users roles sessions) where
  apart first second one other lock found := by cases found
  asserts index call found := by cases found
  within := ⟨fun _ => limited_nil, fun _ _ _ => limited_nil⟩

/-- A call goes on, and may commit. -/
theorem step_sound (sound : Sound settings state) (found : state.calls[index]? = some call)
    (asserts : Asserts settings later moved)
    (locks : ∀ lock ∈ moved.locks, lock ∈ call.locks ∨ busy state index lock = false)
    (frame : ∀ (other : Nat) holder, index ≠ other → state.calls[other]? = some holder →
      Frame holder.locks state.tables later)
    (within : Within settings later) :
    Sound settings { state with tables := later, calls := state.calls.set index moved } := by
  refine ⟨?_, ?_, within⟩
  · refine apart_set sound.apart found ?_
    intro lock held
    rcases locks lock held with ours | free
    · exact .inl ours
    · exact .inr fun other holder differs there => taken_free free differs there
  · intro other holder there
    rcases (get_set found).mp there with ⟨rfl, rfl⟩ | ⟨differs, there⟩
    · exact asserts
    · exact asserts_frame (sound.asserts other holder there) (frame other holder differs there)

/-- A call goes on and commits nothing. -/
theorem quiet_sound (sound : Sound settings state) (found : state.calls[index]? = some call)
    (asserts : Asserts settings state.tables moved)
    (locks : ∀ lock ∈ moved.locks, lock ∈ call.locks ∨ busy state index lock = false) :
    Sound settings { state with calls := state.calls.set index moved } :=
  step_sound sound found asserts locks (fun _ _ _ _ => .refl _) sound.within

theorem put_sound {stage : Stage} (sound : Sound settings state)
    (found : state.calls[index]? = some call)
    (asserts : Asserts settings state.tables { call with stage }) :
    Sound settings (put state index call stage) :=
  quiet_sound sound found asserts fun _ held => .inl held

theorem release_sound {stage : Stage} (sound : Sound settings state)
    (found : state.calls[index]? = some call)
    (asserts : Asserts settings state.tables { call with stage, locks := [] }) :
    Sound settings (release state index call stage) :=
  quiet_sound sound found asserts fun _ held => absurd held List.not_mem_nil

theorem lock_sound {lock : Lock} {stage : Stage} (sound : Sound settings state)
    (found : state.calls[index]? = some call) (free : busy state index lock = false)
    (asserts : Asserts settings state.tables { call with stage, locks := call.locks ++ [lock] }) :
    Sound settings (lockAnd state index call lock stage) := by
  refine quiet_sound sound found asserts ?_
  intro other held
  rcases List.mem_append.mp held with ours | new
  · exact .inl ours
  · cases List.mem_singleton.mp new
    exact .inr free

/-! ## Commits -/

theorem acted_append (audits more : List AuditRecord) (actorId : UserId) (action : AuditAction) :
    actedAt (audits ++ more) actorId action =
      actedAt audits actorId action ++ actedAt more actorId action := by
  simp only [actedAt, List.filter_append, List.map_append]

theorem raised_append (alerts more : List Alert) (kind : AlertKind) (actorId : UserId) :
    raisedAt (alerts ++ more) kind actorId =
      raisedAt alerts kind actorId ++ raisedAt more kind actorId := by
  simp only [raisedAt, List.filter_append, List.map_append]

theorem acted_record (actorId : UserId) :
    actedAt [suspendRecord call] actorId .suspend =
      if call.actorId = actorId then [call.now] else [] := by
  by_cases own : call.actorId = actorId
  · simp [actedAt, suspendRecord, own]
  · simp [actedAt, suspendRecord, own]

theorem raised_plain {alerts : List Alert} {kind : AlertKind} (actorId : UserId)
    (plain : ∀ alert ∈ alerts, alert.kind.hourly = false) (hourly : kind.hourly = true) :
    raisedAt alerts kind actorId = [] := by
  rw [raisedAt, List.map_eq_nil_iff, List.filter_eq_nil_iff]
  intro alert there matches_
  obtain ⟨same, -⟩ := Bool.and_eq_true_iff.mp matches_
  have not_ := plain alert there
  rw [of_decide_eq_true same, hourly] at not_
  cases not_

theorem acted_others {audits : List AuditRecord} (actorId : UserId)
    (others : ∀ record ∈ audits, record.action ≠ .suspend) :
    actedAt audits actorId .suspend = [] := by
  rw [actedAt, List.map_eq_nil_iff, List.filter_eq_nil_iff]
  intro record there matches_
  obtain ⟨-, same⟩ := Bool.and_eq_true_iff.mp matches_
  exact others record there (of_decide_eq_true same)

theorem raised_single (alert : Alert) (kind : AlertKind) (actorId : UserId) :
    raisedAt [alert] kind actorId =
      if alert.kind = kind ∧ alert.actorId = actorId then [alert.occurredAt] else [] := by
  by_cases own : alert.kind = kind ∧ alert.actorId = actorId
  · simp [raisedAt, own.1, own.2]
  · rw [if_neg own, raisedAt, List.map_eq_nil_iff, List.filter_eq_nil_iff]
    intro other there matches_
    cases List.mem_singleton.mp there
    obtain ⟨kinds, actors⟩ := Bool.and_eq_true_iff.mp matches_
    exact own ⟨of_decide_eq_true kinds, of_decide_eq_true actors⟩

theorem applyWrites_none (tables : Tables) (now : Micros) :
    applyWrites tables now .none = tables := by
  simp [applyWrites, Writes.none]

/-- The commit of a suspension adds one SUSPEND record, of the administrator it has locked. -/
theorem suspended_frame {own : Writes} {locks : List Lock}
    (audits : own.audits = [suspendRecord call]) (plain : Plain own)
    (apart : Lock.user call.actorId ∉ locks) :
    Frame locks tables (applyWrites tables call.now own) where
  acted actorId held := by
    have differs : call.actorId ≠ actorId := fun same => apart (same ▸ held)
    show actedAt (tables.audits ++ own.audits) actorId .suspend = _
    rw [acted_append, audits, acted_record, if_neg differs, List.append_nil]
  raised kind actorId _ hourly := by
    show raisedAt (tables.alerts ++ own.alerts) kind actorId = _
    rw [raised_append, raised_plain actorId plain hourly, List.append_nil]

theorem suspended_within {own : Writes} (within : Within settings tables)
    (room : Room settings tables call) (audits : own.audits = [suspendRecord call])
    (plain : Plain own) : Within settings (applyWrites tables call.now own) where
  suspensions actorId := by
    show Limited _ _ (actedAt (tables.audits ++ own.audits) actorId .suspend)
    rw [acted_append, audits, acted_record]
    split
    · rename_i same
      exact same ▸ limited_append (within.suspensions call.actorId) room.count
    · rw [List.append_nil]
      exact within.suspensions actorId
  alerts kind actorId hourly := by
    show Limited _ _ (raisedAt (tables.alerts ++ own.alerts) kind actorId)
    rw [raised_append, raised_plain actorId plain hourly, List.append_nil]
    exact within.alerts kind actorId hourly

/-- The first transaction commits. -/
theorem commit_sound {outcome : Outcome} {own : Writes} {next : Stage}
    (sound : Sound settings state) (found : state.calls[index]? = some call)
    (committing : call.stage = .committing outcome own)
    (asserts : Asserts settings (applyWrites state.tables call.now own)
      { call with stage := next, locks := [] }) :
    Sound settings
      { release state index call next with tables := applyWrites state.tables call.now own } := by
  have said := sound.asserts index call found
  simp only [Asserts, committing] at said
  have free : ∀ lock ∈ ([] : List Lock), lock ∈ call.locks ∨ busy state index lock = false :=
    fun _ held => absurd held List.not_mem_nil
  cases outcome with
  | suspended count =>
      obtain ⟨room, audits, plain⟩ := said
      have within := suspended_within sound.within room audits plain
      refine step_sound sound found asserts free ?_ within
      intro other holder differs there
      refine suspended_frame audits plain ?_
      intro held
      exact differs (sound.apart index other call holder _ found there room.actor held)
  | idempotent =>
      cases said
      rw [applyWrites_none] at asserts ⊢
      exact release_sound sound found asserts
  | limited count =>
      cases said
      rw [applyWrites_none] at asserts ⊢
      exact release_sound sound found asserts

/-- The second transaction commits: its alert is alone in the hour. -/
theorem alert_sound {alert : Alert} {answer answered : Answer} (sound : Sound settings state)
    (found : state.calls[index]? = some call)
    (committing : call.stage = .committingAlert alert answer) :
    Sound settings
      { release state index call (.ended answered) with
        tables := { state.tables with alerts := state.tables.alerts ++ [alert] } } := by
  have room := sound.asserts index call found
  simp only [Asserts, committing] at room
  refine step_sound sound found trivial (fun _ held => absurd held List.not_mem_nil) ?_ ?_
  · intro other holder differs there
    refine ⟨fun _ _ => rfl, ?_⟩
    intro kind actorId held hourly
    have apart : ¬(alert.kind = kind ∧ alert.actorId = actorId) := by
      rintro ⟨rfl, rfl⟩
      exact differs (sound.apart index other call holder _ found there room.lock held)
    show raisedAt (state.tables.alerts ++ [alert]) kind actorId = _
    rw [raised_append, raised_single, if_neg apart, List.append_nil]
  · refine ⟨sound.within.suspensions, ?_⟩
    intro kind actorId hourly
    show Limited _ _ (raisedAt (state.tables.alerts ++ [alert]) kind actorId)
    rw [raised_append, raised_single]
    split
    · rename_i same
      obtain ⟨rfl, rfl⟩ := same
      exact limited_append (sound.within.alerts _ _ hourly) room.count
    · rw [List.append_nil]
      exact sound.within.alerts kind actorId hourly

/-! ## Turns -/

theorem lookup_locked {read : List (UserId × User)} {roles : List (UserId × Role)} {id : UserId}
    {found : LockedUser} (held : ∀ entry ∈ read, Lock.user entry.1 ∈ call.locks)
    (looked : lockedUser roles read id = some found) : Lock.user id ∈ call.locks := by
  obtain ⟨row, there, -⟩ := Option.map_eq_some_iff.mp looked
  obtain ⟨before, rest, rfl, -⟩ := List.lookup_eq_some_iff.mp there
  exact held (id, row) (by simp)

theorem permitted_asserts (target : LockedUser) {locks : List Lock}
    (held : Lock.user call.actorId ∈ locks) :
    Asserts settings tables { call with stage := permitted target, locks } := by
  unfold permitted
  cases target.status with
  | suspended => exact rfl
  | pendingActivation => trivial
  | active => exact held

theorem locked_asserts (roles : List (UserId × Role)) (read : List (UserId × User))
    (held : ∀ entry ∈ read, Lock.user entry.1 ∈ call.locks) :
    Asserts settings tables { call with stage := locked call roles read } := by
  unfold locked
  cases looked : lockedUser roles read call.actorId with
  | none => trivial
  | some actor =>
      have own : Lock.user call.actorId ∈ call.locks := lookup_locked held looked
      dsimp only
      split
      · trivial
      cases lockedUser roles read call.targetId with
      | none => trivial
      | some target =>
          dsimp only
          split
          · trivial
          split
          · split
            · exact own
            · trivial
          · exact permitted_asserts target own

/-- A step that ends the call, or goes on. -/
theorem next_sound {next : Stage} (sound : Sound settings state)
    (found : state.calls[index]? = some call)
    (moves : (match next with
      | .ended answer => some (release state index call (.ended answer))
      | stage => some (put state index call stage)) = some after)
    (asserts : Asserts settings state.tables { call with stage := next }) :
    Sound settings after := by
  split at moves
  · cases moves
    exact release_sound sound found trivial
  · cases moves
    exact put_sound sound found asserts

theorem proceed_sound {appClock : Micros} (sound : Sound settings state)
    (found : state.calls[index]? = some call)
    (moves : proceed settings state index appClock call = some after) : Sound settings after := by
  have said := sound.asserts index call found
  unfold proceed at moves
  split at moves
  -- begun
  · rename_i at_
    cases moves
    exact put_sound sound found fun entry there => absurd there List.not_mem_nil
  -- locking
  · rename_i roles id left read at_
    simp only [Asserts, at_] at said
    split at moves
    · cases moves
    · rename_i free
      split at moves
      · cases moves
        exact put_sound sound found said
      · rename_i row looked
        cases moves
        refine lock_sound sound found (Bool.eq_false_iff.mpr free) ?_
        intro entry there
        rcases List.mem_append.mp there with before | new
        · exact List.mem_append_left _ (said entry before)
        · cases List.mem_singleton.mp new
          exact List.mem_append_right _ (List.mem_singleton.mpr rfl)
  · rename_i roles read at_
    simp only [Asserts, at_] at said
    exact next_sound sound found moves (locked_asserts roles read said)
  -- steppingUp
  · rename_i target at_
    simp only [Asserts, at_] at said
    dsimp only at moves
    split at moves
    · exact next_sound sound found moves (permitted_asserts target said)
    · cases moves
      exact release_sound sound found trivial
  -- counting
  · rename_i target at_
    simp only [Asserts, at_] at said
    dsimp only at moves
    split at moves
    · cases moves
      exact put_sound sound found rfl
    · rename_i room
      cases moves
      exact put_sound sound found ⟨said, Nat.lt_of_not_le room⟩
  -- writing
  · rename_i target count at_
    simp only [Asserts, at_] at said
    cases moves
    exact put_sound sound found
      ⟨⟨said.actor, said.count⟩, rfl, fun alert there => absurd there List.not_mem_nil⟩
  -- revoking
  · rename_i target count own at_
    simp only [Asserts, at_] at said
    cases moves
    exact put_sound sound found ⟨⟨said.1.actor, said.1.count⟩, said.2⟩
  · rename_i target count own id left at_
    simp only [Asserts, at_] at said
    split at moves
    · cases moves
    · rename_i free
      split at moves
      · cases moves
        exact put_sound sound found ⟨⟨said.1.actor, said.1.count⟩, said.2⟩
      · cases moves
        exact lock_sound sound found (Bool.eq_false_iff.mpr free)
          ⟨⟨List.mem_append_left _ said.1.actor, said.1.count⟩, said.2⟩
  · rename_i target count own at_
    simp only [Asserts, at_] at said
    cases moves
    exact put_sound sound found ⟨⟨said.1.actor, said.1.count⟩, said.2⟩
  -- recording
  · rename_i target count own at_
    simp only [Asserts, at_] at said
    have audits : own.audits ++ [suspendRecord call] = [suspendRecord call] := by
      rw [said.2.1, List.nil_append]
    dsimp only at moves
    split at moves
    all_goals
      cases moves
      exact put_sound sound found ⟨⟨said.1.actor, said.1.count⟩, audits, said.2.2⟩
  -- alerting
  · rename_i count own at_
    simp only [Asserts, at_] at said
    cases moves
    refine put_sound sound found ⟨⟨said.1.actor, said.1.count⟩, said.2.1, ?_⟩
    intro alert there
    rcases List.mem_append.mp there with before | new
    · exact said.2.2 alert before
    · cases List.mem_singleton.mp new
      rfl
  -- publishing
  · rename_i count own at_
    simp only [Asserts, at_] at said
    cases moves
    exact put_sound sound found ⟨⟨said.1.actor, said.1.count⟩, said.2⟩
  -- committing
  · rename_i outcome own at_
    cases moves
    refine commit_sound sound found at_ ?_
    unfold afterCommit
    split
    · trivial
    · rfl
    · split
      · rfl
      · trivial
  -- raising
  · rename_i kind details answer at_
    simp only [Asserts, at_] at said
    cases moves
    exact put_sound sound found said
  · rename_i alert answer at_
    simp only [Asserts, at_] at said
    dsimp only at moves
    split at moves
    · cases moves
    · rename_i free
      cases moves
      exact lock_sound sound found (Bool.eq_false_iff.mpr free)
        ⟨List.mem_append_right _ (List.mem_singleton.mpr rfl), said⟩
  · rename_i alert answer at_
    simp only [Asserts, at_] at said
    split at moves
    · cases moves
      exact release_sound sound found trivial
    · rename_i none
      cases moves
      refine put_sound sound found ⟨said.1, said.2, ?_⟩
      rw [Nat.lt_one_iff, List.countP_eq_zero]
      intro stamp there near
      exact none (List.any_eq_true.mpr ⟨stamp, there, near⟩)
  · rename_i alert answer at_
    cases moves
    exact alert_sound sound found at_
  -- ended
  · cases moves

theorem breaks_sound {landed : Bool} (sound : Sound settings state)
    (found : state.calls[index]? = some call)
    (broke : breaks state index landed call = some after) : Sound settings after := by
  unfold breaks at broke
  split at broke
  · cases broke
  · rename_i outcome own at_
    dsimp only at broke
    split at broke
    · cases broke
      exact commit_sound sound found at_ trivial
    · cases broke
      exact release_sound sound found trivial
  · rename_i alert answer at_
    dsimp only at broke
    split at broke
    · cases broke
      exact alert_sound sound found at_
    · cases broke
      exact release_sound sound found trivial
  · cases broke
    exact release_sound sound found trivial

theorem elsewhere_frame {elsewhere : Elsewhere} (locks : List Lock)
    (may : allowed state elsewhere = true) :
    Frame locks state.tables (commitElsewhere state.tables elsewhere) := by
  obtain ⟨left, alerts⟩ := Bool.and_eq_true_iff.mp may
  obtain ⟨-, audits⟩ := Bool.and_eq_true_iff.mp left
  refine ⟨?_, ?_⟩
  · intro actorId _
    show actedAt (state.tables.audits ++ elsewhere.audits) actorId .suspend = _
    have none : actedAt elsewhere.audits actorId .suspend = [] :=
      acted_others actorId fun record there =>
        of_decide_eq_true (List.all_eq_true.mp audits record there)
    rw [acted_append, none, List.append_nil]
  · intro kind actorId _ hourly
    show raisedAt (state.tables.alerts ++ elsewhere.alerts) kind actorId = _
    have none : raisedAt elsewhere.alerts kind actorId = [] :=
      raised_plain actorId (fun alert there =>
        (Bool.not_eq_true' _).mp (List.all_eq_true.mp alerts alert there)) hourly
    rw [raised_append, none, List.append_nil]

theorem Within.framed (within : Within settings tables)
    (frame : ∀ locks, Frame locks tables later) : Within settings later where
  suspensions actorId := by
    rw [(frame [.user actorId]).acted actorId (List.mem_singleton.mpr rfl)]
    exact within.suspensions actorId
  alerts kind actorId hourly := by
    rw [(frame [.alert kind actorId]).raised kind actorId (List.mem_singleton.mpr rfl) hourly]
    exact within.alerts kind actorId hourly

theorem turn_sound (state : State) (event : Event) (after : State) (sound : Sound settings state)
    (turned : turn settings state event = some after) : Sound settings after := by
  cases event with
  | tick now =>
      cases turned
      exact ⟨sound.apart, sound.asserts, sound.within⟩
  | suspend asked =>
      cases turned
      refine ⟨apart_append sound.apart rfl, ?_, sound.within⟩
      intro index call found
      rcases get_append found with before | ⟨-, rfl⟩
      · exact sound.asserts index call before
      · trivial
  | run index appClock =>
      obtain ⟨call, found, moves⟩ := Option.bind_eq_some_iff.mp turned
      exact proceed_sound sound found moves
  | breaks index landed =>
      obtain ⟨call, found, broke⟩ := Option.bind_eq_some_iff.mp turned
      exact breaks_sound sound found broke
  | elsewhere change =>
      simp only [turn] at turned
      split at turned
      · rename_i may
        cases turned
        refine ⟨sound.apart, ?_, sound.within.framed fun locks => elsewhere_frame locks may⟩
        intro index call found
        exact asserts_frame (sound.asserts index call found) (elsewhere_frame _ may)
      · cases turned

/-! ## Refusals -/

/-- What a call answers unless it breaks, once it has decided. -/
def Call.answering (call : Call) : Option Answer :=
  match call.stage with
  | .committing (.limited _) _ => some .rateLimited
  | .committing _ _ => some .view
  | .raising _ _ answer => some answer
  | .lockingAlert _ answer => some answer
  | .checkingAlert _ answer => some answer
  | .committingAlert _ answer => some answer
  | .ended answer => some answer
  | _ => none

def Call.refused (call : Call) : Bool := decide (call.answering = some .rateLimited)

/-- The call has decided, and not to refuse. -/
def Call.settled (call : Call) : Bool :=
  call.answering.any fun answer => decide (answer ≠ .rateLimited)

theorem refused_unsettled (refused : call.refused = true) : call.settled = false := by
  rw [Call.settled, of_decide_eq_true refused]
  rfl

theorem undecided_unsettled (undecided : call.answering = none) : call.settled = false := by
  rw [Call.settled, undecided]
  rfl

/-- Alerts apart, nothing differs. -/
structure Unchanged (tables later : Tables) : Prop where
  users : later.users = tables.users
  roles : later.roles = tables.roles
  sessions : later.sessions = tables.sessions
  audits : later.audits = tables.audits
  outbox : later.outbox = tables.outbox

theorem Unchanged.refl (tables : Tables) : Unchanged tables tables := ⟨rfl, rfl, rfl, rfl, rfl⟩

/-- A step of a call: what it writes beyond alerts, only a call that is not refused writes. -/
def Moves (state : State) (index : Nat) (call : Call) (after : State) : Prop :=
  ∃ moved tables, after = { state with tables, calls := state.calls.set index moved } ∧
    (call.settled = true → moved.settled = true) ∧
    (Unchanged state.tables tables ∨ call.settled = true)

theorem quiet_moves (keeps : call.settled = true → moved.settled = true) :
    Moves state index call { state with calls := state.calls.set index moved } :=
  ⟨moved, state.tables, rfl, keeps, .inl (.refl _)⟩

theorem commit_moves {outcome : Outcome} {own : Writes} (sound : Sound settings state)
    (found : state.calls[index]? = some call) (committing : call.stage = .committing outcome own)
    (keeps : call.settled = true → moved.settled = true) :
    Moves state index call
      { state with
        tables := applyWrites state.tables call.now own
        calls := state.calls.set index moved } := by
  refine ⟨moved, applyWrites state.tables call.now own, rfl, keeps, ?_⟩
  have said := sound.asserts index call found
  simp only [Asserts, committing] at said
  cases outcome with
  | limited count =>
      cases said
      rw [applyWrites_none]
      exact .inl (.refl _)
  | idempotent => exact .inr (by simp [Call.settled, Call.answering, committing])
  | suspended count => exact .inr (by simp [Call.settled, Call.answering, committing])

theorem alert_moves {alerts : List Alert} (keeps : call.settled = true → moved.settled = true) :
    Moves state index call
      { state with
        tables := { state.tables with alerts }
        calls := state.calls.set index moved } :=
  ⟨moved, { state.tables with alerts }, rfl, keeps, .inl ⟨rfl, rfl, rfl, rfl, rfl⟩⟩

theorem early_moves (undecided : call.answering = none) :
    Moves state index call { state with calls := state.calls.set index moved } := by
  refine quiet_moves fun settled => ?_
  rw [undecided_unsettled undecided] at settled
  cases settled

theorem next_moves {next : Stage} (undecided : call.answering = none)
    (moves : (match next with
      | .ended answer => some (release state index call (.ended answer))
      | stage => some (put state index call stage)) = some after) :
    Moves state index call after := by
  split at moves
  · cases moves
    exact early_moves undecided
  · cases moves
    exact early_moves undecided

theorem afterCommit_settled {outcome : Outcome} {own : Writes} {locks : List Lock}
    (committing : call.stage = .committing outcome own) (settled : call.settled = true) :
    ({ call with stage := afterCommit settings outcome, locks } : Call).settled = true := by
  cases outcome with
  | limited count => simp [Call.settled, Call.answering, committing] at settled
  | idempotent => rfl
  | suspended count =>
      simp only [afterCommit]
      split
      · rfl
      · rfl

theorem proceed_moves {appClock : Micros} (sound : Sound settings state)
    (found : state.calls[index]? = some call)
    (moves : proceed settings state index appClock call = some after) :
    Moves state index call after := by
  have undecided : ∀ stage, call.stage = stage →
      ({ call with stage } : Call).answering = call.answering := by
    intro stage at_
    rw [← at_]
  unfold proceed at moves
  split at moves
  all_goals rename_i at_
  all_goals specialize undecided _ at_
  case h_3 => exact next_moves undecided.symm moves
  case h_4 =>
    dsimp only at moves
    split at moves
    · exact next_moves undecided.symm moves
    · cases moves
      exact early_moves undecided.symm
  case h_5 =>
    dsimp only at moves
    split at moves
    all_goals
      cases moves
      exact early_moves undecided.symm
  case h_13 =>
    cases moves
    exact commit_moves sound found at_ (afterCommit_settled at_)
  -- The answer stays.
  case h_14 =>
    cases moves
    exact quiet_moves fun settled => by rwa [Call.settled, ← undecided] at settled
  case h_15 =>
    dsimp only at moves
    split at moves
    · cases moves
    · cases moves
      exact quiet_moves fun settled => by rwa [Call.settled, ← undecided] at settled
  case h_16 =>
    split at moves
    all_goals
      cases moves
      exact quiet_moves fun settled => by rwa [Call.settled, ← undecided] at settled
  case h_17 =>
    cases moves
    exact alert_moves fun settled => by rwa [Call.settled, ← undecided] at settled
  -- The statements before the decision.
  all_goals repeat' split at moves
  all_goals cases moves
  all_goals exact early_moves undecided.symm

theorem breaks_moves {landed : Bool} (sound : Sound settings state)
    (found : state.calls[index]? = some call)
    (broke : breaks state index landed call = some after) : Moves state index call after := by
  have broken : ({ call with stage := .ended .broken, locks := [] } : Call).settled = true := rfl
  unfold breaks at broke
  split at broke
  · cases broke
  · rename_i outcome own at_
    dsimp only at broke
    split at broke
    · cases broke
      exact commit_moves sound found at_ fun _ => broken
    · cases broke
      exact quiet_moves fun _ => broken
  · rename_i alert answer at_
    dsimp only at broke
    split at broke
    · cases broke
      exact alert_moves fun _ => broken
    · cases broke
      exact quiet_moves fun _ => broken
  · cases broke
    exact quiet_moves fun _ => broken

/-- A call that is settled stays so. -/
theorem turn_settled (state : State) (event : Event) (after : State) (sound : Sound settings state)
    (turned : turn settings state event = some after) (found : state.calls[index]? = some call)
    (settled : call.settled = true) :
    ∃ moved, after.calls[index]? = some moved ∧ moved.settled = true := by
  have moves_settled : ∀ (other : Nat) mover, state.calls[other]? = some mover →
      Moves state other mover after →
      ∃ moved, after.calls[index]? = some moved ∧ moved.settled = true := by
    rintro other mover there ⟨moved, tables, rfl, keeps, -⟩
    by_cases same : other = index
    · cases same
      cases found.symm.trans there
      exact ⟨moved, (get_set there).mpr (.inl ⟨rfl, rfl⟩), keeps settled⟩
    · exact ⟨call, (get_set there).mpr (.inr ⟨same, found⟩), settled⟩
  cases event with
  | tick now =>
      cases turned
      exact ⟨call, found, settled⟩
  | suspend asked =>
      cases turned
      refine ⟨call, ?_, settled⟩
      exact (List.getElem?_append_left (List.getElem?_eq_some_iff.mp found).1).trans found
  | run other appClock =>
      obtain ⟨mover, there, moves⟩ := Option.bind_eq_some_iff.mp turned
      exact moves_settled other mover there (proceed_moves sound there moves)
  | breaks other landed =>
      obtain ⟨mover, there, broke⟩ := Option.bind_eq_some_iff.mp turned
      exact moves_settled other mover there (breaks_moves sound there broke)
  | elsewhere change =>
      simp only [turn] at turned
      split at turned
      · cases turned
        exact ⟨call, found, settled⟩
      · cases turned

structure SettledAt (settings : Settings) (index : Nat) (state : State) : Prop where
  sound : Sound settings state
  settled : ∃ call, state.calls[index]? = some call ∧ call.settled = true

theorem run_settled {last : State} (run : Run (turn settings) state last)
    (settled : SettledAt settings index state) : SettledAt settings index last := by
  refine run_keeps ?_ settled run
  rintro state event after ⟨sound, call, found, settled⟩ turned
  exact ⟨turn_sound state event after sound turned,
    turn_settled state event after sound turned found settled⟩

/-- The events of a call. -/
def Event.concerns (index : Nat) : Event → Bool
  | .run other _ => decide (other = index)
  | .breaks other _ => decide (other = index)
  | _ => false

def RefusedAt (state : State) (index : Nat) : Prop :=
  ∃ call, state.calls[index]? = some call ∧ call.refused = true

theorem settled_unrefused (settled : SettledAt settings index state) : ¬RefusedAt state index := by
  rintro ⟨call, found, refused⟩
  obtain ⟨other, there, settled⟩ := settled.settled
  cases found.symm.trans there
  rw [refused_unsettled refused] at settled
  cases settled

/-- Whatever a call does that is refused for the limit, before or after the decision, it writes
alerts at most. -/
theorem refused_unchanged {event : Event} {last : State} (sound : Sound settings state)
    (concerns : event.concerns index = true) (turned : turn settings state event = some after)
    (run : Run (turn settings) after last)
    (refused : RefusedAt state index ∨ RefusedAt last index) :
    Unchanged state.tables after.tables := by
  have moved : ∃ mover, state.calls[index]? = some mover ∧ Moves state index mover after := by
    cases event with
    | run other appClock =>
        cases of_decide_eq_true concerns
        obtain ⟨mover, there, moves⟩ := Option.bind_eq_some_iff.mp turned
        exact ⟨mover, there, proceed_moves sound there moves⟩
    | breaks other landed =>
        cases of_decide_eq_true concerns
        obtain ⟨mover, there, broke⟩ := Option.bind_eq_some_iff.mp turned
        exact ⟨mover, there, breaks_moves sound there broke⟩
    | tick now => cases concerns
    | suspend asked => cases concerns
    | elsewhere change => cases concerns
  obtain ⟨mover, there, _, tables, same, -, unchanged | settled⟩ := moved
  · rw [same]
    exact unchanged
  · have before : SettledAt settings index state := ⟨sound, mover, there, settled⟩
    have reached := run_append (.next event .refl turned) run
    rcases refused with early | late
    · exact (settled_unrefused before early).elim
    · exact (settled_unrefused (run_settled reached before) late).elim

/-- However suspensions interleave with each other and with other transactions, one administrator
has at most so many SUSPEND records in any window of an hour, and no step of a suspension that is
refused for the limit changes an account, a session, an audit record or the outbox. -/
theorem suspensions_limited (clock : Micros) (users : AList fun _ : UserId => User)
    (roles : List (UserId × Role)) (sessions : AList fun _ : SessionId => Administration.Session)
    (run : Run (turn settings) (begun clock users roles sessions) state) :
    (∀ actorId start, (actedAt state.tables.audits actorId .suspend).countP (inWindow hour start) ≤
      settings.suspensionsLimitPerHour) ∧
    ∀ index event after last, event.concerns index = true →
      turn settings state event = some after → Run (turn settings) after last →
      RefusedAt state index ∨ RefusedAt last index → Unchanged state.tables after.tables := by
  have sound : Sound settings state :=
    run_keeps turn_sound (begun_sound clock users roles sessions) run
  refine ⟨sound.within.suspensions, ?_⟩
  intro index event after last concerns turned run refused
  exact refused_unchanged sound concerns turned run refused

def oneAnHour : Settings :=
  { stepUpWindowSeconds := 300, suspensionsAlertPerHour := 1, suspensionsLimitPerHour := 1 }

def ada : User := { status := .active, isSeededAdmin := true }

def threeUsers : AList fun _ : UserId => User :=
  ((AList.singleton "ada" ada).insert "bea" { ada with isSeededAdmin := false }).insert "cyd"
    { ada with isSeededAdmin := false }

def suspending (targetId auditId : String) : Event :=
  .suspend
    { actorId := "ada"
      sessionId := "session"
      targetId
      reason := "spam"
      correlationId := "request"
      auditId
      eventId := auditId }

/-- Two suspensions that begin together, up to where the second one counts. -/
def twoTogether : List Event :=
  [suspending "bea" "first", suspending "cyd" "second", .run 0 0, .run 1 0] ++
    List.replicate 10 (.run 0 0) ++ List.replicate 3 (.run 1 0)

theorem second_limited : ∃ state after,
    Run (turn oneAnHour) (begun 0 threeUsers [("ada", .admin)] ∅) state ∧
      turn oneAnHour state (.run 1 0) = some after ∧ RefusedAt after 1 ∧
      actedAt state.tables.audits "ada" .suspend = [0] ∧
      (actedAt state.tables.audits "ada" .suspend).countP (inWindow hour 0) ≤ 1 ∧
      Unchanged state.tables after.tables := by
  have reached : ((turns (turn oneAnHour) (begun 0 threeUsers [("ada", .admin)] ∅)
      twoTogether).any fun state =>
        decide (actedAt state.tables.audits "ada" .suspend = [0]) &&
          (turn oneAnHour state (.run 1 0)).any fun after =>
            after.calls[1]?.any Call.refused) = true := by decide +kernel
  obtain ⟨state, found, holds⟩ := (Option.any_eq_true _ _).mp reached
  obtain ⟨acted, holds⟩ := Bool.and_eq_true_iff.mp holds
  obtain ⟨after, turned, holds⟩ := (Option.any_eq_true _ _).mp holds
  obtain ⟨call, there, refused⟩ := (Option.any_eq_true _ _).mp holds
  have run := run_turns .refl twoTogether found
  have limited := suspensions_limited 0 threeUsers [("ada", .admin)] ∅ run
  exact ⟨state, after, run, turned, ⟨call, there, refused⟩, of_decide_eq_true acted,
    limited.1 "ada" 0, limited.2 1 (.run 1 0) after after rfl turned .refl
      (.inr ⟨call, there, refused⟩)⟩

/-- An alert that is raised once an hour is alone of its kind for its administrator in any window
of an hour: whoever raises it holds the lock of the kind and the administrator from before it
looks until it commits. -/
theorem hourly_alerts_limited (clock : Micros) (users : AList fun _ : UserId => User)
    (roles : List (UserId × Role)) (sessions : AList fun _ : SessionId => Administration.Session)
    (run : Run (turn settings) (begun clock users roles sessions) state) (kind : AlertKind)
    (hourly : kind.hourly = true) (actorId : UserId) (start : Micros) :
    (raisedAt state.tables.alerts kind actorId).countP (inWindow hour start) ≤ 1 :=
  (run_keeps turn_sound (begun_sound clock users roles sessions) run).within.alerts kind actorId
    hourly start

theorem bulk_alerted : ∃ state,
    Run (turn oneAnHour) (begun 0 threeUsers [("ada", .admin)] ∅) state ∧
      raisedAt state.tables.alerts .bulkSuspensions "ada" = [0] ∧
      (raisedAt state.tables.alerts .bulkSuspensions "ada").countP (inWindow hour 0) ≤ 1 := by
  have reached : ((turns (turn oneAnHour) (begun 0 threeUsers [("ada", .admin)] ∅)
      (twoTogether ++ List.replicate 4 (.run 0 0))).any fun state =>
        decide (raisedAt state.tables.alerts .bulkSuspensions "ada" = [0])) = true := by
    decide +kernel
  obtain ⟨state, found, raised⟩ := (Option.any_eq_true _ _).mp reached
  have run := run_turns .refl _ found
  exact ⟨state, run, of_decide_eq_true raised,
    hourly_alerts_limited 0 threeUsers [("ada", .admin)] ∅ run .bulkSuspensions rfl "ada" 0⟩

end Foc.User.Suspensions

