import Foc.Order.Chain

/-!
Who decides a dispute. Whoever took part in an errand is settled once it is
disputed, so a referral chosen from history before the lock is still a stranger's
when it is made, and a decision is the referred administrator's own.
-/
namespace Foc.Order
open Library Library.ReadCommitted Library.Transaction Library.Serial

/-! ## Referrals -/

/-- An administrator chosen for an errand took no part in it, nor ever will. -/
def ChosenApart (view : View Row) (env : Env) : Prop :=
  ∀ id admin, env.chose id admin = true →
    (∃ row, view (.order id) = some row ∧ partiesFixed row.status = true) ∧
      ¬ TookPart view id admin.id

def ReferredApart (view : View Row) : Prop :=
  ∀ id row admin, view (.order id) = some row → row.referredAdminId = some admin →
    partiesFixed row.status = true ∧ ¬ TookPart view id admin

section Referrals

variable {settings : Settings} {call : Call} {view : View Row} {env : Env} {act : Act}
  {acts : List Act}

theorem chosen_later {before after : View Row} (later : ViewLater before after)
    (chosen : ChosenApart before env) : ChosenApart after env := by
  intro id admin picked
  obtain ⟨⟨row, found, fixed⟩, apart⟩ := chosen id admin picked
  obtain ⟨next, present, order⟩ := later.orders id row found
  exact ⟨⟨next, present, (order.fixed fixed).1⟩, fun took =>
    apart (took_part_fixed later found fixed took)⟩

/-- Only an assignment brings a referral. -/
theorem referral_issued {command : TransitionCommand} {admin : UserId}
    (issues : Issues settings call.task (.transition command))
    (brings : Assign.referredAdminId (some admin) ∈ command.patch) :
    ∃ orderId now account correlationId, call.task = .assign orderId now account correlationId ∧
      command.orderId.id = orderId ∧ account.id = admin := by
  generalize call.task = task at issues ⊢
  cases issues with
  | assign orderId now account correlationId =>
      simp only [assignCommand, List.mem_singleton, Assign.referredAdminId.injEq,
        Option.some.injEq] at brings
      exact ⟨orderId, now, account, correlationId, rfl, rfl, brings.symm⟩
  | unassign => simp [unassignCommand] at brings
  | timer timer => cases timer <;> simp [timerCommand, expireCommand, pickupTimeoutCommand,
      autoConfirmCommand, undeliveredCommand, fire, systemCommand] at brings
  | resolve => simp [resolveCommand, participantCommand] at brings
  | act => simp [participantCommand] at brings
  | reserved => simp [reservedCommand, creditCommand] at brings
  | rejected => simp [rejectedCommand] at brings
  | released => simp [releaseCommand] at brings
  | transferred => simp [transferCommand] at brings
  | suspended => simp [suspensionCommand, systemCommand] at brings

theorem act_referred (does : Does settings call act) (fits : Fits view act.moves)
    (prepared : prepared env call.task = true) (chosen : ChosenApart view env)
    (referred : ReferredApart view) : ReferredApart (wrote view act.moves) := by
  have later := act_later does fits
  intro id row admin found names
  -- A referral that was there before names the same stranger.
  have kept : ∀ before, view (.order id) = some before →
      before.referredAdminId = row.referredAdminId → partiesFixed row.status = true ∧
        ¬ TookPart (wrote view act.moves) id admin := by
    intro before present same
    obtain ⟨fixed, apart⟩ := referred id before admin present (same.trans names)
    obtain ⟨next, reached, order⟩ := later.orders id before present
    cases found.symm.trans reached
    exact ⟨(order.fixed fixed).1, fun took => apart (took_part_fixed later present fixed took)⟩
  have written := found
  rw [act_order does fits] at written
  cases leaves : act.order id with
  | none =>
      rw [leaves] at written
      exact kept row written rfl
  | some next =>
      rw [leaves] at written
      cases written
      cases act with
      | change cause before applied sent entered =>
          simp only [Act.order] at leaves
          split at leaves
          · rename_i same
            subst same
            cases leaves
            obtain ⟨stepped, _, issued, _⟩ := does_stepped does
            rcases stepped.referral with same | brings
            · exact kept before fits.1 same.symm
            · cases cause with
              | transition command =>
                  rw [names] at brings
                  obtain ⟨_, now, account, correlationId, task, rfl, rfl⟩ :=
                    referral_issued issued brings
                  rw [task, Order.prepared, Bool.and_eq_true] at prepared
                  obtain ⟨⟨row, present, fixed⟩, apart⟩ := chosen _ account prepared.2
                  obtain ⟨next, reached, order⟩ :=
                    later.orders (Cause.transition command).orderId.id row present
                  cases found.symm.trans reached
                  exact ⟨(order.fixed fixed).1, fun took =>
                    apart (took_part_fixed later present fixed took)⟩
              | acceptance => cases brings
          · cases leaves
      | create input key requestHash orderId now sent =>
          simp only [Act.order] at leaves
          split at leaves
          · cases leaves
            cases names
          · cases leaves
      | note errand before mark =>
          simp only [Act.order] at leaves
          split at leaves
          · rename_i same
            subst same
            cases leaves
            exact kept before fits.1 rfl
          · cases leaves
      | _ => cases leaves

theorem chose_log {outcome : Call × Except Failure Result} {id : Uuid} {admin : Account}
    (picked : { env with log := outcome :: env.log }.chose id admin = true) :
    env.chose id admin = true ∨ ∃ began admins account,
      outcome = (⟨began, .consider id admins⟩, .ok (.chosen (some account))) ∧
        account.id = admin.id := by
  simp only [Env.chose, List.any_cons, Bool.or_eq_true] at picked ⊢
  rcases picked with here | old
  · split at here
    · rename_i began considered admins account
      simp only [Bool.and_eq_true, decide_eq_true_eq] at here
      obtain ⟨rfl, same⟩ := here
      exact .inr ⟨began, admins, account, rfl, same⟩
    · cases here
  · exact .inl old

theorem turn_referred {kept : Key → Prop} {before after : View Row × Env}
    (standing : Standing before.1 before.2) (turn : OrderTurn settings kept before after)
    (apart : ChosenApart before.1 before.2 ∧ ReferredApart before.1) :
    ChosenApart after.1 after.2 ∧ ReferredApart after.1 := by
  obtain ⟨chosen, referred⟩ := apart
  cases turn with
  | commit call result moves view env fits ended apart =>
      obtain ⟨acts, rfl, concluded⟩ := ended
      have later := acts_later concluded.does fits
      have both := acts_keep (fun view => ChosenApart view env ∧ ReferredApart view) fits
        (fun act member middle fits ⟨chosen, referred⟩ =>
          ⟨chosen_later (act_later (concluded.does act member) fits) chosen,
            act_referred (concluded.does act member) fits concluded.prepared chosen referred⟩)
        ⟨chosen, referred⟩
      refine ⟨?_, both.2⟩
      intro id admin picked
      rcases chose_log picked with old | ⟨began, admins, account, same, named⟩
      · exact both.1 id admin old
      · cases same
        have listed : env.listed id (fun _ => true) = true := concluded.prepared
        obtain ⟨row, found, fixed⟩ := standing.listed id listed
        obtain ⟨next, present, order⟩ := later.orders id row found
        refine ⟨⟨next, present, (order.fixed fixed).1⟩, ?_⟩
        rw [← named]
        intro took
        exact concluded.chosen id admins account rfl rfl (took_part_fixed later found fixed took)
  | refuse call error view env ended =>
      refine ⟨?_, referred⟩
      intro id admin picked
      rcases chose_log picked with old | ⟨_, _, _, same, _⟩
      · exact chosen id admin old
      · cases same
  | answer call ask value view env after asked responded =>
      refine ⟨?_, referred⟩
      intro id admin picked
      apply chosen id admin
      rwa [Env.chose, respond_log responded] at picked
  | stimulus value view env after accepted =>
      refine ⟨?_, referred⟩
      intro id admin picked
      apply chosen id admin
      rwa [Env.chose, (stimulus_same accepted).1] at picked

theorem reached_referred {state : View Row × Env}
    (reached : Serial.Reached (orderService settings) (orderContract settings) state) :
    ChosenApart state.1 state.2 ∧ ReferredApart state.1 := by
  apply reached_keeps ?_ ?_ reached
  · rintro view env ⟨empty, log, _⟩
    refine ⟨?_, ?_⟩
    · intro id admin picked
      simp [Env.chose, log] at picked
    · intro id row admin found
      simp [empty] at found
  · intro before after earlier turn apart
    exact turn_referred (reached_standing earlier) turn apart

end Referrals

/-! ## Decisions -/

def isResolve (action : HistoryAction) : Prop :=
  action = .action .resolveForCourier ∨ action = .action .resolveForRequester

/-- A decision that applies, on the rows it applies to: it names the version it
replaces, and its caller is the administrator that version is referred to. -/
structure Decision (view : View Row) (id : Uuid) (caller : AuthContext) (expectedVersion : Int)
    (entry : HistoryEntry) : Prop where
  referred : ∃ row, view (.order id) = some row ∧ row.status = .disputed ∧
    row.version = expectedVersion ∧ row.referredAdminId = some caller.userId
  actor : entry.actorId = some caller.userId
  administrator : caller.isAdmin = true

section Decisions

variable {settings : Settings} {call : Call} {view : View Row} {act : Act} {acts : List Act}

theorem resolve_issued {task : Task} {cause : Cause} (issues : Issues settings task cause)
    (resolves : isResolve (.action cause.action)) :
    ∃ caller key orderId outcome reason expectedVersion correlationId,
      task = .command caller key (.resolve orderId outcome reason expectedVersion) correlationId ∧
        cause = .transition
          (resolveCommand orderId outcome reason expectedVersion caller correlationId) := by
  cases issues with
  | resolve caller key orderId outcome reason expectedVersion correlationId =>
      exact ⟨caller, key, orderId, outcome, reason, expectedVersion, correlationId, rfl, rfl⟩
  | act caller key orderId action =>
      obtain ⟨action, routed⟩ := action
      have apart : ∀ action ∈ participantActions,
          action ≠ .resolveForCourier ∧ action ≠ .resolveForRequester := by decide
      rcases resolves with same | same
      · exact absurd (HistoryAction.action.inj same) (apart action routed).1
      · exact absurd (HistoryAction.action.inj same) (apart action routed).2
  | suspended envelope userId orderId part status action tried =>
      rcases suspension_action_cases tried with rfl | rfl | rfl <;> rcases resolves with same | same <;>
        cases same
  | timer timer => cases timer <;> rcases resolves with same | same <;> cases same
  | _ => rcases resolves with same | same <;> cases same

theorem resolve_only {caller : AuthContext} {key : Option String} {orderId : WrittenId}
    {outcome : Outcome} {reason : String} {expectedVersion : Int} {correlationId : String}
    {cause : Cause}
    (issues : Issues settings
      (.command caller key (.resolve orderId outcome reason expectedVersion) correlationId) cause) :
    cause = .transition
      (resolveCommand orderId outcome reason expectedVersion caller correlationId) := by
  cases issues
  rfl

theorem resolving_rules : ∀ rule ∈ orderTransitions,
    rule.action = .resolveForCourier ∨ rule.action = .resolveForRequester →
      rule.status = .disputed ∧ rule.actors = [.admin] := by decide

/-- A decision is applied to the version it names, and by its referred administrator. -/
theorem resolve_applied {periods : Periods} {orderId : WrittenId} {outcome : Outcome}
    {reason : String} {expectedVersion : Int} {caller : AuthContext} {correlationId : String}
    {tx : Micros} {row : StoredOrder} {change : Applied}
    (applied : transitionUsing periods
      (resolveCommand orderId outcome reason expectedVersion caller correlationId) tx row =
        .ok (.applied change)) :
    row.status = .disputed ∧ row.version = expectedVersion ∧
      row.referredAdminId = some caller.userId ∧ caller.isAdmin = true := by
  obtain ⟨decision, decided, version, verified, _⟩ := transition_ok applied
  obtain ⟨rule, member, status, action, actors, _⟩ := decide_rule decided
  have resolves : rule.action = .resolveForCourier ∨ rule.action = .resolveForRequester := by
    rw [action]
    cases outcome with
    | courier => exact .inl rfl
    | requester => exact .inr rfl
  obtain ⟨disputed, admins⟩ := resolving_rules rule member resolves
  refine ⟨status.symm.trans disputed, (version _ rfl).symm, ?_, ?_⟩
  · simp only [resolveCommand, accepts] at verified
    split at verified
    · rename_i referred
      exact of_decide_eq_true referred
    · cases verified
  · rw [admins, List.mem_singleton] at actors
    simp only [resolveActor, resolveCommand, participantCommand, AuthContext.actor] at actors
    split at actors
    · cases actors
    · split at actors
      · cases actors
      · split at actors
        · assumption
        · cases actors

theorem history_act {id : Uuid} {version : Int} {entry : HistoryEntry}
    (does : Does settings call act) (writes : act.history id version = some entry)
    (resolves : isResolve entry.action) :
    ∃ cause before applied sent entered, act = .change cause before applied sent entered ∧
      cause.orderId.id = id ∧ applied.next.version = version ∧ applied.history = entry ∧
        isResolve (.action cause.action) := by
  cases act with
  | change cause before applied sent entered =>
      simp only [Act.history] at writes
      split at writes
      · rename_i same
        cases writes
        refine ⟨cause, before, applied, sent, entered, rfl, same.1, same.2, rfl, ?_⟩
        rwa [(does_stepped does).1.action] at resolves
      · cases writes
  | create input key requestHash orderId now sent =>
      simp only [Act.history] at writes
      split at writes
      · cases writes
        rcases resolves with same | same <;> cases same
      · cases writes
  | _ => cases writes

/-- While a decision's call has changed nothing its errand is as it found it, and
afterwards it is at a later version than the decision names. -/
def Undecided (view : View Row) (id : Uuid) (expectedVersion : Int) (now : View Row) : Prop :=
  (∀ row, now (.order id) = some row → ∃ found, view (.order id) = some found ∧
      row.version = found.version ∧ row.status = found.status ∧
      row.referredAdminId = found.referredAdminId) ∨
    ∃ row, now (.order id) = some row ∧ expectedVersion < row.version

section One

variable {caller : AuthContext} {key : Option String} {orderId : WrittenId} {outcome : Outcome}
  {reason : String} {expectedVersion : Int} {correlationId : String} {first : View Row}

theorem act_undecided (does : Does settings call act) (fits : Fits view act.moves)
    (task : call.task =
      .command caller key (.resolve orderId outcome reason expectedVersion) correlationId)
    (undecided : Undecided first orderId.id expectedVersion view) :
    Undecided first orderId.id expectedVersion (wrote view act.moves) := by
  cases leaves : act.order orderId.id with
  | none =>
      have same : wrote view act.moves (.order orderId.id) = view (.order orderId.id) := by
        rw [act_order does fits, leaves, Option.none_or]
      simp only [Undecided, same]
      exact undecided
  | some next =>
      have here : wrote view act.moves (.order orderId.id) = some next := by
        rw [act_order does fits, leaves]
        rfl
      cases act with
      | change cause before applied sent entered =>
          simp only [Act.order] at leaves
          split at leaves
          · cases leaves
            obtain ⟨stepped, _, issued, applies, _⟩ := does_stepped does
            rw [task] at issued
            rw [resolve_only issued] at applies
            have version := (resolve_applied applies).2.1
            refine .inr ⟨_, here, ?_⟩
            rw [stepped.version, version]
            omega
          · cases leaves
      | create input key requestHash errand now sent =>
          cases does with
          | create caller key request supplierSnapshot correlationId orderId now change sent made =>
              rw [task] at made
              cases made
      | note errand before mark =>
          simp only [Act.order] at leaves
          split at leaves
          · rename_i same
            subst same
            cases leaves
            rcases undecided with same | ⟨row, found, later⟩
            · refine .inl fun row found => ?_
              cases here.symm.trans found
              exact same before fits.1
            · have before' : view (.order orderId.id) = some before := fits.1
              cases found.symm.trans before'
              exact .inr ⟨_, here, later⟩
          · cases leaves
      | _ => cases leaves

/-- A decision finds the row its call found. -/
theorem change_decides {cause : Cause} {before : StoredOrder} {applied : Applied}
    {sent : List (Uuid × OutboxEvent)} {entered : Option (UserId × String × KeyRow)}
    (does : Does settings call (.change cause before applied sent entered))
    (found : view (.order cause.orderId.id) = some before)
    (task : call.task =
      .command caller key (.resolve orderId outcome reason expectedVersion) correlationId)
    (undecided : Undecided first orderId.id expectedVersion view) :
    cause.orderId.id = orderId.id ∧ applied.next.version = expectedVersion + 1 ∧
      Decision first orderId.id caller expectedVersion applied.history := by
  obtain ⟨stepped, _, issued, applies, _⟩ := does_stepped does
  rw [task] at issued
  have same := resolve_only issued
  subst same
  obtain ⟨status, version, referred, administrator⟩ := resolve_applied applies
  refine ⟨rfl, by rw [stepped.version, version], ?_, ?_, administrator⟩
  · rcases undecided with kept | ⟨row, present, later⟩
    · obtain ⟨row, present, versions, statuses, referrals⟩ := kept before found
      exact ⟨row, present, statuses.symm.trans status, versions.symm.trans version,
        referrals.symm.trans referred⟩
    · cases present.symm.trans found
      omega
  · exact stepped.actor

end One

/-- What a call decides, it decides as the decision it is. -/
theorem acts_decide (does : ∀ act ∈ acts, Does settings call act) (fits : Fits view (flat acts))
    {id : Uuid} {version : Int} {entry : HistoryEntry}
    (noted : wrote view (flat acts) (.history id version) = some entry)
    (new : view (.history id version) = none) (resolves : isResolve entry.action) :
    ∃ caller key orderId outcome reason expectedVersion correlationId,
      call.task = .command caller key (.resolve orderId outcome reason expectedVersion)
        correlationId ∧ orderId.id = id ∧ version = expectedVersion + 1 ∧
        Decision view id caller expectedVersion entry := by
  by_cases task : ∃ caller key orderId outcome reason expectedVersion correlationId,
      call.task = .command caller key (.resolve orderId outcome reason expectedVersion)
        correlationId
  · obtain ⟨caller, key, orderId, outcome, reason, expectedVersion, correlationId, task⟩ := task
    have kept := acts_keep (fun later => Undecided view orderId.id expectedVersion later ∧
        ∀ id version entry, later (.history id version) = some entry → isResolve entry.action →
          view (.history id version) = some entry ∨
            (orderId.id = id ∧ version = expectedVersion + 1 ∧
              Decision view id caller expectedVersion entry)) fits
      (by
        intro act member middle fits ⟨undecided, before⟩
        refine ⟨act_undecided (does act member) fits task undecided, ?_⟩
        intro id version entry noted resolves
        rw [act_history (does act member) fits] at noted
        cases writes : act.history id version with
        | none =>
            rw [writes] at noted
            exact before id version entry noted resolves
        | some other =>
            rw [writes] at noted
            cases noted
            obtain ⟨cause, row, applied, sent, entered, rfl, rfl, rfl, rfl, _⟩ :=
              history_act (does act member) writes resolves
            obtain ⟨same, next, decision⟩ := change_decides (does _ member) fits.1 task undecided
            exact .inr ⟨same.symm, next, same ▸ decision⟩)
      ⟨.inl fun row found => ⟨row, found, rfl, rfl, rfl⟩, fun _ _ _ noted _ => .inl noted⟩
    rcases kept.2 id version entry noted resolves with old | ⟨same, next, decision⟩
    · cases old.symm.trans new
    · exact ⟨caller, key, orderId, outcome, reason, expectedVersion, correlationId, task, same, next,
        decision⟩
  · -- Nothing else decides.
    have kept := acts_keep (fun later => ∀ id version entry,
        later (.history id version) = some entry → isResolve entry.action →
          view (.history id version) = some entry) fits
      (by
        intro act member middle fits before id version entry noted resolves
        rw [act_history (does act member) fits] at noted
        cases writes : act.history id version with
        | none =>
            rw [writes] at noted
            exact before id version entry noted resolves
        | some other =>
            rw [writes] at noted
            cases noted
            obtain ⟨cause, row, applied, sent, entered, rfl, _, _, _, resolving⟩ :=
              history_act (does act member) writes resolves
            obtain ⟨caller, key, orderId, outcome, reason, expectedVersion, correlationId, issued, _⟩ :=
              resolve_issued (does_stepped (does _ member)).2.2.1 resolving
            exact absurd ⟨caller, key, orderId, outcome, reason, expectedVersion, correlationId, issued⟩
              task)
      (fun _ _ _ noted _ => noted)
    cases (kept id version entry noted resolves).symm.trans new

end Decisions

/-! ## Whole runs -/

section Runs

variable {settings : Settings} {clock : Micros} {suspended : List UserId} {world after : OrderWorld}
  {event : OrderEvent}

/-- A decision that has been applied: by which call, and what it replaced. -/
structure DecidedBy (world : OrderWorld) (event : OrderEvent) (id : Uuid) (version : Int)
    (entry : HistoryEntry) (caller : AuthContext) (expectedVersion : Int) : Prop where
  sent : ∃ session tx key orderId outcome reason correlationId, event = .commit session ∧
    world.active.lookup session = some tx ∧
    tx.pc.call.task = .command caller key (.resolve orderId outcome reason expectedVersion)
      correlationId ∧ orderId.id = id
  replaces : version = expectedVersion + 1
  decision : Decision world.committed.lookup id caller expectedVersion entry
  current : ∀ later entry, world.committed.lookup (.history id later) = some entry →
    later ≤ expectedVersion
  apart : ¬ TookPart world.committed.lookup id caller.userId

theorem step_decides
    (run : Run (orderService settings).machine (fun _ _ => True)
      (idle ∅ (Env.initial clock suspended)) world)
    (stepped : step (orderService settings).machine world event = some after) {id : Uuid}
    {version : Int} {entry : HistoryEntry}
    (noted : after.committed.lookup (.history id version) = some entry)
    (new : world.committed.lookup (.history id version) = none) (resolves : isResolve entry.action) :
    ∃ caller expectedVersion, DecidedBy world event id version entry caller expectedVersion := by
  cases step_moves stepped with
  | commit session tx found asked =>
      obtain ⟨result, current⟩ := commit_current asked
      obtain ⟨moves, own, fits, acts, rfl, concluded⟩ := serial_commit (order_sound settings)
        (show fresh _ _ from ⟨fun _ => rfl, rfl, rfl, rfl⟩) run found current
      rw [own, seen_at] at noted
      obtain ⟨caller, key, orderId, outcome, reason, expectedVersion, correlationId, task, same,
        replaces, decision⟩ := acts_decide concluded.does fits noted new resolves
      have reached := order_reached run
      obtain ⟨row, present, status, found_, referred⟩ := decision.referred
      refine ⟨caller, expectedVersion, ⟨session, tx, key, orderId, outcome, reason, correlationId, rfl,
        found, task, same⟩, replaces, decision, ?_, ?_⟩
      · intro later entry noted
        obtain ⟨other, there, _, below⟩ := ((reached_chain reached id).gapless later).mp ⟨entry, noted⟩
        cases present.symm.trans there
        omega
      · exact ((reached_referred reached).2 id row _ present referred).2
  | _ => cases new.symm.trans noted

/-- In every run, a referral names nobody who is or was the errand's requester or
courier; and a decision is applied only for the administrator its dispute is
referred to at the version it replaces, which no other step has followed, and who
took no part in the errand. -/
theorem disputes_unbiased (settings : Settings) (clock : Micros) (suspended : List UserId)
    (world : OrderWorld)
    (run : Run (orderService settings).machine (fun _ _ => True)
      (idle ∅ (Env.initial clock suspended)) world) :
    (∀ id row admin, world.committed.lookup (.order id) = some row →
      row.referredAdminId = some admin → ¬ TookPart world.committed.lookup id admin) ∧
    ∀ event after, step (orderService settings).machine world event = some after →
      ∀ id version entry, after.committed.lookup (.history id version) = some entry →
        world.committed.lookup (.history id version) = none → isResolve entry.action →
        ∃ caller expectedVersion,
          DecidedBy world event id version entry caller expectedVersion := by
  constructor
  · intro id row admin found names
    exact ((reached_referred (order_reached run)).2 id row admin found names).2
  · intro event after stepped id version entry noted new resolves
    exact step_decides run stepped noted new resolves

/-- A courier accepts the errand and picks it up. -/
def carrying : List OrderEvent :=
  [.begin 3 (calling 0 (.command courierOne none (.accept (written 1) 2) "c"))] ++
    locking 3 (.order 1) ++ [.run 3 none] ++ sending 3 5 ++ [.commit 3] ++
  [.begin 4 (calling 0 (.command courierOne none
    (.act (written 1) ⟨.recordPickup, List.Mem.head _⟩ 3) "c"))] ++ moving 4 (.order 1) 6 ++ [.commit 4]

/-- The courier is suspended, which disputes it. -/
def disputed (began : Micros) : List OrderEvent :=
  [ .stimulus (.suspend "u2"), .begin 5 (calling began (.suspended envelopeOne "u2")), .run 5 none,
    .answer 5 ⟨.isSuspended "u2", Suspension.mk true 0⟩ ] ++ locking 5 (.order 1) ++ moving 5 (.order 1) 7 ++
  [.commit 5]

/-- A sweep reads its clock. -/
def sweeping : List OrderEvent := [.begin 6 (calling 0 .databaseNow), .commit 6]

/-- It finds the dispute and refers it. -/
def referring (began : Micros) : List OrderEvent :=
  [ .begin 7 (calling began (.disputesToRefer [adminOne.user])), .run 7 none, .commit 7,
    .begin 8 (calling began (.consider 1 [adminOne.user])), .run 8 none, .run 8 none, .commit 8,
    .begin 9 (calling began (.assign 1 0 adminOne.user "c")) ] ++ locking 9 (.order 1) ++
    locking 9 (.order 1) ++ [.run 9 none, .commit 9]

/-- The administrator decides it; only the commit is left. -/
def deciding : List OrderEvent :=
  [ .begin 10 (calling 0 (.review adminOne (written 1))), .run 10 none, .run 10 none, .commit 10,
    .begin 11 (calling 0 (.command adminOne none
      (.resolve (written 1) .courier "kept the food" 6) "c")) ] ++ locking 11 (.order 1) ++
    locking 11 (.order 1) ++ [.run 11 none] ++ sending 11 8 ++ sending 11 9

theorem courier_wins : ∃ (world : OrderWorld) (caller : AuthContext) (entry : HistoryEntry),
    Run (orderService plainSettings).machine (fun _ _ => True) (idle ∅ (Env.initial 0 [])) world ∧
    entry.action = .action .resolveForCourier ∧
    DecidedBy world (.commit 11) 1 7 entry caller 6 := by
  have decided : (steps (orderService plainSettings).machine (fun _ _ => True)
      (idle ∅ (Env.initial 0 []))
      (creating ++ opening ++ carrying ++ disputed 0 ++ sweeping ++ referring 0 ++ deciding)).map
        (fun world => (world.committed.lookup (.history 1 7),
          (step (orderService plainSettings).machine world (.commit 11)).map fun after =>
            (after.committed.lookup (.history 1 7)).map HistoryEntry.action)) =
      some (none, some (some (.action .resolveForCourier))) := by decide +kernel
  obtain ⟨world, reached, seen⟩ := Option.map_eq_some_iff.mp decided
  obtain ⟨new, stepped⟩ := Prod.mk.inj seen
  obtain ⟨after, stepped, noted⟩ := Option.map_eq_some_iff.mp stepped
  obtain ⟨entry, noted, action⟩ := Option.map_eq_some_iff.mp noted
  have run := run_steps .refl _ reached
  obtain ⟨caller, expectedVersion, decided⟩ := (disputes_unbiased plainSettings 0 [] world run).2
    (.commit 11) after stepped 1 7 entry noted new (.inl action)
  have version : expectedVersion = 6 := by
    have replaces := decided.replaces
    omega
  exact ⟨world, caller, entry, run, action, version ▸ decided⟩

end Runs

end Foc.Order
