import Foc.Order.Runs

/-!
A suspension and a reservation reply of one requester: whichever locks the errand
second closes it.
-/
namespace Foc.Order
open Library Library.ReadCommitted Library.Transaction Library.Serial

/-- An errand a courier can hold, or come to hold. -/
def live : OrderStatus → Bool
  | .opened | .accepted => true
  | _ => false

/-- Every errand that is open or accepted was opened by a reply that was told its
requester is not suspended, and no suspension of theirs has been carried out. -/
def Unsuspended (view : View Row) (env : Env) : Prop :=
  ∀ id row, view (.order id) = some row → live row.status = true →
    Cleared env id row.requesterId ∧ ¬ SuspensionDone env row.requesterId

/-- Statuses an errand comes to from outside by being opened only. -/
structure OpenedTo (among : OrderStatus → Bool) : Prop where
  rules : ∀ rule ∈ orderTransitions, among rule.decision.target = true →
    among rule.status = true ∨ rule.action = .creditReserved ∧
      ∀ context, rule.guard context = true → context.requesterSuspended = false
  opened : among .opened = true
  pending : among .pendingCredit = false

theorem live_opened : OpenedTo live := by
  refine ⟨?_, rfl, rfl⟩
  simp [orderTransitions, live, statusChanged, release, completion, always]

section Acts

variable {settings : Settings} {call : Call} {view : View Row} {env : Env} {act : Act}
  {acts : List Act} {id : Uuid} {among : OrderStatus → Bool}

/-- An errand comes to be open only by a reply that carries no suspension. -/
theorem does_live (only : OpenedTo among) {cause : Cause} {before : StoredOrder} {applied : Applied}
    {sent : List (Uuid × OutboxEvent)} {entered : Option (UserId × String × KeyRow)}
    (does : Does settings call (.change cause before applied sent entered))
    (next : among applied.next.status = true) :
    among before.status = true ∨
      ∃ envelope orderId, cause = .transition (reservedCommand envelope orderId false) := by
  obtain ⟨_, named, issued, applies, _⟩ := does_stepped does
  cases cause with
  | acceptance orderId caller expectedVersion correlationId =>
      left
      rw [(acceptable_parts applies.1).1]
      exact only.opened
  | transition command =>
      obtain ⟨rule, member, status, action, guarded, target, _⟩ :=
        transition_rule (issues_fitting issued) applies
      rw [← status]
      rw [← target] at next
      apply (only.rules rule member next).imp_right
      rintro ⟨reserves, free⟩
      obtain ⟨envelope, payload, suspended, _, same⟩ :=
        issues_reserved issued (action.symm.trans reserves)
      cases same
      have flag : suspended = false := free _ guarded
      exact ⟨envelope, payload.orderId, by rw [flag]⟩

/-- The act that opens an errand. -/
def Opens (acts : List Act) (id : Uuid) (requesterId : UserId) : Prop :=
  ∃ envelope orderId before applied sent entered, orderId.id = id ∧ before.requesterId = requesterId ∧
    .change (.transition (reservedCommand envelope orderId false)) before applied sent entered ∈ acts

theorem act_live (only : OpenedTo among) (does : Does settings call act)
    (fits : Fits view act.moves) {row : StoredOrder}
    (found : wrote view act.moves (.order id) = some row) (living : among row.status = true) :
    (∃ before, view (.order id) = some before ∧ among before.status = true ∧
        before.requesterId = row.requesterId) ∨ Opens [act] id row.requesterId := by
  cases errand_step does fits id with
  | untouched same _ => exact .inl ⟨row, same ▸ found, living, rfl⟩
  | changed cause before applied sent entered is named present left =>
      subst is
      cases left.symm.trans found
      have same := (does_stepped does).1.same.requesterId
      rcases does_live only does living with before_ | ⟨envelope, orderId, rfl⟩
      · exact .inl ⟨before, present, before_, same.symm⟩
      · exact .inr ⟨envelope, orderId, before, applied, sent, entered, named, same.symm,
          List.mem_singleton_self _⟩
  | created input now absent left =>
      cases left.symm.trans found
      have waits : among .pendingCredit = true := living
      rw [only.pending] at waits
      cases waits
  | noted before mark _ present left =>
      cases left.symm.trans found
      exact .inl ⟨before, present, living, rfl⟩

theorem acts_live (only : OpenedTo among) (does : ∀ act ∈ acts, Does settings call act)
    (fits : Fits view (flat acts)) {row : StoredOrder}
    (found : wrote view (flat acts) (.order id) = some row) (living : among row.status = true) :
    (∃ before, view (.order id) = some before ∧ among before.status = true ∧
        before.requesterId = row.requesterId) ∨ Opens acts id row.requesterId := by
  have kept := acts_keep (fun now => ∀ row, now (.order id) = some row → among row.status = true →
      (∃ before, view (.order id) = some before ∧ among before.status = true ∧
        before.requesterId = row.requesterId) ∨ Opens acts id row.requesterId) fits
    (by
      intro act member middle fits before row found living
      rcases act_live only (does act member) fits found living with ⟨earlier, there, was, same⟩ | opens
      · rw [← same]
        exact before earlier there was
      · obtain ⟨envelope, orderId, before, applied, sent, entered, named, same, opening⟩ := opens
        refine .inr ⟨envelope, orderId, before, applied, sent, entered, named, same, ?_⟩
        rwa [List.mem_singleton.mp opening])
    (fun row found living => .inl ⟨row, found, living, rfl⟩)
  exact kept row found living

theorem suspending_rules : ∀ rule ∈ orderTransitions, rule.action = .requesterSuspended →
    live rule.decision.target = false := by decide

/-- A suspension that was carried out leaves none of the user's errands open. -/
theorem suspension_closes {envelope : Envelope} {userId : UserId} {lifted : Nat}
    (unsuspended : Unsuspended view env) (task : call.task = .suspended envelope userId)
    (concluded : Concluded settings call (.suspensionHandled true lifted) view env acts)
    (fits : Fits view (flat acts)) (current : lifted = env.lifted userId) {row : StoredOrder}
    (found : wrote view (flat acts) (.order id) = some row) (living : live row.status = true) :
    row.requesterId ≠ userId := by
  intro requester
  have suspends : ∀ {acts : List Act}, (∀ act ∈ acts, Does settings call act) →
      ∀ {id userId}, ¬ Opens acts id userId := by
    rintro acts does id userId ⟨_, orderId, before, applied, sent, entered, _, _, member⟩
    obtain ⟨_, _, _, reserves, _⟩ := issues_reserved (does_issues (does _ member)) rfl
    rw [task] at reserves
    cases reserves
  rcases acts_live live_opened concluded.does fits found living with
    ⟨before, there, was, same⟩ | opens
  · obtain ⟨cleared, _⟩ := unsuspended id before there was
    rw [same, requester] at cleared
    have waits : suspendable before.status = true := by
      cases status : before.status <;> simp_all [live, suspendable]
    have active : before.status = .opened ∨ before.status = .accepted := by
      cases status : before.status <;> simp_all [live]
    obtain ⟨_, closes⟩ := ((concluded.suspended envelope userId lifted task rfl).2 current).2 id
      cleared before there waits
    obtain ⟨change, sent, member⟩ := closes.1 active
    -- The act that closes the errand, and those after it, which open none.
    obtain ⟨first, rest, split⟩ := List.append_of_mem member
    have does := concluded.does
    rw [split] at does fits found
    rw [flat_append, fits_append, flat_cons, fits_append] at fits
    rw [flat_append, wrote_append, flat_cons, wrote_append] at found
    have closed := does _ (List.mem_append_right _ List.mem_cons_self)
    have later : ∀ act ∈ rest, Does settings call act := fun act member =>
      does act (List.mem_append_right _ (List.mem_cons_of_mem _ member))
    rcases acts_live live_opened later fits.2.2 found living with ⟨left, present, still, _⟩ | opens
    · obtain ⟨rule, among, _, action, target, _⟩ := (does_stepped closed).1.rule
      have gone := suspending_rules rule among action
      rw [act_order closed fits.2.1] at present
      simp only [Act.order, if_pos, Option.some_or, Option.some.injEq, Cause.orderId,
        suspensionCommand, systemCommand, written] at present
      rw [target, present, still] at gone
      cases gone
    · exact suspends later opens
  · exact suspends concluded.does opens

theorem cleared_later {before after : Env} (later : EnvLater before after) {userId : UserId}
    (cleared : Cleared before id userId) : Cleared after id userId := by
  obtain ⟨call, envelope, payload, reply, member, rest⟩ := cleared
  exact ⟨call, envelope, payload, reply, later.answers _ member, rest⟩

theorem turn_unsuspended {kept : Key → Prop} {before after : View Row × Env}
    (standing : Standing before.1 before.2) (turn : OrderTurn settings kept before after)
    (unsuspended : Unsuspended before.1 before.2) : Unsuspended after.1 after.2 := by
  have later := (turn_later turn).2
  -- Where neither the rows nor the log change.
  have still (rows : after.1 = before.1) (log : after.2.log = before.2.log) :
      Unsuspended after.1 after.2 := by
    intro id row found living
    rw [rows] at found
    obtain ⟨cleared, free⟩ := unsuspended id row found living
    exact ⟨cleared_later later cleared, fun done => free (suspension_before standing later log done).1⟩
  cases turn with
  | commit call result moves view env fits ended apart =>
      obtain ⟨acts, rfl, concluded⟩ := ended
      intro id row found living
      have held : Cleared env id row.requesterId ∧ ¬ SuspensionDone env row.requesterId := by
        rcases acts_live live_opened concluded.does fits found living with
          ⟨earlier, there, was, same⟩ | opens
        · rw [← same]
          exact unsuspended id earlier there was
        · obtain ⟨envelope, orderId, earlier, applied, sent, entered, rfl, same, member⟩ := opens
          rw [← same]
          exact concluded.cleared envelope orderId earlier applied sent entered member
      refine ⟨cleared_later later held.1, fun done => ?_⟩
      rcases suspension_log done with old | ⟨_, envelope, same, task⟩
      · exact held.2 old
      · cases same
        exact suspension_closes unsuspended task concluded fits rfl found living rfl
  | refuse call error view env ended =>
      intro id row found living
      obtain ⟨cleared, free⟩ := unsuspended id row found living
      refine ⟨cleared, fun done => ?_⟩
      rcases suspension_log done with old | ⟨_, _, same, _⟩
      · exact free old
      · cases same
  | answer call ask value view env after asked responded => exact still rfl (respond_log responded)
  | stimulus value view env after accepted => exact still rfl (stimulus_same accepted).1

theorem reached_unsuspended {state : View Row × Env}
    (reached : Serial.Reached (orderService settings) (orderContract settings) state) :
    Unsuspended state.1 state.2 := by
  apply reached_keeps ?_ ?_ reached
  · rintro view env ⟨empty, _⟩ id row found
    simp [empty] at found
  · intro before after earlier turn unsuspended
    exact turn_unsuspended (reached_standing earlier) turn unsuspended

end Acts

/-! ## Towards release -/

/-- The version at which an errand is moved from waiting or open towards release. -/
def HistoryEntry.releases (entry : HistoryEntry) : Prop :=
  (entry.previousStatus = some .pendingCredit ∨ entry.previousStatus = some .opened) ∧
    entry.newStatus = .releasePendingCredit

def leaving : OrderStatus → Bool
  | .releasePendingCredit | .cancelled | .expired => true
  | _ => false

/-- An errand moves towards release at one version, and does not come back. -/
def ReleasedOnce (view : View Row) (id : Uuid) : Prop :=
  (∀ version entry, view (.history id version) = some entry → ¬ entry.releases) ∨
    (∃ row, view (.order id) = some row ∧ leaving row.status = true) ∧
      ∃ version entry, view (.history id version) = some entry ∧ entry.releases ∧
        ∀ other again, view (.history id other) = some again → again.releases → other = version

/-- Only its creation, the two handlers and Credit's confirmation changed the errand. -/
def HandledAlone (view : View Row) (id : Uuid) : Prop :=
  ∀ version entry, view (.history id version) = some entry →
    entry.action ∈ [.create, .action .creditReserved, .action .requesterSuspended,
      .action .releaseConfirmed]

/-- The errand's credits are on their way back because it was cancelled. -/
def Returned (row : StoredOrder) : Prop :=
  row.status = .releasePendingCredit ∧ row.releaseReason = some .cancelled ∨
    row.status = .cancelled

/-- While only the handlers change it, an errand waits, is open, or is returned. -/
def Staged (view : View Row) (id : Uuid) : Prop :=
  HandledAlone view id → ∀ row, view (.order id) = some row →
    row.status = .pendingCredit ∨ row.status = .opened ∨ Returned row ∧
      ∃ version entry, view (.history id version) = some entry ∧ entry.releases

section Releases

variable {settings : Settings} {call : Call} {view : View Row} {env : Env} {act : Act} {id : Uuid}

theorem releasing_rules : ∀ rule ∈ orderTransitions,
    leaving rule.status = true → leaving rule.decision.target = true := by decide

/-- Nothing leads back from a release. -/
theorem releasing_way : OneWay HistoryEntry.releases leaving := by
  refine ⟨releasing_rules, ?_, ?_⟩
  · intro cause tx before applied stepped releases
    have came := releases.1
    rw [stepped.previous, Option.some.injEq, Option.some.injEq] at came
    constructor
    · rcases came with pending | opened
      · rw [pending]
        rfl
      · rw [opened]
        rfl
    · rw [← stepped.arrives, releases.2]
      rfl
  · intro input now releases
    simp [HistoryEntry.releases, creationHistory] at releases

theorem staged_rules : ∀ rule ∈ orderTransitions,
    rule.action ∈ [OrderAction.creditReserved, .requesterSuspended, .releaseConfirmed] →
    (rule.status = .pendingCredit ∨ rule.status = .opened →
      rule.decision.target = .opened ∨
        rule.decision.target = .releasePendingCredit ∧
          rule.decision.releaseReason = some .cancelled) ∧
    (rule.status = .releasePendingCredit →
      rule.decision.target = .cancelled ∨
        ∀ context, rule.guard context = true → context.releaseReason = some .expired) ∧
    rule.status ≠ .cancelled := by
  simp [orderTransitions, statusChanged, release, completion, always]

theorem act_staged (does : Does settings call act) (fits : Fits view act.moves)
    (chain : Chain view id) (staged : Staged view id) : Staged (wrote view act.moves) id := by
  intro alone next after
  cases errand_step does fits id with
  | untouched row history =>
      simp only [HandledAlone, history] at alone ⊢
      exact staged alone next (row ▸ after)
  | noted before mark _ found left history =>
      cases left.symm.trans after
      simp only [HandledAlone, history] at alone ⊢
      exact staged alone before found
  | created input now found left noted others =>
      cases left.symm.trans after
      exact .inl rfl
  | changed cause before applied sent entered is named found left noted others =>
      subst is
      cases left.symm.trans after
      obtain ⟨stepped, _, issued, applies, _⟩ := does_stepped does
      have earlier : ∀ version entry, view (.history id version) = some entry →
          wrote view (Act.change cause before applied sent entered).moves (.history id version) =
            some entry := by
        intro version entry present
        by_cases last : version = applied.next.version
        · subst last
          exact absurd present (stepped_new stepped chain found entry)
        · exact (others version last).trans present
      have before_ := staged (fun version entry present =>
        alone version entry (earlier version entry present)) before found
      have handler := alone _ _ noted
      rw [stepped.action] at handler
      have handled : cause.action ∈
          [OrderAction.creditReserved, .requesterSuspended, .releaseConfirmed] := by
        simpa using handler
      cases cause with
      | acceptance => simp [Cause.action] at handled
      | transition command =>
          obtain ⟨rule, member, status, action, guarded, target, reason, _⟩ :=
            transition_rule (issues_fitting issued) applies
          obtain ⟨waits, returns, ended⟩ := staged_rules rule member (by rwa [action])
          rw [status] at waits returns ended
          -- From waiting or open the errand opens, or this version releases it.
          have moves (waiting : before.status = .pendingCredit ∨ before.status = .opened) :
              applied.next.status = .opened ∨ Returned applied.next ∧ applied.history.releases := by
            rcases waits waiting with opens | ⟨leaves, cancelled⟩
            · exact .inl (target.symm.trans opens)
            · refine .inr ⟨.inl ⟨target.symm.trans leaves, reason _ cancelled⟩, ?_, ?_⟩
              · rw [stepped.previous]
                exact waiting.imp (congrArg some) (congrArg some)
              · rw [stepped.arrives]
                exact target.symm.trans leaves
          have waited (waiting : before.status = .pendingCredit ∨ before.status = .opened) :
              applied.next.status = .opened ∨ Returned applied.next ∧ ∃ version entry,
                wrote view (Act.change (.transition command) before applied sent entered).moves
                  (.history id version) = some entry ∧ entry.releases :=
            (moves waiting).imp_right fun both =>
              ⟨both.1, applied.next.version, applied.history, noted, both.2⟩
          rcases before_ with pending | opened | ⟨back, version, entry, present, releases⟩
          · exact .inr (waited (.inl pending))
          · exact .inr (waited (.inr opened))
          · refine .inr (.inr ⟨?_, version, entry, earlier version entry present, releases⟩)
            rcases back with ⟨pending, cancelled⟩ | cancelled
            · rcases returns pending with gone | expired
              · exact .inr (target.symm.trans gone)
              · have other : before.releaseReason = some .expired := expired _ guarded
                rw [cancelled] at other
                cases other
            · exact absurd cancelled ended

/-- A reservation of the errand was granted. -/
def Granted (view : View Row) (id : Uuid) : Prop :=
  ∃ version entry, view (.history id version) = some entry ∧
    entry.action = .action .creditReserved

/-- A granted errand waits no longer. -/
def Answered (view : View Row) (id : Uuid) : Prop :=
  Granted view id → ∀ row, view (.order id) = some row → row.status ≠ .pendingCredit

theorem act_answered (does : Does settings call act) (fits : Fits view act.moves)
    (chain : Chain view id) (answered : Answered view id) : Answered (wrote view act.moves) id := by
  intro granted next after
  cases errand_step does fits id with
  | untouched row history =>
      simp only [Granted, history] at granted
      exact answered granted next (row ▸ after)
  | noted before mark _ found left history =>
      cases left.symm.trans after
      simp only [Granted, history] at granted
      exact answered granted before found
  | created input now found left noted others =>
      obtain ⟨version, entry, present, reserves⟩ := granted
      by_cases first : version = 1
      · subst first
        cases noted.symm.trans present
        cases reserves
      · rw [others version first] at present
        obtain ⟨row, there, _⟩ := (chain.gapless version).mp ⟨entry, present⟩
        rw [found] at there
        cases there
  | changed cause before applied sent entered is named found left noted others =>
      subst is
      cases left.symm.trans after
      obtain ⟨rule, member, _, _, target, _⟩ := (does_stepped does).1.rule
      rw [← target]
      exact (shown_rules rule member).1

theorem reached_releases {state : View Row × Env}
    (reached : Serial.Reached (orderService settings) (orderContract settings) state) (id : Uuid) :
    ReleasedOnce state.1 id ∧ Staged state.1 id ∧ Answered state.1 id := by
  refine ⟨reached_marked_once releasing_way reached, ?_⟩
  apply reached_errand id (fun view => Staged view id ∧ Answered view id) _ _ reached
  · intro view empty
    exact ⟨fun _ row found => by simp [empty] at found, fun _ row found => by simp [empty] at found⟩
  · intro call act view does fits chain _ both
    exact ⟨act_staged does fits chain both.1, act_answered does fits chain both.2⟩

end Releases

/-! ## The handlers -/

/-- What the User Service says of a user who stays suspended. -/
def toldSuspended (userId : UserId) (lifted : Nat) : (ask : Ask) → Answer ask → Prop
  | .isSuspended asked, answer => asked = userId → answer = Suspension.mk true lifted
  | .randomUUID, _ | .serviceClock, _ => True

section Handlers

variable {settings : Settings} {userId : UserId} {lifted : Nat}

/-- A suspension's handler that is told the user is suspended carries it out. -/
theorem suspension_told {call : Call} {envelope : Envelope}
    (task : call.task = .suspended envelope userId) :
    ((orderService settings).main call).onlyTold (toldSuspended userId lifted) fun outcome =>
      ∀ result, outcome = .ok result → result = .duplicate ∨ result = .suspensionHandled true lifted := by
  have program : (orderService settings).main call =
      processOnce .userSuspensions envelope.eventId
        (handleSuspension settings.periods envelope userId call.began) := by
    simp only [orderService, main, task]
  rw [program]
  simp only [processOnce, bind_eq, pure_eq]
  apply told_bind
  · intro error result same
    cases same
  intro inserted
  cases inserted with
  | false =>
      intro result same
      cases same
      exact .inl rfl
  | true =>
      simp only [if_true, handleSuspension, bind_eq, pure_eq]
      rintro ⟨suspended, count⟩ told
      cases told rfl
      simp only [done_bind, if_true]
      apply told_bind
      · intro error result same
        cases same
      intro rows
      apply told_bind
      · intro error result same
        cases same
      intro _ result same
      cases same
      exact .inr rfl

variable {base world after : OrderWorld} {event : OrderEvent}

theorem answered_env {env after : Env} {session : Session Row Answer Failure Call Result}
    {reply : Sigma Answer}
    (answered : (orderService settings).machine.answered env session reply = some after) :
    after.suspended = env.suspended ∧ after.reactivated = env.reactivated := by
  obtain ⟨question, value, responded⟩ := answered_responds answered
  cases question with
  | randomUUID | serviceClock =>
      cases responded
      exact ⟨rfl, rfl⟩
  | isSuspended userId =>
      simp only [respond] at responded
      split at responded
      · cases responded
        exact ⟨rfl, rfl⟩
      · cases responded

/-- A suspension stands until it is lifted. -/
theorem step_suspended (stepped : step (orderService settings).machine world event = some after)
    (kept : event ≠ .stimulus (.reactivate userId)) (held : userId ∈ world.env.suspended) :
    userId ∈ after.env.suspended ∧ after.env.lifted userId = world.env.lifted userId := by
  cases step_moves stepped with
  | begin | run => exact ⟨held, rfl⟩
  | commit id tx found asked =>
      obtain ⟨result, current⟩ := commit_current asked
      simp only [Service.machine, Service.settle, current]
      exact ⟨held, rfl⟩
  | abort id tx found =>
      simp only [Service.machine, Service.giveUp]
      split <;> exact ⟨held, rfl⟩
  | answer id reply tx next env found asked answered =>
      have same := answered_env answered
      simpa [Env.lifted, same] using held
  | stimulus value env accepted =>
      cases value with
      | tick clock =>
          have accepted : (if world.env.clock ≤ clock then some { world.env with clock } else none) =
            some env := accepted
          split at accepted
          · cases accepted
            exact ⟨held, rfl⟩
          · cases accepted
      | suspend other =>
          cases accepted
          exact ⟨List.mem_cons_of_mem _ held, rfl⟩
      | reactivate other =>
          have different : other ≠ userId := fun same => kept (by rw [same])
          cases accepted
          refine ⟨List.mem_filter.mpr ⟨held, by simpa using different.symm⟩, ?_⟩
          exact List.count_cons_of_ne different

/-- A user that nobody reactivates. -/
abbrev StaysSuspended (settings : Settings) (userId : UserId) : OrderWorld → OrderWorld → Prop :=
  Run (orderService settings).machine fun _ event => event ≠ .stimulus (.reactivate userId)

theorem stays_suspended (run : StaysSuspended settings userId base world)
    (held : userId ∈ base.env.suspended) :
    userId ∈ world.env.suspended ∧ world.env.lifted userId = base.env.lifted userId := by
  induction run with
  | refl => exact ⟨held, rfl⟩
  | next event run kept stepped ih =>
      obtain ⟨held, count⟩ := ih
      obtain ⟨still, same⟩ := step_suspended stepped kept held
      exact ⟨still, same.trans count⟩

variable {clock : Micros} {suspended : List UserId} {begun done committed : OrderWorld}
  {session : Nat} {tx : ReadCommitted.Tx Row (Session Row Answer Failure Call Result)}
  {envelope : Envelope} {result : Result}

/-- A handler that asks after the suspension carries it out. -/
theorem handler_suspends (absent : begun.active.lookup session = none)
    (unanswered : Run (orderService settings).machine
      (fun _ event => ∀ reply, event ≠ .answer session reply) begun base)
    (held : userId ∈ base.env.suspended) (onward : StaysSuspended settings userId base done)
    (found : done.active.lookup session = some tx)
    (task : tx.pc.call.task = .suspended envelope userId)
    (current : (orderService settings).current tx.pc = .done result) :
    result = .duplicate ∨ result = .suspensionHandled true (base.env.lifted userId) := by
  have main : ∀ call, (∃ envelope, call.task = .suspended envelope userId) →
      ((orderService settings).main call).onlyTold
        (toldSuspended userId (base.env.lifted userId)) fun outcome => ∀ result,
          outcome = .ok result →
          result = .duplicate ∨ result = .suspensionHandled true (base.env.lifted userId) :=
    fun call ⟨envelope, task⟩ => suspension_told task
  have early := run_told _ main (fun _ _ reply _ permitted => absurd rfl (permitted reply))
    (fun tx found => by simp [absent] at found) unanswered
  have told := run_told _ main ?_ early onward tx found ⟨envelope, task⟩
  · rw [current] at told
    exact told result rfl
  · rintro before after ⟨ask, value⟩ run kept stepped watched
    cases step_moves stepped with
    | answer id reply tx next env found asked answered =>
        cases ask with
        | randomUUID | serviceClock => trivial
        | isSuspended other =>
            rintro rfl
            obtain ⟨still, count⟩ := stays_suspended run held
            have accepted : (orderService settings).answered before.env tx.pc
              ⟨.isSuspended other, value⟩ = some env := answered
            unfold Service.answered at accepted
            split at accepted
            · split at accepted
              · rename_i same
                subst same
                have responded : respond before.env tx.pc.call (.isSuspended other) value =
                  some env := accepted
                simp only [respond] at responded
                split at responded
                · rename_i truth
                  rw [truth, count]
                  simp [still]
                · cases responded
              · cases accepted
            · cases accepted

/-- It commits: the whole run that led there, and what the commit logs. -/
theorem handler_commits (start : OrderRun settings (idle ∅ (Env.initial clock suspended)) begun)
    (absent : begun.active.lookup session = none)
    (unanswered : Run (orderService settings).machine
      (fun _ event => ∀ reply, event ≠ .answer session reply) begun base)
    (held : userId ∈ base.env.suspended) (onward : StaysSuspended settings userId base done)
    (found : done.active.lookup session = some tx)
    (task : tx.pc.call.task = .suspended envelope userId)
    (current : (orderService settings).current tx.pc = .done result)
    (first : result ≠ .duplicate)
    (commits : step (orderService settings).machine done (.commit session) = some committed) :
    result = .suspensionHandled true (done.env.lifted userId) ∧
      OrderRun settings (idle ∅ (Env.initial clock suspended)) done ∧
      OrderRun settings (idle ∅ (Env.initial clock suspended)) committed ∧
      userId ∈ committed.env.suspended ∧
      (tx.pc.call, .ok (.suspensionHandled true (committed.env.lifted userId))) ∈
        committed.env.log := by
  have handled : result = .suspensionHandled true (base.env.lifted userId) :=
    (handler_suspends absent unanswered held onward found task current).resolve_left first
  have weaken {strict : OrderWorld → OrderEvent → Prop} :
      ∀ world event, strict world event → True := fun _ _ _ => trivial
  have reached : OrderRun settings (idle ∅ (Env.initial clock suspended)) done :=
    run_append (run_append start (run_weaken _ _ weaken unanswered)) (run_weaken _ _ weaken onward)
  obtain ⟨atDone, sameDone⟩ := stays_suspended onward held
  obtain ⟨atCommit, sameCommit⟩ := step_suspended commits (by nofun) atDone
  refine ⟨sameDone ▸ handled, reached, reached.next (.commit session) trivial commits, atCommit, ?_⟩
  rw [sameCommit, sameDone, ← handled]
  cases step_moves commits with
  | commit id other present asked =>
      cases found.symm.trans present
      simp only [Service.machine, Service.settle, current]
      exact List.mem_cons_self

/-- What it has carried out stands while nobody reactivates the user. -/
theorem suspension_stands {call : Call}
    (start : OrderRun settings (idle ∅ (Env.initial clock suspended)) committed)
    (held : userId ∈ committed.env.suspended) (task : call.task = .suspended envelope userId)
    (logged : (call, .ok (.suspensionHandled true (committed.env.lifted userId))) ∈
      committed.env.log)
    (later : StaysSuspended settings userId committed world) :
    SuspensionDone world.env userId := by
  obtain ⟨_, same⟩ := stays_suspended later held
  refine ⟨call, envelope, ?_, task⟩
  rw [same]
  exact (run_later start (run_weaken _ _ (fun _ _ _ => trivial) later)).2.log _ logged

/-- Once a reservation of an errand was granted, and a suspension of its requester that
asked after they were suspended has committed, the errand neither waits nor can be
held by a courier, in every later state in which nobody reactivated them. It moves
towards release at one version at most; and if nothing but the two handlers and
Credit's confirmation changed it, it did, and is on its way to be cancelled. -/
theorem suspension_not_missed (settings : Settings) (clock : Micros) (suspended : List UserId)
    (userId : UserId) (begun base done committed world : OrderWorld) (session : Nat)
    (tx : ReadCommitted.Tx Row (Session Row Answer Failure Call Result)) (envelope : Envelope)
    (result : Result)
    (start : OrderRun settings (idle ∅ (Env.initial clock suspended)) begun)
    (absent : begun.active.lookup session = none)
    (unanswered : Run (orderService settings).machine
      (fun _ event => ∀ reply, event ≠ .answer session reply) begun base)
    (held : userId ∈ base.env.suspended) (onward : StaysSuspended settings userId base done)
    (found : done.active.lookup session = some tx)
    (task : tx.pc.call.task = .suspended envelope userId)
    (current : (orderService settings).current tx.pc = .done result)
    (first : result ≠ .duplicate)
    (commits : step (orderService settings).machine done (.commit session) = some committed)
    (later : StaysSuspended settings userId committed world) (id : Uuid) (row : StoredOrder)
    (errand : world.committed.lookup (.order id) = some row) (theirs : row.requesterId = userId)
    (granted : Granted world.committed.lookup id) :
    row.status ≠ .pendingCredit ∧ row.status ≠ .opened ∧ row.status ≠ .accepted ∧
      ReleasedOnce world.committed.lookup id ∧
      (HandledAlone world.committed.lookup id → Returned row ∧
        ∃ version entry, world.committed.lookup (.history id version) = some entry ∧
          entry.releases) := by
  obtain ⟨_, _, before, atCommit, logged⟩ := handler_commits start absent unanswered held onward found
    task current first commits
  have whole := run_append before (run_weaken _ _ (fun _ _ _ => trivial) later)
  have carried := suspension_stands before atCommit task logged later
  have waits : live row.status = false := by
    by_contra living
    rw [Bool.not_eq_false] at living
    have free := (reached_unsuspended (order_reached whole) id row errand living).2
    rw [theirs] at free
    exact free carried
  obtain ⟨once, staged, answered⟩ := reached_releases (order_reached whole) id
  have pending := answered granted row errand
  have opened : row.status ≠ .opened := fun status => by simp [status, live] at waits
  have accepted : row.status ≠ .accepted := fun status => by simp [status, live] at waits
  refine ⟨pending, opened, accepted, once, fun alone => ?_⟩
  rcases staged alone row errand with waiting | isOpen | returned
  · exact absurd waiting pending
  · exact absurd isOpen opened
  · exact returned

/-- The requester of errand 1 is suspended once it is open; the handler begins. -/
def suspending : List OrderEvent :=
  [.begin 3 (calling 0 (.suspended envelopeOne "u1")), .run 3 none]

/-- It asks, locks the errand and moves it towards release. -/
def cancelling : List OrderEvent :=
  [.answer 3 ⟨.isSuspended "u1", Suspension.mk true 0⟩] ++ locking 3 (.order 1) ++
    locking 3 (.order 1) ++ locking 3 (.order 1) ++ [.run 3 none] ++ sending 3 5 ++ sending 3 6

def answersNone (session : Nat) : OrderEvent → Bool
  | .answer id _ => decide (id ≠ session)
  | _ => true

def reactivatesNone : OrderEvent → Bool
  | .stimulus (.reactivate _) => false
  | _ => true

theorem opened_then_suspended : ∃ (world : OrderWorld) (row : StoredOrder),
    OrderRun plainSettings (idle ∅ (Env.initial 0 [])) world ∧
    world.committed.lookup (.order 1) = some row ∧ row.requesterId = "u1" ∧
    row.status ≠ .opened ∧ ReleasedOnce world.committed.lookup 1 := by
  have reached : ((steps (orderService plainSettings).machine (fun _ _ => True)
      (idle ∅ (Env.initial 0 [])) (creating ++ opening ++ [.stimulus (.suspend "u1")])).bind
        fun begun => (steps (orderService plainSettings).machine
          (fun _ event => answersNone 3 event = true) begun suspending).bind fun base =>
          (steps (orderService plainSettings).machine
            (fun _ event => reactivatesNone event = true) base cancelling).bind fun done =>
            (step (orderService plainSettings).machine done (.commit 3)).map fun committed =>
              (begun.active.lookup 3, base.env.suspended,
                (done.active.lookup 3).map fun tx =>
                  (tx.pc.call.task, (orderService plainSettings).current tx.pc),
                (committed.committed.lookup (.order 1)).map StoredOrder.requesterId,
                (committed.committed.lookup (.history 1 2)).map HistoryEntry.action)) =
      some (none, ["u1"],
        some (.suspended envelopeOne "u1", .done (.suspensionHandled true 0)),
        some "u1", some (.action .creditReserved)) := by rfl
  obtain ⟨begun, start, reached⟩ := Option.bind_eq_some_iff.mp reached
  obtain ⟨base, unanswered, reached⟩ := Option.bind_eq_some_iff.mp reached
  obtain ⟨done, onward, reached⟩ := Option.bind_eq_some_iff.mp reached
  obtain ⟨committed, commits, seen⟩ := Option.map_eq_some_iff.mp reached
  simp only [Prod.mk.injEq] at seen
  obtain ⟨absent, held, session, requester, granted⟩ := seen
  obtain ⟨tx, found, ends⟩ := Option.map_eq_some_iff.mp session
  obtain ⟨task, current⟩ := Prod.mk.inj ends
  obtain ⟨row, errand, theirs⟩ := Option.map_eq_some_iff.mp requester
  obtain ⟨entry, noted, reserves⟩ := Option.map_eq_some_iff.mp granted
  have first := run_steps .refl _ start
  have second := run_steps .refl _ unanswered
  have third := run_steps .refl _ onward
  have silent : Run (orderService plainSettings).machine
      (fun _ event => ∀ reply, event ≠ .answer 3 reply) begun base := by
    apply run_weaken _ _ _ second
    rintro world event none reply rfl
    simp [answersNone] at none
  have stays : StaysSuspended plainSettings "u1" base done := by
    apply run_weaken _ _ _ third
    rintro world event none rfl
    simp [reactivatesNone] at none
  have missed := suspension_not_missed plainSettings 0 [] "u1" begun base done committed committed 3
    tx envelopeOne _ first absent silent (by simp [held]) stays found task current nofun commits
    .refl 1 row errand theirs ⟨2, entry, noted, reserves⟩
  have whole : OrderRun plainSettings (idle ∅ (Env.initial 0 [])) done :=
    run_append (run_append first (run_weaken _ _ (fun _ _ _ => trivial) second))
      (run_weaken _ _ (fun _ _ _ => trivial) third)
  exact ⟨committed, row, whole.next _ trivial commits, errand, theirs, missed.2.1, missed.2.2.2.1⟩

end Handlers
end Foc.Order
