import Foc.Order.Suspension
import Foc.Order.Timers
import Foc.Order.Disputes

/-!
A suspended requester's errand that a courier carries: it stays marked until its
delivery period is over, and is disputed only then.
-/
namespace Foc.Order
open Library Library.ReadCommitted Library.Transaction Library.Serial

/-! ## What a sweep knows -/

/-- The errand's delivery period is over at the time. -/
def Overdue (view : View Row) (id : Uuid) (requesterId : UserId) (now : Millis) : Prop :=
  ∃ row ends, view (.order id) = some row ∧ row.requesterId = requesterId ∧
    partiesFixed row.status = true ∧ row.nonDeliveryReportAt = some ends ∧ ends ≤ toMicros now

/-- What the answers and the lists of sweeps were read from. -/
structure Informed (view : View Row) (env : Env) : Prop where
  asked : ∀ call userId answer, (call, userId, answer) ∈ env.answers →
    prepared env call.task = true
  told : ∀ call orderId requesterId now answer, (call, .ok (.told answer)) ∈ env.log →
    call.task = .inquire orderId requesterId now → (call, requesterId, answer) ∈ env.answers
  overdue : ∀ call now found, (call, .ok (.overdue found)) ∈ env.log →
    call.task = .deliveryOverdue now → env.clockRead now = true ∧
      ∀ errand ∈ found, Overdue view errand.1 errand.2 now

section Turns

variable {settings : Settings} {view : View Row} {env : Env} {id : Uuid} {requesterId : UserId}
  {now : Millis}

theorem overdue_later {before after : View Row} (later : ViewLater before after)
    (overdue : Overdue before id requesterId now) : Overdue after id requesterId now := by
  obtain ⟨row, ends, found, theirs, fixed, period, elapsed⟩ := overdue
  obtain ⟨next, present, onward⟩ := later.orders id row found
  exact ⟨next, ends, present, onward.same.requesterId.trans theirs, (onward.fixed fixed).1,
    (onward.period fixed).trans period, elapsed⟩

theorem clock_read_later {before after : Env} (later : EnvLater before after)
    (read : before.clockRead now = true) : after.clockRead now = true := by
  have ready : prepared before (.deliveryOverdue now) = true := read
  exact prepared_later later ready

/-- Nothing is forgotten: only what is new has to be looked at. -/
theorem informed_later {before after : View Row} {env env' : Env} (informed : Informed before env)
    (later : ViewLater before after) (onward : EnvLater env env')
    (asked : ∀ call userId answer, (call, userId, answer) ∈ env'.answers →
      (call, userId, answer) ∈ env.answers ∨ prepared env call.task = true)
    (logged : ∀ call result, (call, .ok result) ∈ env'.log →
      (call, .ok result) ∈ env.log ∨ prepared env call.task = true ∧ Reports call before env result) :
    Informed after env' := by
  constructor
  · intro call userId answer member
    apply prepared_later onward
    rcases asked call userId answer member with old | ready
    · exact informed.asked call userId answer old
    · exact ready
  · intro call orderId requesterId now answer member task
    apply onward.answers
    rcases logged call _ member with old | ⟨_, reports⟩
    · exact informed.told call orderId requesterId now answer old task
    · exact reports orderId requesterId now task
  · intro call now found member task
    rcases logged call _ member with old | ⟨ready, reports⟩
    · obtain ⟨read, all⟩ := informed.overdue call now found old task
      exact ⟨clock_read_later onward read,
        fun errand listed => overdue_later later (all errand listed)⟩
    · rw [task] at ready
      exact ⟨clock_read_later onward ready,
        fun errand listed => overdue_later later (reports now task errand listed)⟩

theorem turn_informed {kept : Key → Prop} {before after : View Row × Env}
    (turn : OrderTurn settings kept before after) (informed : Informed before.1 before.2) :
    Informed after.1 after.2 := by
  obtain ⟨later, onward⟩ := turn_later turn
  cases turn with
  | commit call result moves view env fits ended apart =>
      obtain ⟨acts, rfl, concluded⟩ := ended
      apply informed_later informed later onward
      · intro other userId answer member
        exact .inl member
      · intro other result member
        rcases List.mem_cons.mp member with here | old
        · cases here
          exact .inr ⟨concluded.prepared, concluded.reports⟩
        · exact .inl old
  | refuse call error view env ended =>
      apply informed_later informed later onward
      · intro other userId answer member
        exact .inl member
      · intro other result member
        rcases List.mem_cons.mp member with here | old
        · cases here
        · exact .inl old
  | answer call ask value view env after asked responded =>
      have responded : respond env call ask value = some after := responded
      apply informed_later informed later onward
      · intro other userId answer member
        cases ask with
        | randomUUID | serviceClock =>
            cases responded
            exact .inl member
        | isSuspended named =>
            simp only [respond] at responded
            split at responded
            · cases responded
              rcases List.mem_cons.mp member with here | old
              · cases here
                exact .inr asked.1
              · exact .inl old
            · cases responded
      · intro other result member
        rw [respond_log responded] at member
        exact .inl member
  | stimulus value view env after accepted =>
      obtain ⟨log, answers⟩ := stimulus_same accepted
      apply informed_later informed later onward
      · intro other userId answer member
        rw [answers] at member
        exact .inl member
      · intro other result member
        rw [log] at member
        exact .inl member

theorem reached_informed {state : View Row × Env}
    (reached : Serial.Reached (orderService settings) (orderContract settings) state) :
    Informed state.1 state.2 := by
  apply reached_keeps ?_ (fun _ _ _ turn => turn_informed turn) reached
  rintro view env ⟨_, log, answers, _⟩
  constructor
  · intro call userId answer member
    simp [answers] at member
  · intro call orderId requesterId now answer member
    simp [log] at member
  · intro call now found member
    simp [log] at member

/-- What a sweep asks about it has found overdue. -/
theorem answered_overdue (informed : Informed view env) {call : Call} {answer : Bool}
    (member : (call, requesterId, answer) ∈ env.answers)
    (task : call.task = .inquire id requesterId now) :
    env.clockRead now = true ∧ Overdue view id requesterId now := by
  have ready := informed.asked call requesterId answer member
  rw [task] at ready
  obtain ⟨⟨other, outcome⟩, logged, matched⟩ := List.any_eq_true.mp ready
  split at matched
  · rename_i began swept found same
    cases same
    obtain ⟨rfl, listed⟩ : swept = now ∧ (id, requesterId) ∈ found := by simpa using matched
    obtain ⟨read, all⟩ := informed.overdue _ swept found logged rfl
    exact ⟨read, all _ listed⟩
  · cases matched

/-- What a sweep does of an answer it was given. -/
theorem inquired_told (informed : Informed view env) {answer : Bool}
    (inquired : env.inquired id answer = true) :
    ∃ call requesterId now, call.task = .inquire id requesterId now ∧
      (call, requesterId, answer) ∈ env.answers := by
  obtain ⟨⟨call, outcome⟩, logged, matched⟩ := List.any_eq_true.mp inquired
  split at matched
  · rename_i began asked requesterId now told same
    cases same
    obtain ⟨rfl, rfl⟩ : asked = id ∧ told = answer := by simpa using matched
    exact ⟨_, requesterId, now, rfl, informed.told _ asked requesterId now told logged rfl⟩
  · cases matched

end Turns

/-! ## The marks -/

/-- An errand that was opened and has not reached its end. -/
def carried : OrderStatus → Bool
  | .opened | .accepted | .pickedUp => true
  | _ => false

theorem carried_opened : OpenedTo carried := by
  refine ⟨?_, rfl, rfl⟩
  simp [orderTransitions, carried, statusChanged, release, completion, always]

/-- None of the user's errands is open or accepted, and those picked up are marked; at
the time of the suspension their delivery periods were not over. -/
def Marked (userId : UserId) (began : Micros) (view : View Row) : Prop :=
  ∀ id row, view (.order id) = some row → row.requesterId = userId →
    live row.status = false ∧ (row.status = .pickedUp → row.requesterSuspendedAt.isSome = true ∧
      passed (mapOrder row).nonDeliveryReportAt (toMillis began) = false)

section Acts

variable {settings : Settings} {call : Call} {view : View Row} {env : Env} {act : Act}
  {acts : List Act} {userId : UserId} {began : Micros} {envelope : Envelope}

/-- Every errand a courier can hold or holds was cleared by a reply's answer. -/
theorem reached_cleared {state : View Row × Env}
    (reached : Serial.Reached (orderService settings) (orderContract settings) state) :
    ∀ id row, state.1 (.order id) = some row → carried row.status = true →
      Cleared state.2 id row.requesterId := by
  apply reached_keeps ?_ ?_ reached
  · rintro view env ⟨empty, _⟩ id row found
    simp [empty] at found
  · intro before after _ turn cleared id row found held
    have later := (turn_later turn).2
    cases turn with
    | commit call result moves view env fits ended apart =>
        obtain ⟨acts, rfl, concluded⟩ := ended
        apply cleared_later later
        rcases acts_live carried_opened concluded.does fits found held with
          ⟨earlier, there, was, same⟩ | opens
        · rw [← same]
          exact cleared id earlier there was
        · obtain ⟨envelope, orderId, earlier, applied, sent, entered, rfl, same, member⟩ := opens
          rw [← same]
          exact (concluded.cleared envelope orderId earlier applied sent entered member).1
    | refuse => exact cleared_later later (cleared id row found held)
    | answer => exact cleared_later later (cleared id row found held)
    | stimulus => exact cleared_later later (cleared id row found held)

theorem picked_up_rules : ∀ rule ∈ orderTransitions, rule.decision.target = .pickedUp →
    live rule.status = true := by decide

/-- Nothing but an opening, or a sweep that clears a mark, undoes what a suspension did. -/
theorem act_marked (does : Does settings call act) (fits : Fits view act.moves)
    (unopened : ∀ id, ¬ Opens [act] id userId)
    (uncleared : ∀ id row, call.task = .clearSuspended id → view (.order id) = some row →
      row.requesterId = userId →
      passed (mapOrder row).nonDeliveryReportAt (toMillis began) = true)
    (marked : Marked userId began view) : Marked userId began (wrote view act.moves) := by
  intro id row found theirs
  have closed : live row.status = false := by
    by_contra living
    rw [Bool.not_eq_false] at living
    rcases act_live live_opened does fits found living with ⟨before, there, was, same⟩ | opens
    · have dead := (marked id before there (same.trans theirs)).1
      rw [was] at dead
      cases dead
    · rw [theirs] at opens
      exact unopened id opens
  refine ⟨closed, fun status => ?_⟩
  cases errand_step does fits id with
  | untouched same => exact (marked id row (same ▸ found) theirs).2 status
  | changed cause before applied sent entered is named present left =>
      cases left.symm.trans found
      subst is
      obtain ⟨stepped, _⟩ := does_stepped does
      obtain ⟨rule, member, source, _, target, _⟩ := stepped.rule
      have living := picked_up_rules rule member (target.trans status)
      have dead := (marked id before present (stepped.same.requesterId.symm.trans theirs)).1
      rw [source, dead] at living
      cases living
  | created input now absent left =>
      cases left.symm.trans found
      cases status
  | noted before mark is present left =>
      cases left.symm.trans found
      subst is
      have was := (marked id before present theirs).2 status
      cases does with
      | note _ _ _ marks =>
          obtain ⟨_, ⟨envelope, _, rfl⟩ | ⟨task, _⟩⟩ := marks
          · exact ⟨rfl, was.2⟩
          · have elapsed := uncleared id before task present theirs
            rw [was.2] at elapsed
            cases elapsed

theorem suspension_picks_none (task : call.task = .suspended envelope userId) {cause : Cause}
    (issues : Issues settings call.task cause) :
    ∀ rule ∈ orderTransitions, rule.action = cause.action → rule.decision.target ≠ .pickedUp := by
  intro rule member action
  rw [task] at issues
  cases issues with
  | suspended _ _ orderId part status suspends tried =>
      apply undelivered_rules rule member
      rw [action]
      rcases suspension_action_cases tried with rfl | rfl | rfl <;>
        simp [Cause.action, suspensionCommand, systemCommand]

/-- What a suspension has marked, the rest of it leaves marked. -/
theorem suspension_keeps_mark (task : call.task = .suspended envelope userId)
    (does : ∀ act ∈ acts, Does settings call act) (fits : Fits view (flat acts)) {id : Uuid}
    (marked : ∀ row, view (.order id) = some row → row.status = .pickedUp →
      row.requesterSuspendedAt.isSome = true) :
    ∀ row, wrote view (flat acts) (.order id) = some row → row.status = .pickedUp →
      row.requesterSuspendedAt.isSome = true := by
  apply acts_keep (fun view => ∀ row, view (.order id) = some row → row.status = .pickedUp →
    row.requesterSuspendedAt.isSome = true) fits _ marked
  intro act member middle fits earlier row found status
  cases errand_step (does act member) fits id with
  | untouched same => exact earlier row (same ▸ found) status
  | created input now absent left =>
      cases left.symm.trans found
      cases status
  | changed cause before applied sent entered is named present left =>
      cases left.symm.trans found
      subst is
      obtain ⟨stepped, _, issued, _⟩ := does_stepped (does _ member)
      obtain ⟨rule, among, _, action, target, _⟩ := stepped.rule
      exact absurd (target.trans status) (suspension_picks_none task issued rule among action)
  | noted before mark is present left =>
      cases left.symm.trans found
      subst is
      cases does _ member with
      | note _ _ _ marks =>
          obtain ⟨_, ⟨_, _, rfl⟩ | ⟨clears, _⟩⟩ := marks
          · rfl
          · cases task.symm.trans clears

/-- A suspension that is carried out marks what it does not dispute. -/
theorem suspension_marks {lifted : Nat} (unsuspended : Unsuspended view env)
    (cleared : ∀ id row, view (.order id) = some row → carried row.status = true →
      Cleared env id row.requesterId)
    (task : call.task = .suspended envelope userId)
    (concluded : Concluded settings call (.suspensionHandled true lifted) view env acts)
    (fits : Fits view (flat acts)) (current : lifted = env.lifted userId) :
    Marked userId call.began (wrote view (flat acts)) := by
  intro id row found theirs
  refine ⟨?_, fun status => ?_⟩
  · by_contra living
    rw [Bool.not_eq_false] at living
    exact suspension_closes unsuspended task concluded fits current found living theirs
  · obtain ⟨before, there, same⟩ := acts_source concluded.does fits (by nofun)
      (fun _ issues => suspension_picks_none task issues) found status
    have was : before.status = .pickedUp := by
      rw [same] at status
      exact status
    have requester : before.requesterId = userId := by
      rw [same] at theirs
      exact theirs
    have asked := cleared id before there (by rw [was]; rfl)
    rw [requester] at asked
    obtain ⟨_, closes⟩ := ((concluded.suspended envelope userId lifted task rfl).2 current).2 id
      asked before there (by rw [was]; rfl)
    have does := concluded.does
    rcases closes.2 was with ⟨change, sent, member⟩ | ⟨early, member⟩
    · -- It was disputed, and nothing leads back.
      obtain ⟨first, rest, split⟩ := List.append_of_mem member
      rw [split] at does fits found
      rw [flat_append, fits_append, flat_cons, fits_append] at fits
      rw [flat_append, wrote_append, flat_cons, wrote_append] at found
      have disputes := does _ (List.mem_append_right _ List.mem_cons_self)
      obtain ⟨left, present, still⟩ := acts_source (fun act member =>
        does act (List.mem_append_right _ (List.mem_cons_of_mem _ member))) fits.2.2 (by nofun)
        (fun _ issues => suspension_picks_none task issues) found status
      rw [act_order disputes fits.2.1] at present
      simp only [Act.order, if_pos, Option.some_or, Option.some.injEq, Cause.orderId,
        suspensionCommand, systemCommand, written] at present
      obtain ⟨stepped, _, issued, _⟩ := does_stepped disputes
      obtain ⟨rule, among, _, action, target, _⟩ := stepped.rule
      refine absurd (target.trans ?_) (suspension_picks_none task issued rule among action)
      rw [present]
      rw [still] at status
      exact status
    · obtain ⟨first, rest, split⟩ := List.append_of_mem member
      have period : row.nonDeliveryReportAt = before.nonDeliveryReportAt := by rw [same]
      refine ⟨?_, by simpa [mapOrder, period] using early⟩
      rw [split] at does fits found
      rw [flat_append, fits_append, flat_cons, fits_append] at fits
      rw [flat_append, wrote_append, flat_cons, wrote_append] at found
      have notes := does _ (List.mem_append_right _ List.mem_cons_self)
      apply suspension_keeps_mark task (fun act member =>
        does act (List.mem_append_right _ (List.mem_cons_of_mem _ member))) fits.2.2 _ row found status
      intro other present _
      rw [act_order notes fits.2.1] at present
      simp only [Act.order, if_pos, Option.some_or, Option.some.injEq] at present
      rw [← present]
      rfl

end Acts

/-! ## Whole runs -/

section Runs

variable {settings : Settings} {clock : Micros} {suspended : List UserId} {userId : UserId}
  {base done committed world after : OrderWorld} {event : OrderEvent} {began : Micros}

theorem period_over (ends now clock began : Int) (elapsed : ends ≤ now * 1000)
    (read : now * 1000 ≤ clock) (later : clock ≤ began) : ends / 1000 ≤ began / 1000 := by
  omega

/-- A sweep that is told the user is active was told before the suspension, when the
delivery period was over. -/
theorem clears_overdue (start : OrderRun settings (idle ∅ (Env.initial clock suspended)) base)
    (held : userId ∈ base.env.suspended) (onward : OrderRun settings base world)
    (count : world.env.lifted userId = base.env.lifted userId) (since : base.env.clock ≤ began)
    {id : Uuid} (ready : prepared world.env (.clearSuspended id) = true) {view : View Row}
    (later : ViewLater world.committed.lookup view) {row : StoredOrder}
    (found : view (.order id) = some row) (theirs : row.requesterId = userId) :
    passed (mapOrder row).nonDeliveryReportAt (toMillis began) = true := by
  have early := reached_informed (order_reached start)
  have informed := reached_informed (order_reached (run_append start onward))
  obtain ⟨rows, answers⟩ := run_later start onward
  obtain ⟨call, requesterId, now, task, answered⟩ := inquired_told informed ready
  -- The sweep asked about the errand's requester.
  obtain ⟨_, listed, _, there, asks, _⟩ := answered_overdue informed answered task
  obtain ⟨_, present, next⟩ := later.orders id _ there
  cases found.symm.trans present
  have same : requesterId = userId := asks.symm.trans (next.same.requesterId.symm.trans theirs)
  subst same
  have before : (call, requesterId, false) ∈ base.env.answers := by
    rcases answers.told call requesterId answered with old | free | back
    · exact old
    · exact absurd held free
    · exact absurd count back.ne'
  obtain ⟨read, overdue⟩ := answered_overdue early before task
  obtain ⟨_, ends, there, _, _, period, elapsed⟩ := overdue_later (view_later_trans rows later) overdue
  cases found.symm.trans there
  have passes : toMillis ends ≤ toMillis began :=
    period_over ends now _ _ elapsed ((run_clocked start).read now read) since
  simpa [passed, mapOrder, period] using passes

/-- A commit leaves marked what a suspension before it has marked. -/
theorem step_marked (start : OrderRun settings (idle ∅ (Env.initial clock suspended)) base)
    (held : userId ∈ base.env.suspended) (onward : OrderRun settings base world)
    (count : world.env.lifted userId = base.env.lifted userId) (since : base.env.clock ≤ began)
    (carried : SuspensionDone world.env userId)
    (stepped : step (orderService settings).machine world event = some after)
    (marked : Marked userId began world.committed.lookup) :
    Marked userId began after.committed.lookup := by
  rcases step_commits (run_append start onward) stepped with
    same | ⟨session, tx, result, acts, commits⟩
  · rw [same]
    exact marked
  · have concluded := commits.concluded
    have kept := acts_keep (fun view => ViewLater world.committed.lookup view ∧
        Marked userId began view) commits.fits
      (by
        rintro act member view fits ⟨later, marked⟩
        have does := concluded.does act member
        refine ⟨view_later_trans later (act_later does fits), act_marked does fits ?_ ?_ marked⟩
        · rintro id ⟨envelope, orderId, before, applied, sent, entered, _, same, opening⟩
          have among : act ∈ acts := member
          rw [← List.mem_singleton.mp opening] at among
          have free := (concluded.cleared envelope orderId before applied sent entered among).2
          rw [same] at free
          exact free carried
        · intro id row task found theirs
          have ready := concluded.prepared
          rw [task] at ready
          exact clears_overdue start held onward count since ready later found theirs)
      ⟨view_later_refl _, marked⟩
    rw [commits.written]
    exact kept.2

/-- While the user stays suspended their errands stay marked. -/
theorem run_marked (start : OrderRun settings (idle ∅ (Env.initial clock suspended)) base)
    (held : userId ∈ base.env.suspended) (onward : OrderRun settings base committed)
    (still : userId ∈ committed.env.suspended)
    (count : committed.env.lifted userId = base.env.lifted userId) (since : base.env.clock ≤ began)
    {call : Call} {envelope : Envelope} (task : call.task = .suspended envelope userId)
    (logged : (call, .ok (.suspensionHandled true (committed.env.lifted userId))) ∈
      committed.env.log)
    (marked : Marked userId began committed.committed.lookup)
    (later : StaysSuspended settings userId committed world) :
    Marked userId began world.committed.lookup := by
  induction later with
  | refl => exact marked
  | next event run kept stepped ih =>
      obtain ⟨_, same⟩ := stays_suspended run still
      have carried := suspension_stands (run_append start onward) still task logged run
      exact step_marked start held (run_append onward (run_weaken _ _ (fun _ _ _ => trivial) run))
        (same.trans count) since carried stepped ih

/-- A handler that begins after a state is not behind its clock. -/
theorem begins_later (start : OrderRun settings (idle ∅ (Env.initial clock suspended)) base)
    {session : Nat} (absent : base.active.lookup session = none)
    (onward : OrderRun settings base world)
    {tx : ReadCommitted.Tx Row (Session Row Answer Failure Call Result)}
    (found : world.active.lookup session = some tx) : base.env.clock ≤ tx.pc.call.began := by
  apply begun_holds (fun _ call => base.env.clock ≤ call.began) _ _ _ onward tx found
  · intro middle call run starts
    simp only [orderService, Bool.and_eq_true, decide_eq_true_eq] at starts
    rw [starts.1]
    exact (run_later start run).2.clock
  · intro before event after call earlier stepped held
    exact held
  · intro tx present
    rw [absent] at present
    cases present

theorem disputing_rules : ∀ rule ∈ orderTransitions, rule.action = .deliveryPeriodPassed →
    rule.decision.target = .disputed := by decide

/-- The delivery period is over, and the requester was told to be suspended, when an
errand is disputed for it. -/
theorem step_disputed (run : OrderRun settings (idle ∅ (Env.initial clock suspended)) world)
    (stepped : step (orderService settings).machine world event = some after) {id : Uuid}
    {version : Int} {entry : HistoryEntry}
    (absent : world.committed.lookup (.history id version) = none)
    (noted : after.committed.lookup (.history id version) = some entry)
    (refers : entry.action = .action .deliveryPeriodPassed) :
    entry.newStatus = .disputed ∧ ∃ row ends call,
      Fires settings world .undelivered id version entry row ends ∧
      (call, row.requesterId, true) ∈ world.env.answers := by
  have fired : entry.action = .action Timer.undelivered.action := refers
  obtain ⟨row, ends, fires⟩ := step_fires run stepped absent noted fired
  have moves : entry.action ≠ .create := by simp [refers]
  obtain ⟨call, before, cause, applied, entered⟩ := step_entry run stepped absent noted moves
  obtain ⟨action, _, there, present, same⟩ := fired_row entered fired
  cases fires.found.symm.trans present
  constructor
  · obtain ⟨rule, member, _, acts, target, _⟩ := entered.stepped.rule
    rw [← entered.same, entered.stepped.arrives, ← target]
    exact disputing_rules rule member (acts.trans action)
  · obtain ⟨_, _, first, rest, sent, key, concluded, _, _, split, _⟩ := entered.concluded
    rcases issues_timer entered.issued action with ⟨orderId, now, correlationId, task, rfl⟩ |
      ⟨_, envelope, userId, orderId, part, task, rfl⟩
    · have ready := concluded.prepared
      rw [task] at ready
      have informed := reached_informed (order_reached run)
      obtain ⟨asking, requesterId, asked, asks, answered⟩ :=
        inquired_told informed (Bool.and_eq_true_iff.mp ready).2
      obtain ⟨_, other, _, found, theirs, _⟩ := answered_overdue informed answered asks
      have named : orderId = id := entered.named
      rw [named] at found
      cases fires.found.symm.trans found
      exact ⟨row, ends, asking, fires, theirs ▸ answered⟩
    · obtain ⟨requester, answered⟩ := concluded.referred envelope userId task _ before applied sent key
        (by rw [split]; exact List.mem_append_right _ List.mem_cons_self) action
      have theirs : row.requesterId = userId := by
        rw [same] at requester
        exact requester
      exact ⟨row, ends, call, fires, theirs ▸ answered⟩

/-- While a requester stays suspended, and a handler that began after they were has
committed, each of their errands that was picked up is marked; and an errand is disputed
for its delivery period only when that is over and its requester was told to be
suspended. -/
theorem undelivered_not_forgotten (settings : Settings) (clock : Micros) (suspended : List UserId)
    (base : OrderWorld) (start : OrderRun settings (idle ∅ (Env.initial clock suspended)) base) :
    (∀ userId done committed world session
      (tx : ReadCommitted.Tx Row (Session Row Answer Failure Call Result)) envelope result,
      base.active.lookup session = none → userId ∈ base.env.suspended →
      StaysSuspended settings userId base done → done.active.lookup session = some tx →
      tx.pc.call.task = .suspended envelope userId →
      (orderService settings).current tx.pc = .done result → result ≠ .duplicate →
      step (orderService settings).machine done (.commit session) = some committed →
      StaysSuspended settings userId committed world →
      ∀ id row, world.committed.lookup (.order id) = some row → row.requesterId = userId →
        row.status = .pickedUp → row.requesterSuspendedAt.isSome = true) ∧
    ∀ event after id version entry,
      step (orderService settings).machine base event = some after →
      base.committed.lookup (.history id version) = none →
      after.committed.lookup (.history id version) = some entry →
      entry.action = .action .deliveryPeriodPassed →
      entry.newStatus = .disputed ∧ ∃ row ends call,
        Fires settings base .undelivered id version entry row ends ∧
        (call, row.requesterId, true) ∈ base.env.answers := by
  constructor
  · intro userId done committed world session tx envelope result absent held onward found task
      current first commits later id row errand theirs status
    obtain ⟨handled, reached, whole, still, logged⟩ := handler_commits start absent .refl held onward
      found task current first commits
    have weaken : OrderRun settings base done := run_weaken _ _ (fun _ _ _ => trivial) onward
    have since := begins_later start absent weaken found
    obtain ⟨atDone, sameDone⟩ := stays_suspended onward held
    obtain ⟨_, sameCommit⟩ := step_suspended commits (by nofun) atDone
    obtain ⟨acts, own⟩ := commit_commits reached found current commits
    have marked : Marked userId tx.pc.call.began committed.committed.lookup := by
      have concluded := own.concluded
      rw [handled] at concluded
      rw [own.written]
      exact suspension_marks (reached_unsuspended (order_reached reached))
        (reached_cleared (order_reached reached)) task concluded own.fits rfl
    have stays := run_marked start held (weaken.next _ trivial commits) still
      (sameCommit.trans sameDone) since task logged marked later
    exact ((stays id row errand theirs).2 status).1
  · intro event after id version entry stepped absent noted refers
    exact step_disputed start stepped absent noted refers

/-- The requester of errand 1 is suspended while it is carried; the handler locks it,
finds it within its delivery period and marks it. -/
def marking : List OrderEvent :=
  [ .begin 5 (calling 0 (.suspended envelopeOne "u1")), .run 5 none,
    .answer 5 ⟨.isSuspended "u1", Suspension.mk true 0⟩ ] ++ locking 5 (.order 1) ++
    locking 5 (.order 1) ++ locking 5 (.order 1)

theorem carried_then_suspended : ∃ (world : OrderWorld) (row : StoredOrder),
    OrderRun plainSettings (idle ∅ (Env.initial 0 [])) world ∧
    world.committed.lookup (.order 1) = some row ∧ row.requesterId = "u1" ∧
    row.status = .pickedUp ∧ row.requesterSuspendedAt.isSome = true := by
  have reached : ((steps (orderService plainSettings).machine (fun _ _ => True)
      (idle ∅ (Env.initial 0 [])) (creating ++ opening ++ carrying ++
        [.stimulus (.suspend "u1")])).bind fun base =>
        (steps (orderService plainSettings).machine
          (fun _ event => reactivatesNone event = true) base marking).bind fun done =>
          (step (orderService plainSettings).machine done (.commit 5)).map fun committed =>
            (base.active.lookup 5, base.env.suspended,
              (done.active.lookup 5).map fun tx =>
                (tx.pc.call.task, (orderService plainSettings).current tx.pc),
              (committed.committed.lookup (.order 1)).map fun row =>
                (row.requesterId, row.status))) =
      some (none, ["u1"],
        some (.suspended envelopeOne "u1", .done (.suspensionHandled true 0)),
        some ("u1", .pickedUp)) := by rfl
  obtain ⟨base, start, reached⟩ := Option.bind_eq_some_iff.mp reached
  obtain ⟨done, onward, reached⟩ := Option.bind_eq_some_iff.mp reached
  obtain ⟨committed, commits, seen⟩ := Option.map_eq_some_iff.mp reached
  simp only [Prod.mk.injEq] at seen
  obtain ⟨absent, held, session, left⟩ := seen
  obtain ⟨tx, found, ends⟩ := Option.map_eq_some_iff.mp session
  obtain ⟨task, current⟩ := Prod.mk.inj ends
  obtain ⟨row, errand, shown⟩ := Option.map_eq_some_iff.mp left
  obtain ⟨theirs, status⟩ := Prod.mk.inj shown
  have first := run_steps .refl _ start
  have second := run_steps .refl _ onward
  have stays : StaysSuspended plainSettings "u1" base done := by
    apply run_weaken _ _ _ second
    rintro world event none rfl
    simp [reactivatesNone] at none
  have marked := (undelivered_not_forgotten plainSettings 0 [] base first).1 "u1" done committed
    committed 5 tx envelopeOne _ absent (by simp [held]) stays found task current (by simp) commits .refl
    1 row errand theirs status
  exact ⟨committed, row,
    (run_append first (run_weaken _ _ (fun _ _ _ => trivial) second)).next _ trivial commits, errand,
    theirs, status, marked⟩

end Runs

end Foc.Order
