import Foc.Order.Chain

/-!
What every run leaves: rows as lawful as one call at a time leaves them, history
entries that are each made by one change of the row before it, and readings of the
database's clock that are never ahead of it.
-/
namespace Foc.Order
open Library Library.ReadCommitted Library.Transaction Library.Serial

section Acts

variable {settings : Settings} {call : Call} {view : View Row} {act : Act} {acts : List Act}
  {id : Uuid}

/-! ## Rows -/

theorem act_lawful (does : Does settings call act) (fits : Fits view act.moves)
    (lawful : ∀ id row, view (.order id) = some row → Lawful row) :
    ∀ id row, wrote view act.moves (.order id) = some row → Lawful row := by
  intro id row found
  cases errand_step does fits id with
  | untouched same => exact lawful id row (same ▸ found)
  | changed cause before applied sent entered is named present left =>
      cases left.symm.trans found
      subst is
      obtain ⟨_, _, issued, applies, _⟩ := does_stepped does
      have held := lawful id before present
      cases cause with
      | transition command => exact transition_lawful held (issues_fitting issued) applies
      | acceptance orderId caller expectedVersion correlationId =>
          exact acceptance_lawful held applies.1 applies.2
  | created input now absent left noted others starts is =>
      cases left.symm.trans found
      obtain ⟨key, requestHash, sent, rfl⟩ := is
      cases does with
      | create caller key request supplierSnapshot correlationId orderId now change sent task made =>
          have held := creation_lawful caller.user.named made
          rwa [(create_ok made).1] at held
  | noted before mark is present left =>
      cases left.symm.trans found
      exact note_lawful (lawful id before present) mark

theorem turn_lawful {kept : Key → Prop} {before after : View Row × Env}
    (turn : OrderTurn settings kept before after)
    (lawful : ∀ id row, before.1 (.order id) = some row → Lawful row) :
    ∀ id row, after.1 (.order id) = some row → Lawful row := by
  cases turn with
  | commit call result moves view env fits ended apart =>
      obtain ⟨acts, rfl, concluded⟩ := ended
      exact acts_keep (fun view => ∀ id row, view (.order id) = some row → Lawful row) fits
        (fun act member middle fits => act_lawful (concluded.does act member) fits) lawful
  | refuse => exact lawful
  | answer => exact lawful
  | stimulus => exact lawful

theorem reached_lawful {state : View Row × Env}
    (reached : Serial.Reached (orderService settings) (orderContract settings) state) :
    ∀ id row, state.1 (.order id) = some row → Lawful row := by
  apply reached_keeps ?_ (fun _ _ _ turn => turn_lawful turn) reached
  rintro view env ⟨empty, _⟩ id row found
  simp [empty] at found

/-! ## Entries -/

/-- The acts before the one that left a history entry, and that act. -/
inductive LeftBy (view : View Row) (acts : List Act) (id : Uuid) (version : Int)
    (entry : HistoryEntry) : Prop where
  | creation (first rest : List Act) (input : CreatePendingInput) (key requestHash : String)
      (now : Millis) (sent : List (Uuid × OutboxEvent))
      (split : acts = first ++ .create input key requestHash id now sent :: rest)
      (starts : version = 1) (same : entry = creationHistory input now)
  | change (first rest : List Act) (cause : Cause) (before : StoredOrder) (applied : Applied)
      (sent : List (Uuid × OutboxEvent)) (entered : Option (UserId × String × KeyRow))
      (split : acts = first ++ .change cause before applied sent entered :: rest)
      (named : cause.orderId.id = id)
      (found : wrote view (flat first) (.order id) = some before)
      (next : applied.next.version = version) (same : applied.history = entry)

/-- A new entry was left by one of the acts. -/
theorem acts_entry (does : ∀ act ∈ acts, Does settings call act) (fits : Fits view (flat acts))
    {version : Int} {entry : HistoryEntry} (absent : view (.history id version) = none)
    (noted : wrote view (flat acts) (.history id version) = some entry) :
    LeftBy view acts id version entry := by
  induction acts generalizing view with
  | nil =>
      have found : view (.history id version) = some entry := noted
      rw [absent] at found
      cases found
  | cons act rest ih =>
      have here : Does settings call act := does act List.mem_cons_self
      have others : ∀ other ∈ rest, Does settings call other :=
        fun other member => does other (List.mem_cons_of_mem _ member)
      rw [flat_cons, fits_append] at fits
      rw [flat_cons, wrote_append] at noted
      have shows (other : HistoryEntry)
          (left : wrote view act.moves (.history id version) = some other) : other = entry := by
        have still := (acts_later others fits.2).histories id version other left
        exact Option.some.inj (still.symm.trans noted)
      cases middle : wrote view act.moves (.history id version) with
      | none =>
          cases ih others fits.2 middle noted with
          | creation first later input key requestHash now sent split starts same =>
              refine .creation (act :: first) later input key requestHash now sent ?_ starts same
              rw [split, List.cons_append]
          | change first later cause before applied sent entered split named found next same =>
              refine .change (act :: first) later cause before applied sent entered ?_ named ?_ next
                same
              · rw [split, List.cons_append]
              · rwa [flat_cons, wrote_append]
      | some other =>
          obtain rfl := shows other middle
          cases errand_step here fits.1 id with
          | untouched _ history => rw [history, absent] at middle; cases middle
          | noted _ _ _ _ _ history => rw [history, absent] at middle; cases middle
          | created input now _ _ entered elsewhere _ is =>
              by_cases first : version = 1
              · subst first
                cases entered.symm.trans middle
                obtain ⟨key, requestHash, sent, is⟩ := is
                exact .creation [] rest input key requestHash now sent (is ▸ rfl) rfl rfl
              · rw [elsewhere version first, absent] at middle
                cases middle
          | changed cause before applied sent key is named found _ entered elsewhere =>
              by_cases last : version = applied.next.version
              · subst last is
                cases entered.symm.trans middle
                exact .change [] rest cause before applied sent key rfl named found rfl rfl
              · rw [elsewhere version last, absent] at middle
                cases middle

/-- A row in a status that the call leads nothing to is as it was but for its mark. -/
theorem acts_source (does : ∀ act ∈ acts, Does settings call act) (fits : Fits view (flat acts))
    {status : OrderStatus} (waits : status ≠ .pendingCredit)
    (never : ∀ cause, Issues settings call.task cause → ∀ rule ∈ orderTransitions,
      rule.action = cause.action → rule.decision.target ≠ status)
    {row : StoredOrder} (found : wrote view (flat acts) (.order id) = some row)
    (here : row.status = status) :
    ∃ before, view (.order id) = some before ∧
      row = { before with requesterSuspendedAt := row.requesterSuspendedAt } := by
  have kept := acts_keep (fun now => ∀ row, now (.order id) = some row → row.status = status →
      ∃ before, view (.order id) = some before ∧
        row = { before with requesterSuspendedAt := row.requesterSuspendedAt }) fits
    (by
      intro act member middle fits earlier row found here
      cases errand_step (does act member) fits id with
      | untouched same => exact earlier row (same ▸ found) here
      | changed cause before applied sent entered is named present left =>
          cases left.symm.trans found
          subst is
          obtain ⟨stepped, _, issued, _⟩ := does_stepped (does _ member)
          obtain ⟨rule, among, _, action, target, _⟩ := stepped.rule
          exact absurd (target.trans here) (never cause issued rule among action)
      | created input now absent left =>
          cases left.symm.trans found
          exact absurd here.symm waits
      | noted before mark is present left =>
          cases left.symm.trans found
          obtain ⟨first, there, same⟩ := earlier before present here
          refine ⟨first, there, ?_⟩
          rw [same])
    (fun row found _ => ⟨row, found, rfl⟩)
  exact kept row found here

/-- A row still at its version is as it was but for its mark. -/
theorem acts_still (does : ∀ act ∈ acts, Does settings call act) (fits : Fits view (flat acts))
    {before next : StoredOrder} (found : view (.order id) = some before)
    (left : wrote view (flat acts) (.order id) = some next) (version : next.version = before.version) :
    next = { before with requesterSuspendedAt := next.requesterSuspendedAt } := by
  have kept := acts_keep (fun now => ∃ row, now (.order id) = some row ∧
      (before.version < row.version ∨
        row = { before with requesterSuspendedAt := row.requesterSuspendedAt })) fits
    (by
      rintro act member middle fits ⟨row, present, since⟩
      cases errand_step (does act member) fits id with
      | untouched same => exact ⟨row, same.trans present, since⟩
      | changed cause other applied sent entered is named there leaves =>
          cases present.symm.trans there
          subst is
          have onward := (does_stepped (does _ member)).1.version
          refine ⟨_, leaves, .inl ?_⟩
          rcases since with later | same
          · omega
          · have level : row.version = before.version := by rw [same]
            omega
      | created input now absent =>
          rw [absent] at present
          cases present
      | noted other mark is there leaves =>
          cases present.symm.trans there
          refine ⟨_, leaves, since.imp_right fun same => ?_⟩
          rw [same])
    ⟨before, found, .inr rfl⟩
  obtain ⟨row, present, since⟩ := kept
  cases left.symm.trans present
  exact since.resolve_left (by omega)

/-! ## What happens once -/

/-- One entry at most is marked, and the errand is past it ever after. -/
def MarkedOnce (marks : HistoryEntry → Prop) (past : OrderStatus → Bool) (view : View Row)
    (id : Uuid) : Prop :=
  (∀ version entry, view (.history id version) = some entry → ¬ marks entry) ∨
    (∃ row, view (.order id) = some row ∧ past row.status = true) ∧
      ∃ version entry, view (.history id version) = some entry ∧ marks entry ∧
        ∀ other again, view (.history id other) = some again → marks again → other = version

/-- The marked changes lead past where they start, and no rule leads back. -/
structure OneWay (marks : HistoryEntry → Prop) (past : OrderStatus → Bool) : Prop where
  closed : ∀ rule ∈ orderTransitions, past rule.status = true → past rule.decision.target = true
  marked : ∀ cause tx before applied, Stepped cause tx before applied → marks applied.history →
    past before.status = false ∧ past applied.next.status = true
  unborn : ∀ input now, ¬ marks (creationHistory input now)

/-- The version a change adds was not there. -/
theorem stepped_new {cause : Cause} {tx : Micros} {before : StoredOrder} {applied : Applied}
    (stepped : Stepped cause tx before applied) (chain : Chain view id)
    (found : view (.order id) = some before) (entry : HistoryEntry) :
    view (.history id applied.next.version) ≠ some entry := by
  intro present
  obtain ⟨row, there, _, upper⟩ := (chain.gapless _).mp ⟨entry, present⟩
  cases found.symm.trans there
  rw [stepped.version] at upper
  omega

theorem act_marked_once {marks : HistoryEntry → Prop} {past : OrderStatus → Bool}
    (way : OneWay marks past) (does : Does settings call act) (fits : Fits view act.moves)
    (chain : Chain view id) (once : MarkedOnce marks past view id) :
    MarkedOnce marks past (wrote view act.moves) id := by
  have keeps (history : ∀ version, wrote view act.moves (.history id version) =
        view (.history id version))
      (row : ∀ before, view (.order id) = some before → past before.status = true →
        ∃ next, wrote view act.moves (.order id) = some next ∧ past next.status = true) :
      MarkedOnce marks past (wrote view act.moves) id := by
    simp only [MarkedOnce, history]
    rcases once with none | ⟨⟨before, found, gone⟩, rest⟩
    · exact .inl none
    · exact .inr ⟨row before found gone, rest⟩
  cases errand_step does fits id with
  | untouched row history =>
      apply keeps history
      intro before found gone
      exact ⟨before, row.trans found, gone⟩
  | noted before mark _ found left history =>
      apply keeps history
      intro other present gone
      cases found.symm.trans present
      exact ⟨_, left, gone⟩
  | created input now found left noted others =>
      refine .inl ?_
      intro version entry present marked
      by_cases first : version = 1
      · subst first
        cases noted.symm.trans present
        exact way.unborn input now marked
      · rw [others version first] at present
        obtain ⟨row, there, _⟩ := (chain.gapless version).mp ⟨entry, present⟩
        rw [found] at there
        cases there
  | changed cause before applied sent entered is named found left noted others =>
      subst is
      have stepped := (does_stepped does).1
      have fresh := stepped_new stepped chain found
      obtain ⟨rule, member, status, _, target, _⟩ := stepped.rule
      have stays := way.closed rule member
      rw [status, target] at stays
      rcases once with none | ⟨⟨row, there, passed⟩, version, entry, present, marked, only⟩
      · by_cases marked : marks applied.history
        · obtain ⟨_, passes⟩ := way.marked _ _ _ _ stepped marked
          refine .inr ⟨⟨_, left, passes⟩, _, _, noted, marked, ?_⟩
          intro other again present also
          by_contra different
          rw [others other different] at present
          exact none other again present also
        · refine .inl ?_
          intro version entry present
          by_cases last : version = applied.next.version
          · subst last
            cases noted.symm.trans present
            exact marked
          · rw [others version last] at present
            exact none version entry present
      · cases found.symm.trans there
        have different : version ≠ applied.next.version := by
          rintro rfl
          exact fresh entry present
        refine .inr ⟨⟨_, left, stays passed⟩, version, entry,
          (others version different).trans present, marked, ?_⟩
        intro other again present also
        by_cases last : other = applied.next.version
        · subst last
          cases noted.symm.trans present
          have before := (way.marked _ _ _ _ stepped also).1
          rw [passed] at before
          cases before
        · rw [others other last] at present
          exact only other again present also

/-- What every act keeps of an errand whose history is a chain holds in every state. -/
theorem reached_errand (id : Uuid) (holds : View Row → Prop)
    (empty : ∀ view : View Row, (∀ key, view key = none) → holds view)
    (keeps : ∀ call act view, Does settings call act → Fits view act.moves → Chain view id →
      (∀ id row, view (.order id) = some row → Lawful row) → holds view →
      holds (wrote view act.moves))
    {state : View Row × Env}
    (reached : Serial.Reached (orderService settings) (orderContract settings) state) :
    holds state.1 := by
  have all : Chain state.1 id ∧ (∀ id row, state.1 (.order id) = some row → Lawful row) ∧
      holds state.1 := by
    apply reached_keeps ?_ ?_ reached
    · rintro view env ⟨none, _⟩
      refine ⟨empty_chain none id, ?_, empty view none⟩
      intro other row found
      simp [none] at found
    · intro before after _ turn kept
      cases turn with
      | commit call result moves view env fits ended apart =>
          obtain ⟨acts, rfl, concluded⟩ := ended
          exact acts_keep (fun view => Chain view id ∧
            (∀ id row, view (.order id) = some row → Lawful row) ∧ holds view) fits
            (fun act member middle fits ⟨chain, lawful, held⟩ =>
              have does := concluded.does act member
              ⟨act_chain does fits chain, act_lawful does fits lawful,
                keeps call act middle does fits chain lawful held⟩) kept
      | refuse => exact kept
      | answer => exact kept
      | stimulus => exact kept
  exact all.2.2

theorem reached_marked_once {marks : HistoryEntry → Prop} {past : OrderStatus → Bool}
    (way : OneWay marks past) {state : View Row × Env}
    (reached : Serial.Reached (orderService settings) (orderContract settings) state) :
    MarkedOnce marks past state.1 id := by
  apply reached_errand id (fun view => MarkedOnce marks past view id) _ _ reached
  · intro view none
    refine .inl ?_
    intro version entry found
    simp [none] at found
  · intro call act view does fits chain _ once
    exact act_marked_once way does fits chain once

theorem marked_version {marks : HistoryEntry → Prop} {past : OrderStatus → Bool}
    (once : MarkedOnce marks past view id) {version other : Int} {entry again : HistoryEntry}
    (found : view (.history id version) = some entry) (marked : marks entry)
    (present : view (.history id other) = some again) (also : marks again) : other = version := by
  rcases once with none | ⟨_, first, _, _, _, only⟩
  · exact absurd marked (none version entry found)
  · exact (only other again present also).trans (only version entry found marked).symm

end Acts

/-! ## Whole runs -/

section Runs

variable {settings : Settings} {clock : Micros} {suspended : List UserId} {world after : OrderWorld}
  {event : OrderEvent}

/-- A commit, and the acts that it commits. -/
structure Commits (settings : Settings) (world : OrderWorld) (event : OrderEvent)
    (after : OrderWorld) (session : Nat)
    (tx : ReadCommitted.Tx Row (Session Row Answer Failure Call Result)) (result : Result)
    (acts : List Act) : Prop where
  is : event = .commit session
  found : world.active.lookup session = some tx
  current : (orderService settings).current tx.pc = .done result
  concluded : Concluded settings tx.pc.call result world.committed.lookup world.env acts
  fits : Fits world.committed.lookup (flat acts)
  written : after.committed.lookup = wrote world.committed.lookup (flat acts)

theorem commit_commits (run : OrderRun settings (idle ∅ (Env.initial clock suspended)) world)
    {session : Nat} {tx : ReadCommitted.Tx Row (Session Row Answer Failure Call Result)}
    {result : Result} (found : world.active.lookup session = some tx)
    (current : (orderService settings).current tx.pc = .done result)
    (stepped : step (orderService settings).machine world (.commit session) = some after) :
    ∃ acts, Commits settings world (.commit session) after session tx result acts := by
  cases step_moves stepped with
  | commit session tx present asked =>
      cases found.symm.trans present
      obtain ⟨moved, own, fits, acts, rfl, concluded⟩ := serial_commit (order_sound settings)
        (show fresh _ _ from ⟨fun _ => rfl, rfl, rfl, rfl⟩) run found current
      refine ⟨acts, rfl, found, current, concluded, fits, ?_⟩
      rw [own, seen]

/-- Only a commit changes rows. -/
theorem step_commits (run : OrderRun settings (idle ∅ (Env.initial clock suspended)) world)
    (stepped : step (orderService settings).machine world event = some after) :
    after.committed.lookup = world.committed.lookup ∨
      ∃ session tx result acts, Commits settings world event after session tx result acts := by
  cases step_moves stepped with
  | commit session tx found asked =>
      obtain ⟨result, current⟩ := commit_current asked
      obtain ⟨acts, commits⟩ := commit_commits run found current stepped
      exact .inr ⟨session, tx, result, acts, commits⟩
  | _ => exact .inl rfl

/-- A commit that left a new entry other than its errand's creation. -/
structure Entered (settings : Settings) (world : OrderWorld) (event : OrderEvent)
    (after : OrderWorld) (id : Uuid) (version : Int) (entry : HistoryEntry) (call : Call)
    (before : StoredOrder) (cause : Cause) (applied : Applied) : Prop where
  session : ∃ session tx, event = .commit session ∧ world.active.lookup session = some tx ∧
    tx.pc.call = call
  concluded : ∃ result acts first rest sent entered,
    Concluded settings call result world.committed.lookup world.env acts ∧
    Fits world.committed.lookup (flat acts) ∧
    after.committed.lookup = wrote world.committed.lookup (flat acts) ∧
    acts = first ++ .change cause before applied sent entered :: rest ∧
    wrote world.committed.lookup (flat first) (.order id) = some before
  named : cause.orderId.id = id
  next : applied.next.version = version
  same : applied.history = entry
  issued : Issues settings call.task cause
  applies : cause.applies settings.periods call.began before applied
  stepped : Stepped cause call.began before applied

theorem step_entry (run : OrderRun settings (idle ∅ (Env.initial clock suspended)) world)
    (stepped : step (orderService settings).machine world event = some after) {id : Uuid}
    {version : Int} {entry : HistoryEntry}
    (absent : world.committed.lookup (.history id version) = none)
    (noted : after.committed.lookup (.history id version) = some entry)
    (moves : entry.action ≠ .create) :
    ∃ call before cause applied,
      Entered settings world event after id version entry call before cause applied := by
  rcases step_commits run stepped with same | ⟨session, tx, result, acts, commits⟩
  · have still := (congrFun same (.history id version)).symm.trans noted
    rw [absent] at still
    cases still
  · have concluded := commits.concluded
    have noted := (congrFun commits.written (.history id version)).symm.trans noted
    cases acts_entry concluded.does commits.fits absent noted with
    | creation first rest input key requestHash now sent split starts same =>
        subst same
        exact absurd rfl moves
    | change first rest cause before applied sent entered split named present next same =>
        have does := concluded.does (.change cause before applied sent entered) (by simp [split])
        obtain ⟨stepped, _, issued, applies, _⟩ := does_stepped does
        exact ⟨tx.pc.call, before, cause, applied, ⟨session, tx, commits.is, commits.found, rfl⟩,
          ⟨result, acts, first, rest, sent, entered, concluded, commits.fits, commits.written,
            split, present⟩, named, next, same, issued, applies, stepped⟩

section Entries

variable {id : Uuid} {version : Int} {entry : HistoryEntry} {call : Call} {before : StoredOrder}
  {cause : Cause} {applied : Applied}

/-- The row a change started from is the one that was there, but for its mark, when the
call leads nothing to its status. -/
theorem entered_before
    (entered : Entered settings world event after id version entry call before cause applied)
    (waits : before.status ≠ .pendingCredit)
    (never : ∀ other, Issues settings call.task other → ∀ rule ∈ orderTransitions,
      rule.action = other.action → rule.decision.target ≠ before.status) :
    ∃ row, world.committed.lookup (.order id) = some row ∧
      before = { row with requesterSuspendedAt := before.requesterSuspendedAt } := by
  obtain ⟨_, acts, first, rest, sent, key, concluded, fits, _, split, found⟩ := entered.concluded
  have does : ∀ act ∈ first, Does settings call act := by
    intro act member
    exact concluded.does act (by rw [split]; exact List.mem_append_left _ member)
  rw [split, flat_append, fits_append] at fits
  exact acts_source does fits.1 waits never found rfl

/-- The row a commit leaves at the version of an entry is the one its change left, but
for its mark. -/
theorem entered_after
    (entered : Entered settings world event after id version entry call before cause applied)
    {next : StoredOrder} (left : after.committed.lookup (.order id) = some next)
    (last : next.version = version) :
    next = { applied.next with requesterSuspendedAt := next.requesterSuspendedAt } := by
  obtain ⟨_, acts, first, rest, sent, key, concluded, fits, written, split, found⟩ :=
    entered.concluded
  have does : ∀ act ∈ acts, Does settings call act := concluded.does
  have left := (congrFun written (.order id)).symm.trans left
  rw [split] at does fits left
  rw [flat_append, fits_append, flat_cons, fits_append] at fits
  rw [flat_append, wrote_append, flat_cons, wrote_append] at left
  have here := does _ (List.mem_append_right _ List.mem_cons_self)
  have later : ∀ act ∈ rest, Does settings call act := fun act member =>
    does act (List.mem_append_right _ (List.mem_cons_of_mem _ member))
  refine acts_still later fits.2.2 ?_ left (last.trans entered.next.symm)
  rw [act_order here fits.2.1]
  simp [Act.order, entered.named]

end Entries

/-! ## Clocks -/

/-- An answer is the service's or another's to the question a session asked. -/
theorem answered_responds {env answered : Env} {session : Session Row Answer Failure Call Result}
    {reply : Sigma Answer}
    (accepted : (orderService settings).machine.answered env session reply = some answered) :
    ∃ question value, respond env session.call question value = some answered := by
  have accepted : (orderService settings).answered env session reply = some answered := accepted
  unfold Service.answered at accepted
  split at accepted
  · split at accepted
    · exact ⟨_, _, accepted⟩
    · cases accepted
  · cases accepted

/-- The database's clock is never behind what was read of it. -/
structure Clocked (world : OrderWorld) : Prop where
  began : ∀ session tx, world.active.lookup session = some tx →
    tx.pc.call.began ≤ world.env.clock
  read : ∀ now, world.env.clockRead now = true → toMicros now ≤ world.env.clock

theorem step_forward (run : OrderRun settings (idle ∅ (Env.initial clock suspended)) world)
    (stepped : step (orderService settings).machine world event = some after) :
    world.env.clock ≤ after.env.clock :=
  (run_later run (.next event .refl trivial stepped)).2.clock

theorem clock_read_log {env : Env} {outcome : Call × Except Failure Result} {now : Millis}
    (read : { env with log := outcome :: env.log }.clockRead now = true) :
    env.clockRead now = true ∨ ∃ call, outcome = (call, .ok (.time now)) := by
  simp only [Env.clockRead, List.any_cons, Bool.or_eq_true] at read ⊢
  rcases read with here | old
  · split at here
    · rename_i call other
      refine .inr ⟨call, ?_⟩
      rw [of_decide_eq_true here]
    · cases here
  · exact .inl old

theorem whole_le (time : Int) : time / 1000 * 1000 ≤ time := by omega

theorem run_began (run : OrderRun settings (idle ∅ (Env.initial clock suspended)) world) :
    ∀ session tx, world.active.lookup session = some tx → tx.pc.call.began ≤ world.env.clock := by
  intro session
  apply begun_holds (fun env call => call.began ≤ env.clock) _ _ _ run
  · intro world call _ starts
    simp only [orderService, Bool.and_eq_true, decide_eq_true_eq] at starts
    exact le_of_eq starts.1
  · intro before event after call earlier stepped held
    exact held.trans (step_forward earlier stepped)
  · intro tx found
    cases found

theorem run_clocked (run : OrderRun settings (idle ∅ (Env.initial clock suspended)) world) :
    Clocked world := by
  refine ⟨run_began run, ?_⟩
  induction run with
  | refl =>
      intro now read
      cases read
  | next event run permitted stepped ih =>
      rename_i before after
      intro now read
      have onward := step_forward run stepped
      cases step_moves stepped with
      | begin | run => exact ih now read
      | commit session tx found asked =>
          obtain ⟨result, current⟩ := commit_current asked
          obtain ⟨moves, own, fits, acts, rfl, concluded⟩ := serial_commit (order_sound settings)
            (show fresh _ _ from ⟨fun _ => rfl, rfl, rfl, rfl⟩) run found current
          simp only [Service.machine, Service.settle, current] at read onward ⊢
          rcases clock_read_log read with old | ⟨call, same⟩
          · exact (ih now old).trans onward
          · cases same
            have reading : now = toMillis tx.pc.call.began := concluded.reports
            rw [reading]
            exact (whole_le _).trans (run_began run session tx found)
      | abort session tx found =>
          simp only [Service.machine, Service.giveUp] at read onward ⊢
          split at read
          · rcases clock_read_log read with old | ⟨_, same⟩
            · exact ih now old
            · cases same
          · exact ih now read
      | answer session reply tx next env found asked answered =>
          obtain ⟨question, value, responded⟩ := answered_responds answered
          rw [Env.clockRead, respond_log responded] at read
          exact (ih now read).trans onward
      | stimulus value env accepted =>
          have accepted : (orderService settings).stimulus before.env value = some env := accepted
          rw [Env.clockRead, (stimulus_same accepted).1] at read
          exact (ih now read).trans onward

end Runs

end Foc.Order
