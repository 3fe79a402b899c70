import Foc.Order.Runs

/-!
Repairing what an errand waits for: how far apart two attempts are, what an attempt
asks Credit for again, and that it leaves the errand alone.
-/
namespace Foc.Order
open Library Library.ReadCommitted Library.Transaction Library.Serial

/-! ## Requests to Credit -/

section Requests

variable {settings : Settings} {call : Call} {view : View Row} {act : Act} {acts : List Act}
  {id : Uuid}

/-- An errand asks Credit for the same as long as its status is the same. -/
theorem request_later {row next : StoredOrder} (later : OrderLater row next)
    (status : next.status = row.status) :
    creditRequest (mapOrder next) = creditRequest (mapOrder row) := by
  have same := later.same
  cases waits : row.status with
  | completionPendingCredit =>
      have courier := (later.fixed (by rw [waits]; rfl)).2
      simp [creditRequest, emittedEvent, mapOrder, status, waits, courier, same.orderId,
        same.requesterId, same.reward]
  | _ =>
      simp [creditRequest, emittedEvent, mapOrder, status, waits, same.orderId, same.requesterId,
        same.reward]

theorem requesting_rules : ∀ rule ∈ orderTransitions, rule.decision.target ≠ .pendingCredit ∧
    (rule.decision.target = .completionPendingCredit →
      .completionRequested ∈ rule.decision.emitted) ∧
    (rule.decision.target = .releasePendingCredit → .releaseRequested ∈ rule.decision.emitted) := by
  decide

theorem emits_request {command : TransitionCommand} {before after : OrderRow} {now : Millis}
    {emitted : List EventType} {events : List OutboxEvent} {eventType : EventType}
    (each : List.Forall₂ (fun eventType event =>
      eventFor command before after now eventType = .ok event) emitted events)
    (member : eventType ∈ emitted) :
    ∃ event ∈ events, emittedEvent before after now eventType = .ok event.payload := by
  induction each with
  | nil => cases member
  | cons made rest ih =>
      rcases List.mem_cons.mp member with rfl | later
      · obtain ⟨payload, emits, made⟩ := bind_ok made
        obtain ⟨rfl, _⟩ := outbox_ok made
        exact ⟨_, List.mem_cons_self, emits⟩
      · obtain ⟨event, among, emits⟩ := ih later
        exact ⟨event, List.mem_cons_of_mem _ among, emits⟩

/-- A change asks Credit for what its new status waits for. -/
theorem change_requests {cause : Cause} {periods : Periods} {tx : Micros} {before : StoredOrder}
    {applied : Applied} {payload : Payload} (fitting : cause.fitting)
    (applies : cause.applies periods tx before applied)
    (waits : creditRequest (mapOrder applied.next) = .ok payload) :
    ∃ event ∈ applied.events, event.payload = payload := by
  cases cause with
  | acceptance orderId caller expectedVersion correlationId =>
      obtain ⟨rfl, _⟩ := accept_ok applies.2
      cases waits
  | transition command =>
      obtain ⟨rule, member, _, _, _, target, _, writes⟩ := transition_rule fitting applies
      obtain ⟨never, completion, release⟩ := requesting_rules rule member
      have each := events_each writes.events
      have read : (mapOrder applied.next).status = applied.next.status := rfl
      unfold creditRequest at waits
      split at waits
      · rename_i pending
        exact absurd (target.trans (read.symm.trans pending)) never
      · rename_i pending
        obtain ⟨event, among, emits⟩ := emits_request each
          (completion (target.trans (read.symm.trans pending)))
        refine ⟨event, among, Except.ok.inj (emits.symm.trans ?_)⟩
        exact waits
      · rename_i pending
        obtain ⟨event, among, emits⟩ := emits_request each
          (release (target.trans (read.symm.trans pending)))
        refine ⟨event, among, Except.ok.inj (emits.symm.trans ?_)⟩
        exact waits
      · cases waits

theorem creation_requests {input : CreatePendingInput} {now : Millis} {payload : Payload}
    (waits : creditRequest (mapOrder (pendingRow input id now)) = .ok payload) :
    ∃ event ∈ creationEvents input id now, event.payload = payload := by
  cases waits
  exact ⟨_, List.mem_cons_of_mem _ List.mem_cons_self, rfl⟩

/-- What an act sends is new, and stays. -/
theorem acts_send (does : ∀ act ∈ acts, Does settings call act) (fits : Fits view (flat acts))
    (member : act ∈ acts) {eventId : Uuid} {event : OutboxEvent}
    (sends : (eventId, event) ∈ act.sends) :
    view (.outbox eventId) = none ∧ wrote view (flat acts) (.outbox eventId) = some event := by
  induction acts generalizing view with
  | nil => cases member
  | cons first rest ih =>
      have here : Does settings call first := does first List.mem_cons_self
      have others : ∀ other ∈ rest, Does settings call other :=
        fun other member => does other (List.mem_cons_of_mem _ member)
      rw [flat_cons, fits_append] at fits
      rw [flat_cons, wrote_append]
      rcases List.mem_cons.mp member with rfl | later
      · refine ⟨act_outbox_new fits.1 sends, ?_⟩
        apply acts_keep (fun view => view (.outbox eventId) = some event) fits.2
        · intro other member middle fits found
          exact (act_outbox (others other member) fits eventId event).mpr (.inl found)
        · exact (act_outbox here fits.1 eventId event).mpr (.inr sends)
      · obtain ⟨absent, found⟩ := ih others fits.2 later
        refine ⟨?_, found⟩
        cases old : view (.outbox eventId) with
        | none => rfl
        | some other =>
            have still := (act_outbox here fits.1 eventId other).mpr (.inl old)
            rw [absent] at still
            cases still

/-- The row an act leaves, and the row that is left in the end. -/
theorem acts_left {first rest : List Act} (does : ∀ act ∈ acts, Does settings call act)
    (fits : Fits view (flat acts)) (split : acts = first ++ act :: rest) {next : StoredOrder}
    (leaves : act.order id = some next) :
    ∃ last, wrote view (flat acts) (.order id) = some last ∧ OrderLater next last := by
  subst split
  rw [flat_append, fits_append, flat_cons, fits_append] at fits
  rw [flat_append, wrote_append, flat_cons, wrote_append]
  have here := does act (List.mem_append_right _ List.mem_cons_self)
  have later : ∀ other ∈ rest, Does settings call other := fun other member =>
    does other (List.mem_append_right _ (List.mem_cons_of_mem _ member))
  apply (acts_later later fits.2.2).orders
  rw [act_order here fits.2.1, leaves]
  rfl

end Requests

/-! ## Attempts -/

section Attempts

variable {settings : Settings} {call : Call} {view : View Row} {acts : List Act}

/-- Two attempts to repair one errand are apart. -/
def Spaced (settings : Settings) (view : View Row) : Prop :=
  ∀ first second attempt other, view (.attempt first) = some attempt →
    view (.attempt second) = some other → first ≠ second → attempt.orderId = other.orderId →
    attempt.attemptedAt + settings.retryAfter * 1000 ≤ other.attemptedAt ∨
      other.attemptedAt + settings.retryAfter * 1000 ≤ attempt.attemptedAt

theorem acts_attempt (does : ∀ act ∈ acts, Does settings call act) (fits : Fits view (flat acts))
    {id : Uuid} {attempt : Attempt} (found : wrote view (flat acts) (.attempt id) = some attempt) :
    view (.attempt id) = some attempt ∨ .record (.attempt id) attempt ∈ acts := by
  have kept := acts_keep (fun now => ∀ attempt, now (.attempt id) = some attempt →
      view (.attempt id) = some attempt ∨ .record (.attempt id) attempt ∈ acts) fits
    (by
      intro act member middle fits earlier attempt found
      rcases act_attempt (does act member) fits found with old | rfl
      · exact earlier attempt old
      · exact .inr member)
    (fun _ found => .inl found)
  exact kept attempt found

/-- A call attempts one repair. -/
theorem attempted_once {input : Reconciliation} {id other : Uuid} {attempt again : Attempt}
    (attempted : Attempted settings call input view acts id attempt)
    (also : .record (.attempt other) again ∈ acts) : other = id := by
  obtain ⟨row, more, _, _, _, reissues, rfl⟩ := attempted.observed
  simp only [List.mem_cons, List.mem_append, List.not_mem_nil, or_false, reduceCtorEq,
    false_or] at also
  rcases also with early | last
  · cases action : input.action <;> simp only [Reissues, action] at reissues
    · obtain ⟨eventId, payload, _, _, rfl⟩ := reissues
      simp at early
    · rcases reissues with rfl | rfl <;> simp at early
    · subst reissues
      cases early
  · simp only [Act.record.injEq, Key.attempt.injEq] at last
    exact last.1

theorem spaced_apart (earlier began apart : Int) (spaced : earlier ≤ began - apart) :
    earlier + apart ≤ began := by omega

theorem reached_spaced {state : View Row × Env}
    (reached : Serial.Reached (orderService settings) (orderContract settings) state) :
    Spaced settings state.1 := by
  apply reached_keeps ?_ ?_ reached
  · rintro view env ⟨empty, _⟩ first second attempt other found
    simp [empty] at found
  · intro before after _ turn spaced
    cases turn with
    | commit call result moves view env fits ended _ =>
        obtain ⟨acts, rfl, concluded⟩ := ended
        intro first second attempt other found present different same
        have new (id : Uuid) (attempt : Attempt) (recorded : .record (.attempt id) attempt ∈ acts)
            (earlier : Uuid) (old : Attempt) (there : view (.attempt earlier) = some old)
            (same : old.orderId = attempt.orderId) :
            old.attemptedAt + settings.retryAfter * 1000 ≤ attempt.attemptedAt := by
          obtain ⟨input, attempted⟩ := concluded.recorded id attempt recorded
          rw [attempted.attemptedAt]
          exact spaced_apart _ _ _
            (attempted.spaced earlier old there (same.trans attempted.order))
        rcases acts_attempt concluded.does fits found with old | recorded
        · rcases acts_attempt concluded.does fits present with also | recorded
          · exact spaced first second attempt other old also different same
          · exact .inl (new second other recorded first attempt old same)
        · rcases acts_attempt concluded.does fits present with old | also
          · exact .inr (new first attempt recorded second other old same.symm)
          · obtain ⟨input, attempted⟩ := concluded.recorded first attempt recorded
            exact absurd (attempted_once attempted also).symm different
    | refuse => exact spaced
    | answer => exact spaced
    | stimulus => exact spaced

end Attempts

/-! ## Whole runs -/

section Runs

variable {settings : Settings} {clock : Micros} {suspended : List UserId} {world after : OrderWorld}
  {event : OrderEvent} {id : Uuid}

/-- The commit that left an entry sent what the row waits for as long as it stays. -/
theorem step_sends (run : OrderRun settings (idle ∅ (Env.initial clock suspended)) world)
    (stepped : step (orderService settings).machine world event = some after) {version : Int}
    {entry : HistoryEntry} (absent : world.committed.lookup (.history id version) = none)
    (noted : after.committed.lookup (.history id version) = some entry) {view : View Row}
    (onward : ViewLater after.committed.lookup view) {row : StoredOrder}
    (found : view (.order id) = some row) (status : row.status = entry.newStatus)
    {payload : Payload} (waits : creditRequest (mapOrder row) = .ok payload) :
    ∃ eventId sent, world.committed.lookup (.outbox eventId) = none ∧
      after.committed.lookup (.outbox eventId) = some sent ∧ sent.payload = payload := by
  rcases step_commits run stepped with same | ⟨session, tx, result, acts, commits⟩
  · have still := (congrFun same (.history id version)).symm.trans noted
    rw [absent] at still
    cases still
  · have concluded := commits.concluded
    have noted := (congrFun commits.written (.history id version)).symm.trans noted
    rw [commits.written] at onward
    -- What an act left of the errand asks for the same as the row there is now.
    have asks {act : Act} {first rest : List Act} (next : StoredOrder)
        (split : acts = first ++ act :: rest) (leaves : act.order id = some next)
        (arrives : next.status = entry.newStatus) :
        creditRequest (mapOrder next) = .ok payload := by
      obtain ⟨last, left, later⟩ := acts_left concluded.does commits.fits split leaves
      obtain ⟨other, present, further⟩ := onward.orders id last left
      cases found.symm.trans present
      rw [← waits, request_later (order_later_trans later further) (status.trans arrives.symm)]
    have sends {act : Act} {first rest : List Act} {sent : List (Uuid × OutboxEvent)}
        {events : List OutboxEvent} (split : acts = first ++ act :: rest) (is : act.sends = sent)
        (all : sent.map Prod.snd = events) (asked : ∃ event ∈ events, event.payload = payload) :
        ∃ eventId sent, world.committed.lookup (.outbox eventId) = none ∧
          after.committed.lookup (.outbox eventId) = some sent ∧ sent.payload = payload := by
      obtain ⟨event, among, same⟩ := asked
      rw [← all] at among
      obtain ⟨⟨eventId, _⟩, member, rfl⟩ := List.mem_map.mp among
      obtain ⟨new, there⟩ := acts_send concluded.does commits.fits
        (by rw [split]; exact List.mem_append_right _ List.mem_cons_self) (is ▸ member)
      exact ⟨eventId, _, new, (congrFun commits.written (.outbox eventId)).trans there, same⟩
    cases acts_entry concluded.does commits.fits absent noted with
    | creation first rest input key requestHash now sent split starts same =>
        have does := concluded.does (.create input key requestHash id now sent) (by simp [split])
        subst same
        have waits := asks (pendingRow input id now) split (by simp [Act.order]) rfl
        cases does with
        | create caller key request supplierSnapshot correlationId orderId now change sent task
            applied events =>
            obtain ⟨rfl, _⟩ := create_ok applied
            exact sends split rfl events (creation_requests waits)
    | change first rest cause before applied sent entered split named present next same =>
        have does := concluded.does (.change cause before applied sent entered) (by simp [split])
        obtain ⟨stepped, _, issued, applies, events⟩ := does_stepped does
        subst same
        have waits := asks applied.next split (by simp [Act.order, named]) stepped.arrives.symm
        exact sends split rfl events (change_requests (issues_fitting issued) applies waits)

/-- The commit that led an errand to its version sent the request before. -/
def Originally (settings : Settings) (clock : Micros) (suspended : List UserId)
    (world : OrderWorld) (id : Uuid) (row : StoredOrder) (payload : Payload) : Prop :=
  ∃ before event after eventId sent,
    OrderRun settings (idle ∅ (Env.initial clock suspended)) before ∧
    step (orderService settings).machine before event = some after ∧
    OrderRun settings after world ∧
    before.committed.lookup (.history id row.version) = none ∧
    (∃ entry, after.committed.lookup (.history id row.version) = some entry ∧
      entry.newStatus = row.status) ∧
    before.committed.lookup (.outbox eventId) = none ∧
    after.committed.lookup (.outbox eventId) = some sent ∧ sent.payload = payload

theorem requested_originally (run : OrderRun settings (idle ∅ (Env.initial clock suspended)) world)
    {row : StoredOrder} (found : world.committed.lookup (.order id) = some row) {payload : Payload}
    (waits : creditRequest (mapOrder row) = .ok payload) :
    Originally settings clock suspended world id row payload := by
  have chain := reached_chain (order_reached run) id
  obtain ⟨entry, noted⟩ := (chain.gapless row.version).mpr
    ⟨row, found, chain.reached row found, le_refl _⟩
  have status := chain.last row entry found noted
  obtain ⟨before, event, after, start, stepped, onward, unnoted, was⟩ := run_first
    (fun world : OrderWorld => world.committed.lookup (.history id row.version) ≠ none) run
    (fun present => present rfl) (by
      intro none
      cases none.symm.trans noted)
  have absent : before.committed.lookup (.history id row.version) = none := by simpa using unnoted
  have later := (run_later (start.next event trivial stepped) onward).1
  -- The entry the commit left is the one that is there still.
  have left : after.committed.lookup (.history id row.version) = some entry := by
    obtain ⟨other, there⟩ := Option.ne_none_iff_exists'.mp was
    cases noted.symm.trans (later.histories id row.version other there)
    exact there
  obtain ⟨eventId, sent, new, there, same⟩ :=
    step_sends start stepped absent left later found status.symm waits
  exact ⟨before, event, after, eventId, sent, start, stepped, onward, absent, ⟨entry, left, status⟩,
    new, there, same⟩

/-- What a recorded attempt to repair an errand did: it found the errand as it had been
observed, and asked Credit once more for what its status waits for, or for nothing. -/
structure Repaired (settings : Settings) (clock : Micros) (suspended : List UserId)
    (world after : OrderWorld) (input : Reconciliation) (attempt : Attempt) (row : StoredOrder) :
    Prop where
  order : attempt.orderId = input.orderId
  found : world.committed.lookup (.order input.orderId) = some row
  status : row.status = input.status
  version : row.version = input.version
  reissued : attempt.action = .reissue → ∃ eventId event,
    attempt.reissuedEventId = some eventId ∧
    world.committed.lookup (.outbox eventId) = none ∧
    (∀ other, after.committed.lookup (.outbox other) =
      if other = eventId then some event else world.committed.lookup (.outbox other)) ∧
    event.aggregateId = written row.orderId ∧
    creditRequest (mapOrder row) = .ok event.payload ∧
    Originally settings clock suspended world input.orderId row event.payload
  otherwise : attempt.action ≠ .reissue → ∀ other,
    after.committed.lookup (.outbox other) = world.committed.lookup (.outbox other)

theorem attempted_repaired (run : OrderRun settings (idle ∅ (Env.initial clock suspended)) world)
    {call : Call} {input : Reconciliation} {acts : List Act} {attemptId : Uuid} {attempt : Attempt}
    (attempted : Attempted settings call input world.committed.lookup acts attemptId attempt)
    (fits : Fits world.committed.lookup (flat acts))
    (leaves : after.committed.lookup = wrote world.committed.lookup (flat acts)) :
    ∃ row, Repaired settings clock suspended world after input attempt row := by
  obtain ⟨row, more, found, status, version, reissues, rfl⟩ := attempted.observed
  have action := attempted.action
  have kept : wrote world.committed.lookup (Act.keep (.order input.orderId) row).moves =
      world.committed.lookup := by
    rw [flat_cons, fits_append] at fits
    exact quiet_seen fits.1 (.inl ⟨_, row, rfl⟩)
  have left (other : Uuid) : after.committed.lookup (.outbox other) =
      wrote world.committed.lookup (flat more) (.outbox other) := by
    have left := congrFun leaves (.outbox other)
    rw [flat_cons, wrote_append, kept, flat_append, wrote_append, flat_cons, wrote_append, flat_nil,
      wrote_nil, record_seen (by simp)] at left
    exact left
  refine ⟨row, attempted.order, found, status, version, ?_, ?_⟩
  · intro again
    simp only [Reissues, action.symm.trans again] at reissues
    obtain ⟨eventId, payload, issued, waits, rfl⟩ := reissues
    refine ⟨eventId, ⟨written row.orderId, payload, input.correlationId, none⟩, issued, ?_, ?_, rfl,
      waits, requested_originally run found waits⟩
    · rw [flat_cons, fits_append, kept, flat_append, fits_append] at fits
      exact fits.2.1.1
    · intro other
      rw [left]
      by_cases same : other = eventId
      · subst same
        simp [Act.moves, mapOrder]
      · simp [Act.moves, same]
  · intro plain other
    rw [left]
    cases is : input.action with
    | reissue => exact absurd (action.trans is) plain
    | alert =>
        simp only [Reissues, is] at reissues
        rcases reissues with rfl | rfl
        · rfl
        · simp [Act.moves]
    | creditUnavailable =>
        simp only [Reissues, is] at reissues
        rw [reissues]
        rfl

/-- A repair leaves errands, their history and their receipts alone. -/
theorem reconcile_keeps {call : Call} {view : View Row} {acts : List Act} {input : Reconciliation}
    (task : call.task = .reconcile input) (does : ∀ act ∈ acts, Does settings call act)
    (fits : Fits view (flat acts)) {key : Key} (errands : key.ofErrands)
    (other : ∀ id, key ≠ .outbox id) : wrote view (flat acts) key = view key := by
  apply acts_keep (fun later => later key = view key) fits _ rfl
  intro act member middle fits same
  rw [← same]
  have issues (cause : Cause) : ¬ Issues settings call.task cause := by
    rw [task]
    nofun
  cases does act member with
  | keep => rw [quiet_seen fits (.inl ⟨_, _, rfl⟩)]
  | lock => rw [quiet_seen fits (.inr ⟨_, rfl⟩)]
  | change cause _ _ _ _ issued => exact absurd issued (issues cause)
  | keyed cause _ _ _ _ issued => exact absurd issued (issues cause)
  | create _ _ _ _ _ _ _ _ _ made => cases task.symm.trans made
  | note id before mark marks =>
      rcases marks with ⟨_, ⟨_, made, _⟩ | ⟨made, _⟩⟩ <;> cases task.symm.trans made
  | record recorded row plain =>
      apply record_seen
      rintro rfl
      cases key with
      | outbox id => exact other id rfl
      | _ => first | exact plain | exact errands

/-- Attempts to repair an errand are apart, ask Credit again for what the errand has
been waiting for, once, and leave the errand alone. -/
theorem reconciliation_repairs_once (settings : Settings) (clock : Micros)
    (suspended : List UserId) (world : OrderWorld)
    (run : OrderRun settings (idle ∅ (Env.initial clock suspended)) world) :
    (∀ first second attempt other, world.committed.lookup (.attempt first) = some attempt →
      world.committed.lookup (.attempt second) = some other → first ≠ second →
      attempt.orderId = other.orderId →
      attempt.attemptedAt + settings.retryAfter * 1000 ≤ other.attemptedAt ∨
        other.attemptedAt + settings.retryAfter * 1000 ≤ attempt.attemptedAt) ∧
    (∀ event after attemptId attempt, step (orderService settings).machine world event = some after →
      world.committed.lookup (.attempt attemptId) = none →
      after.committed.lookup (.attempt attemptId) = some attempt →
      ∃ session tx input row, event = .commit session ∧ world.active.lookup session = some tx ∧
        tx.pc.call.task = .reconcile input ∧
        Repaired settings clock suspended world after input attempt row) ∧
    ∀ session after tx input,
      step (orderService settings).machine world (.commit session) = some after →
      world.active.lookup session = some tx → tx.pc.call.task = .reconcile input →
      ∀ key : Key, key.ofErrands → (∀ id, key ≠ .outbox id) →
        after.committed.lookup key = world.committed.lookup key := by
  refine ⟨reached_spaced (order_reached run), ?_, ?_⟩
  · intro event after attemptId attempt stepped absent noted
    rcases step_commits run stepped with same | ⟨session, tx, result, acts, commits⟩
    · have still := (congrFun same (.attempt attemptId)).symm.trans noted
      rw [absent] at still
      cases still
    · have noted := (congrFun commits.written (.attempt attemptId)).symm.trans noted
      rcases acts_attempt commits.concluded.does commits.fits noted with old | recorded
      · rw [absent] at old
        cases old
      · obtain ⟨input, attempted⟩ := commits.concluded.recorded attemptId attempt recorded
        obtain ⟨row, repaired⟩ := attempted_repaired run attempted commits.fits commits.written
        exact ⟨session, tx, input, row, commits.is, commits.found, attempted.task, repaired⟩
  · intro session after tx input stepped active task key errands other
    rcases step_commits run stepped with same | ⟨_, _, result, acts, commits⟩
    · exact congrFun same key
    · cases commits.is
      cases active.symm.trans commits.found
      exact (congrFun commits.written key).trans
        (reconcile_keeps task commits.concluded.does commits.fits errands other)

def candidate : Reconciliation :=
  { orderId := 1
    status := .pendingCredit
    version := 1
    runId := 8
    creditStatus := none
    creditDetail := none
    action := .reissue
    correlationId := "c" }

/-- A run asks Credit again for the reservation of order 1; only the commit is left. -/
def repairing : List OrderEvent :=
  [.begin 2 (calling 60000000 (.reconcile candidate))] ++ locking 2 (.order 1) ++
    [.run 2 none] ++ sending 2 9 ++ sending 2 10

theorem reserved_again : ∃ (world after : OrderWorld) (attempt : Attempt) (row : StoredOrder),
    OrderRun plainSettings (idle ∅ (Env.initial 0 [])) world ∧ attempt.action = .reissue ∧
    Repaired plainSettings 0 [] world after candidate attempt row := by
  have reached : (steps (orderService plainSettings).machine (fun _ _ => True)
      (idle ∅ (Env.initial 0 [])) (creating ++ [.stimulus (.tick 60000000)] ++ repairing)).bind
        (fun before => (step (orderService plainSettings).machine before (.commit 2)).map
          fun after => ((before.committed.lookup (.attempt 10)).isNone,
            (after.committed.lookup (.attempt 10)).map Attempt.action,
            (before.active.lookup 2).map fun tx => tx.pc.call.task)) =
      some (true, some .reissue, some (.reconcile candidate)) := by rfl
  obtain ⟨world, stepped, reached⟩ := Option.bind_eq_some_iff.mp reached
  obtain ⟨after, commits, seen⟩ := Option.map_eq_some_iff.mp reached
  simp only [Prod.mk.injEq] at seen
  obtain ⟨unrecorded, recorded, active⟩ := seen
  obtain ⟨attempt, found, action⟩ := Option.map_eq_some_iff.mp recorded
  have run := run_steps .refl _ stepped
  obtain ⟨session, tx, input, row, same, present, task, repaired⟩ :=
    (reconciliation_repairs_once plainSettings 0 [] world run).2.1 _ after 10 attempt commits
      (Option.isNone_iff_eq_none.mp unrecorded) found
  cases same
  rw [present, Option.map_some, Option.some.injEq, task] at active
  cases active
  exact ⟨world, after, attempt, row, run, action, repaired⟩

end Runs

end Foc.Order
