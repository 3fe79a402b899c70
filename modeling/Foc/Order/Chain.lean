import Foc.Order.Programs

/-!
An errand's history is a chain: one entry for each version, each from the status
the entry before it left, and one announcement of every change of status.
-/
namespace Foc.Order
open Library Library.ReadCommitted Library.Transaction Library.Serial

/-- An announcement of this version of the errand, whatever it says of it. -/
def Payload.tells (id : Uuid) (version : Int) : Payload → Prop
  | .statusChanged errand _ _ _ orderVersion => errand.id = id ∧ orderVersion = version
  | _ => False

theorem tells_kind {payload : Payload} {id : Uuid} {version : Int}
    (tells : payload.tells id version) : payload.eventType = .statusChanged := by
  cases payload with
  | statusChanged => rfl
  | _ => cases tells

theorem announces_tells {payload : Payload} {id : Uuid} {previous : Option OrderStatus}
    {next : OrderStatus} {version : Int} (announces : payload.announces id previous next version) :
    payload.tells id version := by
  cases payload with
  | statusChanged => exact ⟨announces.1, announces.2.2.2⟩
  | _ => cases announces

/-- Two tellings of one payload are of the same errand and version. -/
theorem tells_same {payload : Payload} {id other : Uuid} {version version' : Int}
    (tells : payload.tells id version) (again : payload.tells other version') :
    other = id ∧ version' = version := by
  cases payload with
  | statusChanged => exact ⟨again.1.symm.trans tells.1, again.2.symm.trans tells.2⟩
  | _ => cases tells

/-! ## What an act does to an errand -/

def isAnnouncement (sent : Uuid × OutboxEvent) : Bool :=
  decide (sent.2.payload.eventType = .statusChanged)

/-- An act that adds a version to an errand. -/
structure Appends (view : View Row) (act : Act) (id : Uuid) (next : StoredOrder)
    (entry : HistoryEntry) : Prop where
  order : act.order id = some next
  entered : act.history id next.version = some entry
  alone : ∀ version, version ≠ next.version → act.history id version = none
  follows : (view (.order id) = none ∧ next.version = 1 ∧ entry.previousStatus = none) ∨
    ∃ before, view (.order id) = some before ∧ next.version = before.version + 1 ∧
      entry.previousStatus = some before.status
  arrives : entry.newStatus = next.status
  occurred : entry.occurredAt = toMicros (toMillis next.updatedAt)
  tells : ∀ sent ∈ act.sends, isAnnouncement sent = true →
    sent.2.payload.announces id entry.previousStatus entry.newStatus next.version
  once : act.sends.countP isAnnouncement =
    if entry.previousStatus = some entry.newStatus then 0 else 1

/-- An act that leaves an errand's version as it is. -/
structure Passes (view : View Row) (act : Act) (id : Uuid) : Prop where
  order : ∀ next, act.order id = some next → ∃ before, view (.order id) = some before ∧
    next.version = before.version ∧ next.status = before.status ∧
      next.updatedAt = before.updatedAt
  history : ∀ version, act.history id version = none
  silent : ∀ sent ∈ act.sends, ∀ version, ¬ sent.2.payload.tells id version

section Acts

variable {settings : Settings} {call : Call} {view : View Row} {act : Act} {acts : List Act}
  {id : Uuid}

/-- Each rule announces its step once if it leaves the status, and else not at all. -/
theorem announcing_rules : ∀ rule ∈ orderTransitions,
    rule.decision.emitted.count .statusChanged =
      if rule.status = rule.decision.target then 0 else 1 := by decide

theorem announcements_count {sent : List (Uuid × OutboxEvent)} {emitted : List EventType}
    (kinds : (sent.map Prod.snd).map (fun event => event.payload.eventType) = emitted) :
    sent.countP isAnnouncement = emitted.count .statusChanged := by
  rw [← kinds, List.count, List.countP_map, List.countP_map]
  apply List.countP_congr
  intro pair _
  simp [isAnnouncement]

theorem change_appends {cause : Cause} {before : StoredOrder} {applied : Applied}
    {sent : List (Uuid × OutboxEvent)} {entered : Option (UserId × String × KeyRow)}
    (does : Does settings call (.change cause before applied sent entered))
    (fits : Fits view (Act.change cause before applied sent entered).moves) :
    Appends view (.change cause before applied sent entered) cause.orderId.id applied.next
      applied.history := by
  obtain ⟨stepped, named, _, _, events⟩ := does_stepped does
  obtain ⟨rule, member, status, _, target, kinds, _⟩ := stepped.rule
  refine ⟨by simp [Act.order], by simp [Act.history], ?_, .inr ⟨before, fits.1, stepped.version,
    stepped.previous⟩, stepped.arrives, ?_, ?_, ?_⟩
  · intro version other
    simp [Act.history, Ne.symm other]
  · rw [stepped.occurred, stepped.stamped]
  · intro pair present announcement
    have among : pair.2 ∈ applied.events := events ▸ List.mem_map_of_mem present
    have said := stepped.announces pair.2 among (by simpa [isAnnouncement] using announcement)
    rwa [named, ← stepped.previous, ← stepped.arrives] at said
  · rw [← events] at kinds
    simp only [Act.sends]
    rw [announcements_count kinds, announcing_rules rule member, status, target, stepped.previous,
      stepped.arrives]
    simp

theorem create_appends {input : CreatePendingInput} {key requestHash : String} {orderId : Uuid}
    {now : Millis} {sent : List (Uuid × OutboxEvent)}
    (does : Does settings call (.create input key requestHash orderId now sent))
    (fits : Fits view (Act.create input key requestHash orderId now sent).moves) :
    Appends view (.create input key requestHash orderId now sent) orderId
      (pendingRow input orderId now) (creationHistory input now) := by
  cases does with
  | create caller key request supplierSnapshot correlationId orderId now change sent task made
      events =>
      obtain ⟨rfl, _⟩ := create_ok made
      refine ⟨by simp [Act.order], by simp [Act.history, pendingRow], ?_, .inl ⟨fits.1, rfl, rfl⟩,
        rfl, ?_, ?_, ?_⟩
      · intro version other
        simp only [pendingRow] at other
        simp [Act.history, Ne.symm other]
      · exact congrArg toMicros (millis_again now).symm
      · intro pair present announcement
        have among : pair.2 ∈ (creation _ orderId now).events :=
          events ▸ List.mem_map_of_mem present
        simp only [isAnnouncement, decide_eq_true_eq] at announcement
        simp only [creation, creationEvents, List.mem_cons, List.not_mem_nil, or_false] at among
        rcases among with same | same
        · rw [same]
          exact ⟨rfl, rfl, rfl, rfl⟩
        · rw [same] at announcement
          cases announcement
      · simp only [Act.sends]
        rw [announcements_count (congrArg _ events)]
        rfl

/-- Every act adds a version to an errand, with its entry and its announcement, or
leaves its version alone. -/
theorem act_appends (does : Does settings call act) (fits : Fits view act.moves) (id : Uuid) :
    Passes view act id ∨ ∃ next entry, Appends view act id next entry := by
  cases act with
  | change cause before applied sent entered =>
      have appends := change_appends does fits
      by_cases same : cause.orderId.id = id
      · subst same
        exact .inr ⟨_, _, appends⟩
      · refine .inl ⟨?_, ?_, ?_⟩
        · intro next written
          simp [Act.order, same] at written
        · intro version
          simp [Act.history, same]
        · intro pair present version tells
          have announces := appends.tells pair present (by simp [isAnnouncement, tells_kind tells])
          exact same (tells_same tells (announces_tells announces)).1
  | create input key requestHash orderId now sent =>
      have appends := create_appends does fits
      by_cases same : orderId = id
      · subst same
        exact .inr ⟨_, _, appends⟩
      · refine .inl ⟨?_, ?_, ?_⟩
        · intro next written
          simp [Act.order, same] at written
        · intro version
          simp [Act.history, same]
        · intro pair present version tells
          have announces := appends.tells pair present (by simp [isAnnouncement, tells_kind tells])
          exact same (tells_same tells (announces_tells announces)).1
  | note errand before mark =>
      refine .inl ⟨?_, fun _ => rfl, by simp [Act.sends]⟩
      intro next written
      simp only [Act.order] at written
      split at written
      · rename_i same
        subst same
        cases written
        exact ⟨before, fits.1, rfl, rfl, rfl⟩
      · cases written
  | record key row =>
      refine .inl ⟨by simp [Act.order], fun _ => rfl, ?_⟩
      cases does with
      | record _ _ plain =>
          intro pair present version tells
          cases key with
          | outbox eventId =>
              cases List.mem_singleton.mp present
              exact plain (tells_kind tells)
          | _ => cases present
  | keep key row => exact .inl ⟨by simp [Act.order], fun _ => rfl, by simp [Act.sends]⟩
  | lock number => exact .inl ⟨by simp [Act.order], fun _ => rfl, by simp [Act.sends]⟩

end Acts

/-! ## The chain -/

/-- An errand's history: an entry for each of its versions and no other, linked by
their statuses from its creation to its row, and each change of status announced
by one event. -/
structure Chain (view : View Row) (id : Uuid) : Prop where
  gapless : ∀ version, (∃ entry, view (.history id version) = some entry) ↔
    ∃ row, view (.order id) = some row ∧ 1 ≤ version ∧ version ≤ row.version
  reached : ∀ row, view (.order id) = some row → 1 ≤ row.version
  first : ∀ entry, view (.history id 1) = some entry → entry.previousStatus = none
  linked : ∀ version earlier later, view (.history id version) = some earlier →
    view (.history id (version + 1)) = some later →
    later.previousStatus = some earlier.newStatus
  last : ∀ row entry, view (.order id) = some row →
    view (.history id row.version) = some entry → entry.newStatus = row.status
  announced : ∀ version entry, view (.history id version) = some entry →
    entry.previousStatus ≠ some entry.newStatus →
    ∃ eventId event, view (.outbox eventId) = some event ∧
      event.payload.announces id entry.previousStatus entry.newStatus version ∧
      ∀ other event, view (.outbox other) = some event → event.payload.tells id version →
        other = eventId
  silent : ∀ version, (∀ entry, view (.history id version) = some entry →
      entry.previousStatus = some entry.newStatus) →
    ∀ eventId event, view (.outbox eventId) = some event → ¬ event.payload.tells id version

section Chains

variable {settings : Settings} {call : Call} {view : View Row} {act : Act} {id : Uuid}
  {next : StoredOrder} {entry : HistoryEntry}

theorem passes_chain (does : Does settings call act) (fits : Fits view act.moves)
    (passes : Passes view act id) (chain : Chain view id) : Chain (wrote view act.moves) id := by
  have history : ∀ version, wrote view act.moves (.history id version) =
      view (.history id version) := by
    intro version
    rw [act_history does fits, passes.history, Option.none_or]
  -- The row it leaves has the version and the status of the row before.
  have earlier : ∀ row, wrote view act.moves (.order id) = some row → ∃ before,
      view (.order id) = some before ∧ row.version = before.version ∧
        row.status = before.status := by
    intro row found
    rw [act_order does fits] at found
    cases leaves : act.order id with
    | none =>
        rw [leaves] at found
        exact ⟨row, found, rfl, rfl⟩
    | some other =>
        rw [leaves] at found
        cases found
        obtain ⟨before, present, version, status, _⟩ := passes.order _ leaves
        exact ⟨before, present, version, status⟩
  have later : ∀ before, view (.order id) = some before → ∃ row,
      wrote view act.moves (.order id) = some row ∧ row.version = before.version := by
    intro before present
    cases leaves : act.order id with
    | none => exact ⟨before, by rw [act_order does fits, leaves, present]; rfl, rfl⟩
    | some row =>
        obtain ⟨other, found, version, _⟩ := passes.order _ leaves
        cases present.symm.trans found
        exact ⟨row, by rw [act_order does fits, leaves]; rfl, version⟩
  have telling : ∀ eventId event, wrote view act.moves (.outbox eventId) = some event →
      ∀ version, event.payload.tells id version → view (.outbox eventId) = some event := by
    intro eventId event found version tells
    rcases (act_outbox does fits eventId event).mp found with old | new
    · exact old
    · exact absurd tells (passes.silent _ new version)
  constructor
  · intro version
    rw [history, chain.gapless]
    constructor
    · rintro ⟨before, present, low, high⟩
      obtain ⟨row, found, same⟩ := later before present
      exact ⟨row, found, low, same ▸ high⟩
    · rintro ⟨row, found, low, high⟩
      obtain ⟨before, present, same, _⟩ := earlier row found
      exact ⟨before, present, low, same ▸ high⟩
  · intro row found
    obtain ⟨before, present, same, _⟩ := earlier row found
    rw [same]
    exact chain.reached before present
  · intro entry found
    rw [history] at found
    exact chain.first entry found
  · intro version earlier later
    rw [history, history]
    exact chain.linked version earlier later
  · intro row entry found noted
    obtain ⟨before, present, version, status⟩ := earlier row found
    rw [history, version] at noted
    rw [status]
    exact chain.last before entry present noted
  · intro version entry noted moved
    rw [history] at noted
    obtain ⟨eventId, event, sent, announces, only⟩ := chain.announced version entry noted moved
    refine ⟨eventId, event, (act_outbox does fits eventId event).mpr (.inl sent), announces, ?_⟩
    intro other event found tells
    exact only other event (telling other event found version tells) tells
  · intro version still eventId event found tells
    apply chain.silent version _ eventId event (telling eventId event found version tells) tells
    intro entry noted
    exact still entry ((history version).trans noted)

/-- An act adds the version after the last. -/
theorem appends_version (appends : Appends view act id next entry) (chain : Chain view id) :
    1 ≤ next.version ∧ ∀ version,
      (∃ entry, view (.history id version) = some entry) ↔ 1 ≤ version ∧ version < next.version := by
  rcases appends.follows with ⟨absent, first, _⟩ | ⟨before, present, version, _⟩
  · refine ⟨by omega, fun version => ?_⟩
    rw [chain.gapless, absent]
    simp
    omega
  · have positive := chain.reached before present
    refine ⟨by omega, fun other => ?_⟩
    rw [chain.gapless, present]
    simp
    omega

theorem appends_chain (does : Does settings call act) (fits : Fits view act.moves)
    (appends : Appends view act id next entry) (chain : Chain view id) :
    Chain (wrote view act.moves) id := by
  obtain ⟨positive, versions⟩ := appends_version appends chain
  have row : wrote view act.moves (.order id) = some next := by
    rw [act_order does fits, appends.order]
    rfl
  have here : wrote view act.moves (.history id next.version) = some entry := by
    rw [act_history does fits, appends.entered]
    rfl
  have elsewhere : ∀ version, version ≠ next.version →
      wrote view act.moves (.history id version) = view (.history id version) := by
    intro version other
    rw [act_history does fits, appends.alone version other, Option.none_or]
  -- Nothing was told of the new version before.
  have untold : ∀ eventId event, view (.outbox eventId) = some event →
      ¬ event.payload.tells id next.version := by
    apply chain.silent
    intro old found
    have := (versions next.version).mp ⟨old, found⟩
    omega
  have sent : ∀ pair ∈ act.sends, ∀ version, pair.2.payload.tells id version →
      isAnnouncement pair = true ∧ version = next.version := by
    intro pair member version tells
    have announcement : isAnnouncement pair = true := by simp [isAnnouncement, tells_kind tells]
    have announces := appends.tells pair member announcement
    exact ⟨announcement, (tells_same (announces_tells announces) tells).2⟩
  constructor
  · intro version
    rw [row]
    by_cases same : version = next.version
    · subst same
      simp [here, positive]
    · rw [elsewhere version same, versions]
      simp
      omega
  · intro other found
    cases row.symm.trans found
    exact positive
  · intro other found
    by_cases same : (1 : Int) = next.version
    · rw [same, here] at found
      cases found
      rcases appends.follows with ⟨_, _, start⟩ | ⟨before, present, version, _⟩
      · exact start
      · have := chain.reached before present
        omega
    · rw [elsewhere 1 same] at found
      exact chain.first other found
  · intro version earlier later found followed
    have below : version < next.version := by
      by_contra beyond
      have after : version + 1 ≠ next.version := by omega
      rw [elsewhere _ after] at followed
      have := (versions (version + 1)).mp ⟨later, followed⟩
      omega
    rw [elsewhere version (by omega)] at found
    by_cases same : version + 1 = next.version
    · rw [same, here] at followed
      cases followed
      rcases appends.follows with ⟨absent, first, _⟩ | ⟨before, present, follows, previous⟩
      · have := (versions version).mp ⟨earlier, found⟩
        omega
      · have last : version = before.version := by omega
        rw [previous, chain.last before earlier present (last ▸ found)]
    · rw [elsewhere _ same] at followed
      exact chain.linked version earlier later found followed
  · intro other found present noted
    cases row.symm.trans present
    rw [here] at noted
    cases noted
    exact appends.arrives
  · intro version other noted moved
    by_cases same : version = next.version
    · subst same
      rw [here] at noted
      cases noted
      have one := appends.once
      rw [if_neg moved, List.countP_eq_length_filter] at one
      obtain ⟨pair, only⟩ := List.length_eq_one_iff.mp one
      have member : pair ∈ act.sends.filter isAnnouncement := by simp [only]
      obtain ⟨present, announcement⟩ := List.mem_filter.mp member
      refine ⟨pair.1, pair.2, (act_outbox does fits _ _).mpr (.inr present),
        appends.tells pair present announcement, ?_⟩
      intro eventId event found tells
      rcases (act_outbox does fits eventId event).mp found with old | new
      · exact absurd tells (untold eventId event old)
      · have among : (eventId, event) ∈ act.sends.filter isAnnouncement :=
          List.mem_filter.mpr ⟨new, (sent _ new _ tells).1⟩
        rw [only, List.mem_singleton] at among
        rw [← among]
    · rw [elsewhere version same] at noted
      obtain ⟨eventId, event, old, announces, only⟩ := chain.announced version other noted moved
      refine ⟨eventId, event, (act_outbox does fits _ _).mpr (.inl old), announces, ?_⟩
      intro eventId event found tells
      rcases (act_outbox does fits eventId event).mp found with old | new
      · exact only eventId event old tells
      · exact absurd (sent _ new version tells).2 same
  · intro version still eventId event found tells
    by_cases same : version = next.version
    · subst same
      have none := appends.once
      rw [if_pos (still entry here), List.countP_eq_zero] at none
      rcases (act_outbox does fits eventId event).mp found with old | new
      · exact untold eventId event old tells
      · exact none _ new (sent _ new _ tells).1
    · rcases (act_outbox does fits eventId event).mp found with old | new
      · apply chain.silent version _ eventId event old tells
        intro other noted
        exact still other ((elsewhere version same).trans noted)
      · exact same (sent _ new version tells).2

theorem act_chain (does : Does settings call act) (fits : Fits view act.moves)
    (chain : Chain view id) : Chain (wrote view act.moves) id := by
  rcases act_appends does fits id with passes | ⟨next, entry, appends⟩
  · exact passes_chain does fits passes chain
  · exact appends_chain does fits appends chain

theorem turn_chain {kept : Key → Prop} {before after : View Row × Env}
    (turn : OrderTurn settings kept before after) (chain : Chain before.1 id) :
    Chain after.1 id := by
  cases turn with
  | commit call result moves view env fits ended apart =>
      obtain ⟨acts, rfl, concluded⟩ := ended
      exact acts_keep (fun view => Chain view id) fits
        (fun act member middle fits => act_chain (concluded.does act member) fits) chain
  | refuse => exact chain
  | answer => exact chain
  | stimulus => exact chain

theorem empty_chain {view : View Row} (empty : ∀ key, view key = none) (id : Uuid) :
    Chain view id := by
  constructor <;> simp [empty]

theorem reached_chain {state : View Row × Env}
    (reached : Serial.Reached (orderService settings) (orderContract settings) state) (id : Uuid) :
    Chain state.1 id :=
  reached_keeps
    (fun _ _ (start : fresh _ _) => empty_chain start.1 id) (fun _ _ _ turn => turn_chain turn)
    reached

end Chains

/-! ## Whole runs -/

abbrev OrderWorld := World Row (Session Row Answer Failure Call Result) Env

abbrev OrderEvent := Event Key (Session Row Answer Failure Call Result) (Sigma Answer) Stimulus

abbrev OrderRun (settings : Settings) : OrderWorld → OrderWorld → Prop :=
  Run (orderService settings).machine (fun _ _ => True)

/-- The rows of errands: the rows themselves, their history and receipts, the keys
they were sent under and their events. -/
def Key.ofErrands : Key → Prop
  | .order _ | .history _ _ | .receipt _ | .receiptTransaction _ | .requesterKey _ _
  | .commandKey _ _ | .outbox _ => True
  | _ => False

/-- The event commits a call that was carried out. -/
def carriesOut (settings : Settings) (world : OrderWorld) (event : OrderEvent) : Prop :=
  ∃ id tx result, event = .commit id ∧ world.active.lookup id = some tx ∧
    (orderService settings).current tx.pc = .done result ∧ result.effective = true

section Runs

variable {settings : Settings} {call : Call} {view : View Row} {act : Act} {acts : List Act}

/-- Quiet acts leave the rows of errands alone. -/
theorem quiet_errands (does : Does settings call act) (quiet : act.quiet)
    (fits : Fits view act.moves) {key : Key} (errands : key.ofErrands) :
    wrote view act.moves key = view key := by
  cases act with
  | keep other row => rw [quiet_seen fits (.inl ⟨_, _, rfl⟩)]
  | lock number => rw [quiet_seen fits (.inr ⟨_, rfl⟩)]
  | record other row =>
      cases does with
      | record _ _ plain =>
          apply record_seen
          rintro rfl
          cases key with
          | outbox => exact quiet
          | _ => first | exact plain | exact errands
  | _ => cases quiet

theorem refusal_errands {result : Result} {env : Env}
    (concluded : Concluded settings call result view env acts) (fits : Fits view (flat acts))
    (refused : result.effective = false) {key : Key} (errands : key.ofErrands) :
    wrote view (flat acts) key = view key := by
  apply acts_keep (fun later => later key = view key) fits _ rfl
  intro act member middle fits same
  rw [quiet_errands (concluded.does act member) (concluded.quiet refused act member) fits errands]
  exact same

variable {allowed : OrderWorld → OrderEvent → Prop} {world after : OrderWorld} {clock : Micros}
  {suspended : List UserId} {event : OrderEvent}

theorem order_reached
    (run : Run (orderService settings).machine allowed
      (idle ∅ (Env.initial clock suspended)) world) :
    Serial.Reached (orderService settings) (orderContract settings)
      (world.committed.lookup, world.env) :=
  serial_reached (order_sound settings)
    (show fresh _ _ from ⟨fun _ => rfl, rfl, rfl, rfl⟩) run

theorem run_later (run : OrderRun settings (idle ∅ (Env.initial clock suspended)) world)
    (onward : OrderRun settings world after) :
    ViewLater world.committed.lookup after.committed.lookup ∧ EnvLater world.env after.env := by
  have hold := serial_hold (order_sound settings)
    (show fresh _ _ from ⟨fun _ => rfl, rfl, rfl, rfl⟩) run
  exact turns_later (run_change (order_sound settings) hold onward)

/-- What is not carried out leaves the rows of errands as they were. -/
theorem refused_errands
    (run : Run (orderService settings).machine allowed
      (idle ∅ (Env.initial clock suspended)) world)
    (stepped : step (orderService settings).machine world event = some after)
    (refused : ¬ carriesOut settings world event) {key : Key} (errands : key.ofErrands) :
    after.committed.lookup key = world.committed.lookup key := by
  cases step_moves stepped with
  | commit id tx found asked =>
      obtain ⟨result, current⟩ := commit_current asked
      obtain ⟨moves, own, fits, acts, rfl, concluded⟩ := serial_commit (order_sound settings)
        (show fresh _ _ from ⟨fun _ => rfl, rfl, rfl, rfl⟩) run found current
      rw [own, seen_at]
      apply refusal_errands concluded fits _ errands
      by_contra effective
      exact refused ⟨id, tx, result, rfl, found, current, by simpa using effective⟩
  | _ => rfl

/-- In every state that any number of processes reach together, every errand's
history is a chain; and what is refused, or throws, leaves errands, their history
and receipts, the keys and the outbox exactly as they were. -/
theorem history_chain (settings : Settings) (clock : Micros) (suspended : List UserId)
    (world : OrderWorld)
    (run : Run (orderService settings).machine (fun _ _ => True)
      (idle ∅ (Env.initial clock suspended)) world) :
    (∀ id, Chain world.committed.lookup id) ∧
      ∀ event after, step (orderService settings).machine world event = some after →
        ¬ carriesOut settings world event → ∀ key : Key, key.ofErrands →
          after.committed.lookup key = world.committed.lookup key :=
  ⟨reached_chain (order_reached run), fun _ _ stepped refused _ => refused_errands run stepped refused⟩

def plainSettings : Settings :=
  { periods := usual
    pickupTimeout := 600000
    retryAfter := 60000
    batchSize := 10
    hashtext := fun _ => 0
    sha256 := id }

def requestOne : CreateRequest :=
  { supplierId := written 7
    items := errandOne.request.items
    deliveryZone := "COM1"
    deliveryInstructions := "lobby"
    reward := 2 }

def reservationOne : Reservation := { orderId := written 1, requesterId := "u1", amount := 2 }

/-- A call as its process starts it. -/
def calling (began : Micros) (task : Task) : Session Row Answer Failure Call Result :=
  { call := { began, task }, program := none }

/-- Locking one row: the statement begins, takes the row and ends. -/
def locking (id : Nat) (key : Key) : List OrderEvent :=
  [.run id none, .run id (some key), .run id none]

/-- Recording one event under the next id. -/
def sending (id : Nat) (eventId : Uuid) : List OrderEvent :=
  [.answer id ⟨.randomUUID, eventId⟩, .run id none]

/-- A transition that applies and announces itself once. -/
def moving (id : Nat) (key : Key) (eventId : Uuid) : List OrderEvent :=
  locking id key ++ locking id key ++ [.run id none] ++ sending id eventId

/-- The errand is created, as order 1. -/
def creating : List OrderEvent :=
  [ .begin 1 (calling 0 (.create requesterOne "k" requestOne errandOne.supplierSnapshot "c")),
    .run 1 none ] ++ locking 1 (.advisory 0) ++
  [ .run 1 none, .answer 1 ⟨.randomUUID, (1 : Uuid)⟩, .answer 1 ⟨.serviceClock, (0 : Millis)⟩,
    .run 1 none, .run 1 none, .run 1 none ] ++ sending 1 2 ++ sending 1 3 ++ [.commit 1]

/-- Its credits are reserved, and it is open. -/
def opening : List OrderEvent :=
  [.begin 2 (calling 0 (.reservation envelopeOne reservationOne .reserved)), .run 2 none] ++
    locking 2 (.order 1) ++ [.answer 2 ⟨.isSuspended "u1", Suspension.mk false 0⟩] ++ moving 2 (.order 1) 4 ++
    [.commit 2]

theorem opened_chain : ∃ world : OrderWorld,
    Run (orderService plainSettings).machine (fun _ _ => True) (idle ∅ (Env.initial 0 [])) world ∧
    ((world.committed.lookup (.order 1)).map fun row => (row.status, row.version)) =
      some (.opened, 2) ∧
    Chain world.committed.lookup 1 := by
  have reached : (steps (orderService plainSettings).machine (fun _ _ => True)
      (idle ∅ (Env.initial 0 [])) (creating ++ opening)).map (fun world =>
        (world.committed.lookup (.order 1)).map fun row => (row.status, row.version)) =
      some (some (.opened, 2)) := by rfl
  obtain ⟨world, stepped, row⟩ := Option.map_eq_some_iff.mp reached
  have run := run_steps .refl _ stepped
  exact ⟨world, run, row, (history_chain plainSettings 0 [] world run).1 1⟩

end Runs

end Foc.Order
