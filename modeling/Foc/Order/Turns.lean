import Foc.Order.Effects

/-!
What stays true from one transaction to the next: an errand and its history are
never taken back, who takes part in it is settled once it is under way, a key
keeps its order, and the service's answers and log only grow.
-/
namespace Foc.Order
open Library Library.ReadCommitted Library.Transaction Library.Serial

/-! ## Time passing -/

/-- A row of an errand and a later one. -/
structure OrderLater (row next : StoredOrder) : Prop where
  same : SameRequest row next
  version : row.version ≤ next.version
  fixed : partiesFixed row.status = true →
    partiesFixed next.status = true ∧ next.courierId = row.courierId
  shown : row.status ≠ .pendingCredit → row.status ≠ .rejected →
    next.status ≠ .pendingCredit ∧ next.status ≠ .rejected
  gone : suspendable next.status = true → suspendable row.status = true
  period : partiesFixed row.status = true → next.nonDeliveryReportAt = row.nonDeliveryReportAt

structure ViewLater (before after : View Row) : Prop where
  slots : ∀ slot held, slotRow before slot = some held → slotRow after slot = some held
  orders : ∀ id row, before (.order id) = some row →
    ∃ next, after (.order id) = some next ∧ OrderLater row next
  histories : ∀ id version entry, before (.history id version) = some entry →
    after (.history id version) = some entry
  accepted : ∀ id row, before (.order id) = some row → partiesFixed row.status = true →
    ∀ version entry, after (.history id version) = some entry → entry.action = .action .accept →
      before (.history id version) = some entry

structure EnvLater (before after : Env) : Prop where
  clock : before.clock ≤ after.clock
  log : ∀ entry ∈ before.log, entry ∈ after.log
  answers : ∀ answer ∈ before.answers, answer ∈ after.answers
  lifted : ∀ userId, before.lifted userId ≤ after.lifted userId
  suspended : ∀ userId ∈ before.suspended,
    userId ∈ after.suspended ∨ before.lifted userId < after.lifted userId
  told : ∀ call userId, (call, userId, false) ∈ after.answers →
    (call, userId, false) ∈ before.answers ∨ userId ∉ before.suspended ∨
      before.lifted userId < after.lifted userId

theorem order_later_refl (row : StoredOrder) : OrderLater row row :=
  ⟨by constructor <;> rfl, le_refl _, fun fixed => ⟨fixed, rfl⟩, fun pending rejected =>
    ⟨pending, rejected⟩, id, fun _ => rfl⟩

theorem order_later_trans {first second third : StoredOrder} (before : OrderLater first second)
    (after : OrderLater second third) : OrderLater first third := by
  refine ⟨same_trans before.same after.same, before.version.trans after.version, ?_, ?_,
    before.gone ∘ after.gone, ?_⟩
  · intro fixed
    obtain ⟨middle, courier⟩ := before.fixed fixed
    obtain ⟨last, same⟩ := after.fixed middle
    exact ⟨last, same.trans courier⟩
  · intro pending rejected
    obtain ⟨pending, rejected⟩ := before.shown pending rejected
    exact after.shown pending rejected
  · intro fixed
    exact (after.period (before.fixed fixed).1).trans (before.period fixed)

theorem view_later_refl (view : View Row) : ViewLater view view :=
  ⟨fun _ _ held => held, fun _ row found => ⟨row, found, order_later_refl row⟩,
    fun _ _ _ found => found, fun _ _ _ _ _ _ found _ => found⟩

theorem view_later_trans {first second third : View Row} (before : ViewLater first second)
    (after : ViewLater second third) : ViewLater first third := by
  constructor
  · intro slot held found
    exact after.slots slot held (before.slots slot held found)
  · intro id row found
    obtain ⟨middle, present, earlier⟩ := before.orders id row found
    obtain ⟨next, last, later⟩ := after.orders id middle present
    exact ⟨next, last, order_later_trans earlier later⟩
  · intro id version entry found
    exact after.histories id version entry (before.histories id version entry found)
  · intro id row found fixed version entry last accepts
    obtain ⟨middle, present, earlier⟩ := before.orders id row found
    have there := after.accepted id middle present (earlier.fixed fixed).1 version entry last accepts
    exact before.accepted id row found fixed version entry there accepts

theorem env_later_refl (env : Env) : EnvLater env env :=
  ⟨le_refl _, fun _ member => member, fun _ member => member, fun _ => le_refl _,
    fun _ member => .inl member, fun _ _ member => .inl member⟩

theorem env_later_trans {first second third : Env} (before : EnvLater first second)
    (after : EnvLater second third) : EnvLater first third := by
  refine ⟨before.clock.trans after.clock, fun entry member => after.log entry (before.log entry member),
    fun answer member => after.answers answer (before.answers answer member),
    fun userId => (before.lifted userId).trans (after.lifted userId), ?_, ?_⟩
  · intro userId member
    rcases before.suspended userId member with still | back
    · exact (after.suspended userId still).imp_right (before.lifted userId).trans_lt
    · exact .inr (back.trans_le (after.lifted userId))
  · intro call userId told
    rcases after.told call userId told with earlier | free | back
    · rcases before.told call userId earlier with first | free | back
      · exact .inl first
      · exact .inr (.inl free)
      · exact .inr (.inr (back.trans_le (after.lifted userId)))
    · by_cases member : userId ∈ first.suspended
      · rcases before.suspended userId member with still | back
        · exact absurd still free
        · exact .inr (.inr (back.trans_le (after.lifted userId)))
      · exact .inr (.inl member)
    · exact .inr (.inr ((before.lifted userId).trans_lt back))

theorem prepared_later {env env' : Env} (later : EnvLater env env') {task : Task}
    (ready : prepared env task = true) : prepared env' task = true := by
  have more {test : Call × Except Failure Result → Bool} (some : env.log.any test = true) :
      env'.log.any test = true := by
    obtain ⟨outcome, member, passes⟩ := List.any_eq_true.mp some
    exact List.any_eq_true.mpr ⟨outcome, later.log outcome member, passes⟩
  cases task with
  | command caller key request correlationId =>
      cases request with
      | resolve => exact more ready
      | _ => rfl
  | timer timer =>
      cases timer with
      | undelivered =>
          simp only [prepared, Bool.and_eq_true] at ready ⊢
          exact ⟨more ready.1, more ready.2⟩
      | _ => exact more ready
  | deliveryOverdue | inquire | clearSuspended => exact more ready
  | consider => exact more ready
  | unassign =>
      simp only [prepared, Bool.and_eq_true] at ready ⊢
      exact ⟨more ready.1, more ready.2⟩
  | assign =>
      simp only [prepared, Bool.and_eq_true] at ready ⊢
      exact ⟨more ready.1, more ready.2⟩
  | _ => rfl

/-! ## Acts -/

section Acts

variable {settings : Settings} {call : Call} {view : View Row} {act : Act} {acts : List Act}

/-- What every act keeps, all of them keep. -/
theorem acts_keep (invariant : View Row → Prop) (fits : Fits view (flat acts))
    (step : ∀ act ∈ acts, ∀ view, Fits view act.moves → invariant view →
      invariant (wrote view act.moves))
    (initially : invariant view) : invariant (wrote view (flat acts)) := by
  induction acts generalizing view with
  | nil => exact initially
  | cons act rest ih =>
      rw [flat_cons, fits_append] at fits
      rw [flat_cons, wrote_append]
      exact ih fits.2 (fun other member => step other (List.mem_cons_of_mem _ member))
        (step act List.mem_cons_self view fits.1 initially)

theorem issues_fitting {task : Task} {cause : Cause} (issues : Issues settings task cause) :
    cause.fitting := by
  cases issues with
  | accept => trivial
  | act caller key orderId action =>
      exact issued_fitting (.participant _ _ _ _ _ action.property)
  | resolve => exact issued_fitting (.resolve ..)
  | reserved => exact issued_fitting (.reserved ..)
  | rejected => exact .rejection ..
  | released => exact .release ..
  | transferred => exact .transfer ..
  | suspended envelope userId orderId part status action tried =>
      exact issued_fitting (.suspension _ _ _ status _ tried)
  | timer timer orderId now correlationId =>
      cases timer with
      | expire => exact issued_fitting (.expire ..)
      | pickupTimeout => exact issued_fitting (.pickupTimeout ..)
      | autoConfirm => exact issued_fitting (.autoConfirm ..)
      | undelivered => exact issued_fitting (.undelivered ..)
  | unassign => exact .unassign
  | assign => exact .assign _

/-- The change of an act, whichever it is. -/
theorem does_stepped {cause : Cause} {before : StoredOrder} {applied : Applied}
    {sent : List (Uuid × OutboxEvent)} {entered : Option (UserId × String × KeyRow)}
    (does : Does settings call (.change cause before applied sent entered)) :
    Stepped cause call.began before applied ∧ before.orderId = cause.orderId.id ∧
      Issues settings call.task cause ∧ cause.applies settings.periods call.began before applied ∧
      sent.map Prod.snd = applied.events := by
  cases does with
  | change _ _ _ _ named issued applies events =>
      exact ⟨applies_stepped named.symm (issues_fitting issued) applies, named, issued, applies, events⟩
  | keyed _ _ _ _ named issued applies events =>
      exact ⟨applies_stepped named.symm (issues_fitting issued) applies, named, issued, applies, events⟩

theorem fixed_rules : ∀ rule ∈ orderTransitions, partiesFixed rule.status = true →
    partiesFixed rule.decision.target = true ∧ rule.action ≠ .accept := by decide

theorem shown_rules : ∀ rule ∈ orderTransitions, rule.decision.target ≠ .pendingCredit ∧
    (rule.status ≠ .pendingCredit → rule.decision.target ≠ .rejected) := by decide

theorem suspendable_rules : ∀ rule ∈ orderTransitions,
    (suspendable rule.decision.target = true → suspendable rule.status = true) ∧
    (rule.action = .recordPickup → partiesFixed rule.status = false) := by decide

theorem stepped_later {cause : Cause} {tx : Micros} {before : StoredOrder} {applied : Applied}
    (stepped : Stepped cause tx before applied) : OrderLater before applied.next := by
  obtain ⟨rule, member, status, action, target, _, _⟩ := stepped.rule
  refine ⟨stepped.same, by rw [stepped.version]; omega, ?_, ?_, ?_, ?_⟩
  · intro fixed
    rw [← status] at fixed
    refine ⟨target ▸ (fixed_rules rule member fixed).1, ?_⟩
    rcases stepped.courier with same | ⟨loose, _⟩
    · exact same
    · rw [← status, fixed] at loose
      cases loose
  · intro pending _
    have shown := shown_rules rule member
    rw [status, target] at shown
    exact ⟨shown.1, shown.2 pending⟩
  · rw [← target, ← status]
    exact (suspendable_rules rule member).1
  · intro fixed
    rcases stepped.delivery with same | pickup
    · exact same
    · have loose := (suspendable_rules rule member).2 (action.trans pickup)
      rw [status, fixed] at loose
      cases loose

theorem note_later (before : StoredOrder) (mark : Option Micros) :
    OrderLater before { before with requesterSuspendedAt := mark } :=
  ⟨by constructor <;> rfl, le_refl _, fun fixed => ⟨fixed, rfl⟩, fun pending rejected =>
    ⟨pending, rejected⟩, id, fun _ => rfl⟩

theorem act_order_later (does : Does settings call act) (fits : Fits view act.moves) {id : Uuid}
    {row : StoredOrder} (found : view (.order id) = some row) :
    ∃ next, wrote view act.moves (.order id) = some next ∧ OrderLater row next := by
  rw [act_order does fits, found]
  cases leaves : act.order id with
  | none => exact ⟨row, rfl, order_later_refl row⟩
  | some next =>
      refine ⟨next, rfl, ?_⟩
      cases act with
      | change cause before applied sent entered =>
          simp only [Act.order] at leaves
          split at leaves
          · rename_i same
            subst same
            cases leaves
            have before' : view (.order cause.orderId.id) = some before := fits.1
            cases found.symm.trans before'
            exact stepped_later (does_stepped does).1
          · cases leaves
      | create input key requestHash orderId now sent =>
          simp only [Act.order] at leaves
          split at leaves
          · rename_i same
            subst same
            have absent : view (.order orderId) = none := fits.1
            rw [absent] at found
            cases found
          · cases leaves
      | note errand before mark =>
          simp only [Act.order] at leaves
          split at leaves
          · rename_i same
            subst same
            cases leaves
            have before' : view (.order errand) = some before := fits.1
            cases found.symm.trans before'
            exact note_later row mark
          · cases leaves
      | _ => cases leaves

theorem act_later (does : Does settings call act) (fits : Fits view act.moves) :
    ViewLater view (wrote view act.moves) := by
  constructor
  · intro slot held found
    exact (act_slot does fits slot held).mpr (.inl found)
  · intro id row found
    exact act_order_later does fits found
  · intro id version entry found
    rw [act_history does fits]
    cases writes : act.history id version with
    | none => simpa using found
    | some other =>
        rw [act_history_new fits writes] at found
        cases found
  · intro id row found fixed version entry present accepts
    rw [act_history does fits] at present
    cases writes : act.history id version with
    | none => simpa [writes] using present
    | some other =>
        rw [writes] at present
        cases present
        cases act with
        | change cause before applied sent entered =>
            simp only [Act.history] at writes
            split at writes
            · rename_i same
              obtain ⟨rfl, rfl⟩ := same
              cases writes
              have before' : view (.order cause.orderId.id) = some before := fits.1
              cases found.symm.trans before'
              have stepped := (does_stepped does).1
              obtain ⟨rule, member, status, action, _⟩ := stepped.rule
              rw [← status] at fixed
              have other := (fixed_rules rule member fixed).2
              rw [stepped.action] at accepts
              exact absurd (action.trans (HistoryAction.action.inj accepts)) other
            · cases writes
        | create input key requestHash orderId now sent =>
            simp only [Act.history] at writes
            split at writes
            · cases writes
              cases accepts
            · cases writes
        | _ => cases writes

theorem acts_later (does : ∀ act ∈ acts, Does settings call act) (fits : Fits view (flat acts)) :
    ViewLater view (wrote view (flat acts)) := by
  apply acts_keep (ViewLater view) fits
  · intro act member middle fits later
    exact view_later_trans later (act_later (does act member) fits)
  · exact view_later_refl view

end Acts

/-! ## Turns -/

section Turns

variable {settings : Settings} {kept : Key → Prop} {before after : View Row × Env}

theorem log_later (env : Env) (outcome : Call × Except Failure Result) :
    EnvLater env { env with log := outcome :: env.log } :=
  ⟨le_refl _, fun _ member => List.mem_cons_of_mem _ member, fun _ member => member,
    fun _ => le_refl _, fun _ member => .inl member, fun _ _ member => .inl member⟩

theorem respond_later {env after : Env} {call : Call} {question : Ask} {value : Answer question}
    (responded : respond env call question value = some after) : EnvLater env after := by
  cases question with
  | randomUUID =>
      cases responded
      exact env_later_refl _
  | serviceClock =>
      cases responded
      exact env_later_refl _
  | isSuspended userId =>
      simp only [respond] at responded
      split at responded
      · rename_i truth
        cases responded
        refine ⟨le_refl _, fun _ member => member, fun _ member => List.mem_cons_of_mem _ member,
          fun _ => le_refl _, fun _ member => .inl member, ?_⟩
        intro other asked member
        rcases List.mem_cons.mp member with same | earlier
        · simp only [Prod.mk.injEq] at same
          obtain ⟨_, rfl, no⟩ := same
          rw [truth] at no
          exact .inr (.inl (by simpa using no.symm))
        · exact .inl earlier
      · cases responded

theorem stimulus_later {env after : Env} {value : Stimulus}
    (accepted : (orderService settings).stimulus env value = some after) : EnvLater env after := by
  cases value with
  | tick clock =>
      simp only [orderService] at accepted
      split at accepted
      · rename_i later
        cases accepted
        exact ⟨later, fun _ member => member, fun _ member => member, fun _ => le_refl _,
          fun _ member => .inl member, fun _ _ member => .inl member⟩
      · cases accepted
  | suspend userId =>
      cases accepted
      exact ⟨le_refl _, fun _ member => member, fun _ member => member, fun _ => le_refl _,
        fun _ member => .inl (List.mem_cons_of_mem _ member), fun _ _ member => .inl member⟩
  | reactivate userId =>
      cases accepted
      refine ⟨le_refl _, fun _ member => member, fun _ member => member,
        fun _ => List.count_le_count_cons, ?_, fun _ _ member => .inl member⟩
      intro other member
      by_cases same : other = userId
      · subst same
        exact .inr (by simp [Env.lifted])
      · exact .inl (List.mem_filter.mpr ⟨member, by simpa using same⟩)

theorem stimulus_same {env after : Env} {value : Stimulus}
    (accepted : (orderService settings).stimulus env value = some after) :
    after.log = env.log ∧ after.answers = env.answers := by
  cases value with
  | tick clock =>
      simp only [orderService] at accepted
      split at accepted
      · cases accepted
        exact ⟨rfl, rfl⟩
      · cases accepted
  | suspend userId =>
      cases accepted
      exact ⟨rfl, rfl⟩
  | reactivate userId =>
      cases accepted
      exact ⟨rfl, rfl⟩

theorem respond_log {env after : Env} {call : Call} {question : Ask} {value : Answer question}
    (responded : respond env call question value = some after) : after.log = env.log := by
  cases question with
  | randomUUID =>
      cases responded
      rfl
  | serviceClock =>
      cases responded
      rfl
  | isSuspended userId =>
      simp only [respond] at responded
      split at responded
      · cases responded
        rfl
      · cases responded

theorem turn_later (turn : OrderTurn settings kept before after) :
    ViewLater before.1 after.1 ∧ EnvLater before.2 after.2 := by
  cases turn with
  | commit call result moves view env fits ended apart =>
      obtain ⟨acts, rfl, concluded⟩ := ended
      exact ⟨acts_later concluded.does fits, log_later env _⟩
  | refuse call error view env ended => exact ⟨view_later_refl _, log_later env _⟩
  | answer call ask value view env after asked responded =>
      exact ⟨view_later_refl _, respond_later responded⟩
  | stimulus value view env after accepted => exact ⟨view_later_refl _, stimulus_later accepted⟩

theorem turns_later (turns : OrderTurns settings kept before after) :
    ViewLater before.1 after.1 ∧ EnvLater before.2 after.2 := by
  induction turns with
  | refl => exact ⟨view_later_refl _, env_later_refl _⟩
  | tail _ turn ih =>
      obtain ⟨view, env⟩ := turn_later turn
      exact ⟨view_later_trans ih.1 view, env_later_trans ih.2 env⟩

theorem mem_flat {act : Act} {acts : List Act} (member : act ∈ acts) {key : Key}
    (touches : touched act.moves key) : touched (flat acts) key := by
  obtain ⟨move, present, same⟩ := List.mem_map.mp touches
  exact List.mem_map.mpr ⟨move, List.mem_flatMap.mpr ⟨act, member, present⟩, same⟩

/-- While its lock is held nobody else uses a key. -/
theorem turns_unused {slot : Slot} (turns : OrderTurns settings kept before after)
    (held : kept (.advisory (lockOf settings slot))) (unused : slotRow before.1 slot = none) :
    slotRow after.1 slot = none := by
  apply turns_keep (fun _ _ turn unused => ?_) turns unused
  cases turn with
  | commit call result moves view env fits ended apart =>
      obtain ⟨acts, rfl, concluded⟩ := ended
      apply acts_keep (fun view => slotRow view slot = none) fits _ unused
      intro act member middle fits unused
      by_contra entered
      obtain ⟨row, found⟩ := Option.ne_none_iff_exists'.mp entered
      rcases (act_slot (concluded.does act member) fits slot row).mp found with old | enters
      · rw [unused] at old
        cases old
      · have locks := concluded.locked act member slot row enters
        exact apart _ (mem_flat locks (by simp [Act.moves])) held
  | refuse => exact unused
  | answer => exact unused
  | stimulus => exact unused

theorem act_attempt {settings : Settings} {call : Call} {view : View Row} {act : Act}
    (does : Does settings call act) (fits : Fits view act.moves) {id : Uuid} {attempt : Attempt}
    (found : wrote view act.moves (.attempt id) = some attempt) :
    view (.attempt id) = some attempt ∨ act = .record (.attempt id) attempt := by
  cases does with
  | keep key row =>
      rw [quiet_seen fits (.inl ⟨key, row, rfl⟩)] at found
      exact .inl found
  | lock lock =>
      rw [quiet_seen fits (.inr ⟨lock, rfl⟩)] at found
      exact .inl found
  | change cause before applied sent =>
      rw [wrote_other] at found
      · exact .inl found
      · simp only [Act.moves, touched_cons, reduceCtorEq, false_or]
        exact change_other (by simp) (by simp) (by simp) (by simp)
  | keyed cause before applied sent =>
      rw [wrote_other] at found
      · exact .inl found
      · simp only [Act.moves, touched_cons, reduceCtorEq, false_or]
        exact change_other (by simp) (by simp) (by simp) (by simp)
  | create =>
      rw [wrote_other] at found
      · exact .inl found
      · simp [Act.moves, sent_other]
  | note =>
      rw [wrote_other] at found
      · exact .inl found
      · simp [Act.moves]
  | record key row =>
      by_cases same : Key.attempt id = key
      · subst same
        refine .inr ?_
        have written : some row = some attempt := by simpa [Act.moves] using found
        rw [Option.some.inj written]
      · rw [record_seen same] at found
        exact .inl found

/-- While an order is locked nobody else attempts to repair it. -/
theorem turns_attempts {id : Uuid} (holds : Attempt → Prop)
    (turns : OrderTurns settings kept before after) (held : kept (.order id))
    (all : ∀ other earlier, before.1 (.attempt other) = some earlier → earlier.orderId = id →
      holds earlier) :
    ∀ other earlier, after.1 (.attempt other) = some earlier → earlier.orderId = id →
      holds earlier := by
  apply turns_keep (fun _ _ turn all => ?_) turns all
  cases turn with
  | commit call result moves view env fits ended apart =>
      obtain ⟨acts, rfl, concluded⟩ := ended
      refine acts_keep (fun view => ∀ other earlier, view (.attempt other) = some earlier →
        earlier.orderId = id → holds earlier) fits ?_ all
      intro act member middle fits all other earlier found same
      rcases act_attempt (concluded.does act member) fits found with old | rfl
      · exact all other earlier old same
      · obtain ⟨input, attempted⟩ := concluded.recorded other earlier member
        obtain ⟨row, more, _, _, _, _, rfl⟩ := attempted.observed
        have here : input.orderId = id := attempted.order.symm.trans same
        exact absurd held (apart _ (by simp [Act.moves, here]))
  | refuse => exact all
  | answer => exact all
  | stimulus => exact all

/-- Once an errand is under way nobody else comes to take part. -/
theorem took_part_fixed {before after : View Row} (later : ViewLater before after) {id : Uuid}
    {row : StoredOrder} (found : before (.order id) = some row)
    (fixed : partiesFixed row.status = true) {userId : UserId}
    (took : TookPart after id userId) : TookPart before id userId := by
  rcases took with ⟨next, present, parties⟩ | ⟨version, entry, present, accepts, actor⟩
  · obtain ⟨same, reached, order⟩ := later.orders id row found
    cases present.symm.trans reached
    refine .inl ⟨row, found, ?_⟩
    rw [← order.same.requesterId, ← (order.fixed fixed).2]
    exact parties
  · exact .inr ⟨version, entry, later.accepted id row found fixed version entry present accepts,
      accepts, actor⟩

end Turns

/-! ## What holds in every state -/

/-- The order a key stands for is one its user can see. -/
def Slot.sees (row : StoredOrder) : Slot → Prop
  | .requester requesterId _ => row.requesterId = requesterId
  | .command _ _ => row.status ≠ .pendingCredit ∧ row.status ≠ .rejected

structure Standing (view : View Row) (env : Env) : Prop where
  named : ∀ id row, view (.order id) = some row → row.orderId = id
  free : ∀ lock, view (.advisory lock) = none
  slots : ∀ slot held, slotRow view slot = some held →
    ∃ row, view (.order held.orderId) = some row ∧ slot.sees row
  listed : ∀ id, env.listed id (fun _ => true) = true →
    ∃ row, view (.order id) = some row ∧ partiesFixed row.status = true
  cleared : ∀ id userId, Cleared env id userId →
    ∃ row, view (.order id) = some row ∧ row.requesterId = userId
  suspended : ∀ userId, SuspensionDone env userId → userId ∈ env.suspended
  lifted : ∀ call envelope userId lifted, (call, .ok (.suspensionHandled true lifted)) ∈ env.log →
    call.task = .suspended envelope userId → lifted ≤ env.lifted userId

section Standing

variable {settings : Settings} {call : Call} {view : View Row} {env : Env} {act : Act}
  {acts : List Act}

theorem act_named (does : Does settings call act) (fits : Fits view act.moves)
    (named : ∀ id row, view (.order id) = some row → row.orderId = id) :
    ∀ id row, wrote view act.moves (.order id) = some row → row.orderId = id := by
  intro id row found
  rw [act_order does fits] at found
  cases leaves : act.order id with
  | none =>
      rw [leaves] at found
      exact named id row found
  | some next =>
      rw [leaves] at found
      cases found
      cases act with
      | change cause before applied sent entered =>
          simp only [Act.order] at leaves
          split at leaves
          · rename_i same
            subst same
            cases leaves
            obtain ⟨stepped, named, _⟩ := does_stepped does
            exact stepped.same.orderId.trans named
          · cases leaves
      | create input key requestHash orderId now sent =>
          simp only [Act.order] at leaves
          split at leaves
          · rename_i same
            cases leaves
            exact same
          · cases leaves
      | note errand before mark =>
          simp only [Act.order] at leaves
          split at leaves
          · rename_i same
            cases leaves
            have before' : view (.order errand) = some before := fits.1
            exact (named errand before before').trans same
          · cases leaves
      | _ => cases leaves

theorem command_rules : ∀ rule ∈ orderTransitions, rule.action ≠ .creditRejected →
    rule.decision.target ≠ .pendingCredit ∧ rule.decision.target ≠ .rejected := by decide

/-- A person's command is about the errand it names, and leaves it in public. -/
theorem command_issues {caller : AuthContext} {key : Option String} {request : UserRequest}
    {correlationId : String} {cause : Cause}
    (issues : Issues settings (.command caller key request correlationId) cause) :
    cause.orderId = request.orderId ∧ cause.action = request.action ∧
      cause.action ≠ .creditRejected ∧ cause.actorId = some caller.userId := by
  cases issues with
  | accept => exact ⟨rfl, rfl, nofun, rfl⟩
  | act caller key orderId action =>
      refine ⟨rfl, rfl, ?_, rfl⟩
      intro rejected
      have routed := action.property
      rw [show action.val = .creditRejected from rejected] at routed
      exact absurd routed (by decide)
  | resolve caller key orderId outcome => cases outcome <;> exact ⟨rfl, rfl, nofun, rfl⟩

theorem act_slots (does : Does settings call act) (fits : Fits view act.moves)
    (slots : ∀ slot held, slotRow view slot = some held →
      ∃ row, view (.order held.orderId) = some row ∧ slot.sees row) :
    ∀ slot held, slotRow (wrote view act.moves) slot = some held →
      ∃ row, wrote view act.moves (.order held.orderId) = some row ∧ slot.sees row := by
  intro slot held found
  rcases (act_slot does fits slot held).mp found with old | enters
  · obtain ⟨row, present, sees⟩ := slots slot held old
    obtain ⟨next, after, later⟩ := act_order_later does fits present
    refine ⟨next, after, ?_⟩
    cases slot with
    | requester requesterId key => exact later.same.requesterId.trans sees
    | command callerId key => exact later.shown sees.1 sees.2
  · cases does with
    | keyed cause before applied sent named issued applies events caller key request
        correlationId task =>
        obtain ⟨rfl, rfl⟩ := enters
        rw [task] at issued
        obtain ⟨errand, _, living, _⟩ := command_issues issued
        have stepped := applies_stepped named.symm (issues_fitting issued) applies
        obtain ⟨rule, member, status, action, target, _⟩ := stepped.rule
        have shown := command_rules rule member (by rwa [action])
        rw [target] at shown
        refine ⟨applied.next, ?_, shown⟩
        rw [act_order (.keyed cause before applied sent named (task ▸ issued) applies events caller
          key request correlationId task) fits]
        simp [Act.order, errand]
    | create caller key request supplierSnapshot correlationId orderId now applied sent task made
        events =>
        obtain ⟨rfl, rfl⟩ := enters
        refine ⟨pendingRow (pendingInput caller request supplierSnapshot correlationId) orderId now,
          ?_, rfl⟩
        rw [act_order (.create caller key request supplierSnapshot correlationId orderId now applied
          sent task made events) fits]
        simp [Act.order]
    | _ => cases enters

theorem standing_later {before after : View Row} {env env' : Env} (standing : Standing before env)
    (view : ViewLater before after)
    (named : ∀ id row, after (.order id) = some row → row.orderId = id)
    (free : ∀ lock, after (.advisory lock) = none)
    (slots : ∀ slot held, slotRow after slot = some held →
      ∃ row, after (.order held.orderId) = some row ∧ slot.sees row)
    (listed : ∀ id, env'.listed id (fun _ => true) = true → env.listed id (fun _ => true) = true ∨
      ∃ row, before (.order id) = some row ∧ partiesFixed row.status = true)
    (cleared : ∀ id userId, Cleared env' id userId → Cleared env id userId ∨
      ∃ row, before (.order id) = some row ∧ row.requesterId = userId)
    (suspended : ∀ userId, SuspensionDone env' userId → userId ∈ env'.suspended)
    (lifted : ∀ call envelope userId lifted,
      (call, .ok (.suspensionHandled true lifted)) ∈ env'.log →
      call.task = .suspended envelope userId → lifted ≤ env'.lifted userId) :
    Standing after env' := by
  refine ⟨named, free, slots, ?_, ?_, suspended, lifted⟩
  · intro id found
    obtain ⟨row, present, fixed⟩ := (listed id found).elim (standing.listed id) fun here => here
    obtain ⟨next, last, later⟩ := view.orders id row present
    exact ⟨next, last, (later.fixed fixed).1⟩
  · intro id userId asked
    obtain ⟨row, present, requester⟩ :=
      (cleared id userId asked).elim (standing.cleared id userId) fun here => here
    obtain ⟨next, last, later⟩ := view.orders id row present
    exact ⟨next, last, later.same.requesterId.trans requester⟩

theorem listed_log {outcome : Call × Except Failure Result} {id : Uuid}
    (found : { env with log := outcome :: env.log }.listed id (fun _ => true) = true) :
    env.listed id (fun _ => true) = true ∨
      ∃ call disputes dispute, outcome = (call, .ok (.disputes disputes)) ∧ dispute ∈ disputes ∧
        dispute.1 = id := by
  simp only [Env.listed, List.any_cons, Bool.or_eq_true] at found ⊢
  rcases found with here | old
  · split at here
    · rename_i call disputes
      obtain ⟨dispute, member, same⟩ := List.any_eq_true.mp here
      refine .inr ⟨call, disputes, dispute, rfl, member, ?_⟩
      simpa using same
    · cases here
  · exact .inl old

theorem suspension_log {outcome : Call × Except Failure Result} {userId : UserId}
    (done : SuspensionDone { env with log := outcome :: env.log } userId) :
    SuspensionDone env userId ∨ ∃ call envelope,
      outcome = (call, .ok (.suspensionHandled true (env.lifted userId))) ∧
        call.task = .suspended envelope userId := by
  obtain ⟨call, envelope, member, task⟩ := done
  rcases List.mem_cons.mp member with here | old
  · exact .inr ⟨call, envelope, here.symm, task⟩
  · exact .inl ⟨call, envelope, old, task⟩

/-- A suspension that counts now was carried out, and counted, before. -/
theorem suspension_before {before after : View Row × Env} (standing : Standing before.1 before.2)
    (later : EnvLater before.2 after.2) (same : after.2.log = before.2.log) {userId : UserId}
    (done : SuspensionDone after.2 userId) :
    SuspensionDone before.2 userId ∧ after.2.lifted userId = before.2.lifted userId := by
  obtain ⟨call, envelope, member, task⟩ := done
  rw [same] at member
  have bound := standing.lifted call envelope userId _ member task
  have still : after.2.lifted userId = before.2.lifted userId :=
    bound.antisymm (later.lifted userId)
  rw [still] at member
  exact ⟨⟨call, envelope, member, task⟩, still⟩

/-- Every turn keeps what stands. -/
theorem turn_standing {kept : Key → Prop} {before after : View Row × Env}
    (turn : OrderTurn settings kept before after) (standing : Standing before.1 before.2) :
    Standing after.1 after.2 := by
  have later := (turn_later turn).1
  cases turn with
  | commit call result moves view env fits ended apart =>
      obtain ⟨acts, rfl, concluded⟩ := ended
      have rows := acts_keep (fun view =>
        (∀ id row, view (.order id) = some row → row.orderId = id) ∧
        (∀ lock, view (.advisory lock) = none) ∧
        ∀ slot held, slotRow view slot = some held →
          ∃ row, view (.order held.orderId) = some row ∧ slot.sees row) fits
        (fun act member middle fits ⟨named, free, slots⟩ =>
          ⟨act_named (concluded.does act member) fits named,
            act_advisory (concluded.does act member) fits free,
            act_slots (concluded.does act member) fits slots⟩)
        ⟨standing.named, standing.free, standing.slots⟩
      refine standing_later standing later rows.1 rows.2.1 rows.2.2 ?_ (fun _ _ => .inl) ?_ ?_
      · intro id found
        rcases listed_log found with old | ⟨_, disputes, dispute, same, member, rfl⟩
        · exact .inl old
        · cases same
          exact .inr (concluded.reports dispute member)
      · intro userId done
        rcases suspension_log done with old | ⟨_, envelope, same, task⟩
        · exact standing.suspended userId old
        · cases same
          exact ((concluded.suspended envelope userId _ task rfl).2 rfl).1
      · intro other envelope userId lifted member task
        rcases List.mem_cons.mp member with here | old
        · cases here
          exact (concluded.suspended envelope userId lifted task rfl).1
        · exact standing.lifted other envelope userId lifted old task
  | refuse call error view env ended =>
      refine standing_later standing later standing.named standing.free standing.slots ?_
        (fun _ _ => .inl) ?_ ?_
      · intro id found
        rcases listed_log found with old | ⟨_, _, _, same, _⟩
        · exact .inl old
        · cases same
      · intro userId done
        rcases suspension_log done with old | ⟨_, _, same, _⟩
        · exact standing.suspended userId old
        · cases same
      · intro other envelope userId lifted member task
        rcases List.mem_cons.mp member with here | old
        · cases here
        · exact standing.lifted other envelope userId lifted old task
  | answer call ask value view env after asked responded =>
      cases ask with
      | randomUUID =>
          cases responded
          exact standing
      | serviceClock =>
          cases responded
          exact standing
      | isSuspended asked' =>
          have told : respond env call (.isSuspended asked') value = some after := responded
          simp only [respond] at told
          split at told
          · cases told
            refine standing_later standing later standing.named standing.free standing.slots
              (fun _ => .inl) ?_ standing.suspended standing.lifted
            rintro id userId ⟨other, envelope, payload, reply, member, task, rfl⟩
            rcases List.mem_cons.mp member with here | old
            · simp only [Prod.mk.injEq] at here
              obtain ⟨rfl, rfl, _⟩ := here
              exact .inr (asked.2 envelope payload reply task)
            · exact .inl ⟨other, envelope, payload, reply, old, task, rfl⟩
          · cases told
  | stimulus value view env after accepted =>
      have moved := stimulus_later accepted
      have same := stimulus_same accepted
      refine standing_later standing later standing.named standing.free standing.slots ?_ ?_ ?_ ?_
      · intro id found
        refine .inl ?_
        rwa [Env.listed, same.1] at found
      · intro id userId cleared
        refine .inl ?_
        rwa [Cleared, same.2] at cleared
      · intro userId done
        obtain ⟨counted, still⟩ := suspension_before standing moved same.1 done
        rcases moved.suspended userId (standing.suspended userId counted) with held | back
        · exact held
        · exact absurd still back.ne'
      · intro call envelope userId lifted member task
        rw [same.1] at member
        exact (standing.lifted call envelope userId lifted member task).trans (moved.lifted userId)

/-- While a reply that was told its requester is not suspended holds the errand,
no suspension of theirs is carried out. -/
theorem turns_unhandled {kept : Key → Prop} {before after : View Row × Env}
    (standing : Standing before.1 before.2) (turns : OrderTurns settings kept before after)
    {id : Uuid} {row : StoredOrder} {userId : UserId} (held : kept (.order id))
    (found : before.1 (.order id) = some row) (loose : partiesFixed row.status = false)
    (cleared : Cleared before.2 id userId) (unhandled : ¬ SuspensionDone before.2 userId) :
    Standing after.1 after.2 ∧ ¬ SuspensionDone after.2 userId := by
  have waits : suspendable row.status = true := by
    cases status : row.status <;> rw [status] at loose <;> first | rfl | cases loose
  induction turns with
  | refl => exact ⟨standing, unhandled⟩
  | tail earlier turn ih =>
      rename_i middle last
      obtain ⟨standing, unhandled⟩ := ih
      have same : middle.1 (.order id) = some row := (turns_same earlier held).trans found
      have asked : Cleared middle.2 id userId := by
        obtain ⟨call, envelope, payload, reply, member, task⟩ := cleared
        exact ⟨call, envelope, payload, reply, (turns_later earlier).2.answers _ member, task⟩
      refine ⟨turn_standing turn standing, fun done => unhandled ?_⟩
      cases turn with
      | commit call result moves view env fits ended apart =>
          rcases suspension_log done with old | ⟨_, envelope, this, task⟩
          · exact old
          · cases this
            obtain ⟨acts, rfl, concluded⟩ := ended
            obtain ⟨_, covers⟩ := (concluded.suspended envelope userId _ task rfl).2 rfl
            obtain ⟨locks, _⟩ := covers id asked row same waits
            exact absurd held (apart _ (mem_flat locks (by simp [Act.moves])))
      | refuse call error view env ended =>
          rcases suspension_log done with old | ⟨_, _, this, _⟩
          · exact old
          · cases this
      | answer call ask value view env after asked responded =>
          have responded : respond env call ask value = some after := responded
          exact (suspension_before standing (respond_later responded) (respond_log responded) done).1
      | stimulus value view env after accepted =>
          exact (suspension_before standing (stimulus_later accepted) (stimulus_same accepted).1
            done).1

theorem fresh_standing {view : View Row} {env : Env} (start : fresh view env) :
    Standing view env := by
  obtain ⟨empty, log, answers, reactivated⟩ := start
  refine ⟨by simp [empty], by simp [empty], ?_, by simp [Env.listed, log], ?_, ?_, by simp [log]⟩
  · intro slot held found
    cases slot <;> simp [slotRow, empty] at found
  · rintro id userId ⟨_, _, _, _, member, _⟩
    simp [answers] at member
  · rintro userId ⟨_, _, member, _⟩
    simp [log] at member

theorem reached_standing {state : View Row × Env}
    (reached : Serial.Reached (orderService settings) (orderContract settings) state) :
    Standing state.1 state.2 :=
  reached_keeps (fun _ _ start => fresh_standing start) (fun _ _ _ turn => turn_standing turn) reached

end Standing

end Foc.Order
