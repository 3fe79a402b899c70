import Foc.Order.Turns

/-!
Every program of the Order Service ends as its contract says: a rule for each
statement, then for each program from its statements, whatever other programs
commit in between.
-/
namespace Foc.Order
open Library Library.ReadCommitted Library.Transaction Library.Serial

section Programs

variable {settings : Settings} {call : Call} {moves : List (Move Row)} {acts : List Act}
  {store store' : Store Row} {env env' : Env} {γ : Type}

abbrev EndsHere (settings : Settings) (call : Call) (moves : List (Move Row)) (program : Tx Result)
    (store : Store Row) (env : Env) : Prop :=
  Ends (orderService settings) (orderContract settings) call moves program store env

abbrev SinceHere (settings : Settings) (moves : List (Move Row)) (store : Store Row) (env : Env)
    (store' : Store Row) (env' : Env) : Prop :=
  Since (orderService settings) (orderContract settings) moves store env store' env'

abbrev MayFail (settings : Settings) (call : Call) (moves : List (Move Row)) (store : Store Row)
    (env : Env) : Prop :=
  Fails (orderService settings) (orderContract settings) call moves store env

/-! ## Statements -/

theorem ends_insert_row {key : Key} {row : Row key} {rest : Unit → Tx Result}
    (fails : MayFail settings call moves store env)
    (goes : ∀ store' env', SinceHere settings moves store env store' env' →
      wrote store'.lookup moves key = none →
      EndsHere settings call (moves ++ [⟨key, none, some row⟩]) (rest ()) store' env') :
    EndsHere settings call moves ((insertRow key row).bind rest) store env := by
  apply ends_insert
  · exact goes
  · intro store' env' old since _
    exact ends_fail (fails_since fails since)

theorem ends_lock_by_id {id : Uuid} {rest : Option StoredOrder → Tx Result}
    (missing : ∀ store' env', SinceHere settings moves store env store' env' →
      wrote store'.lookup moves (.order id) = none →
      EndsHere settings call moves (rest none) store' env')
    (locked : ∀ store' env' row, SinceHere settings moves store env store' env' →
      wrote store'.lookup moves (.order id) = some row →
      EndsHere settings call (moves ++ (Act.keep (.order id) row).moves) (rest (some row))
        store' env') :
    EndsHere settings call moves ((lockById id).bind rest) store env := by
  apply ends_lock
  · intro store' env' since cause
    apply missing store' env' since
    rcases cause with skips | unwanted
    · cases skips
    · by_contra present
      obtain ⟨row, found⟩ := Option.ne_none_iff_exists'.mp present
      exact Bool.noConfusion (unwanted row found)
  · intro store' env' row since found _
    exact locked store' env' row since found

theorem ends_update {id : Uuid} {wanted : StoredOrder → Bool} {write : StoredOrder → StoredOrder}
    {rest : Option StoredOrder → Tx Result}
    (missing : ∀ store' env', SinceHere settings moves store env store' env' →
      (∀ row, wrote store'.lookup moves (.order id) = some row → wanted row = false) →
      EndsHere settings call moves (rest none) store' env')
    (updated : ∀ store' env' row, SinceHere settings moves store env store' env' →
      wrote store'.lookup moves (.order id) = some row → wanted row = true →
      EndsHere settings call (moves ++ [⟨.order id, some row, some (write row)⟩]) (rest (some row))
        store' env') :
    EndsHere settings call moves ((updateOrder id wanted write).bind rest) store env := by
  apply ends_lock
  · intro store' env' since cause
    apply missing store' env' since
    rcases cause with skips | unwanted
    · cases skips
    · exact unwanted
  · exact updated

theorem ends_ask {question : Ask} {rest : Answer question → Tx Result}
    (asked : ∀ store' env', SinceHere settings moves store env store' env' →
      asksOf call question store'.lookup env')
    (goes : ∀ store' env' value after, SinceHere settings moves store env store' env' →
      respond env' call question value = some after →
      SinceHere settings moves store' env' store' after →
      EndsHere settings call moves (rest value) store' after) :
    EndsHere settings call moves ((ask question).bind rest) store env :=
  ends_await asked goes

theorem ends_read {rest : Store Row → Tx Result}
    (goes : ∀ store' env', SinceHere settings moves store env store' env' →
      EndsHere settings call moves (rest (overlay store' (added ∅ moves))) store' env') :
    EndsHere settings call moves (read.bind rest) store env :=
  ends_select goes

theorem ends_select_order {id : Uuid} {rest : Option StoredOrder → Tx Result}
    (goes : ∀ store' env', SinceHere settings moves store env store' env' →
      EndsHere settings call moves (rest (wrote store'.lookup moves (.order id))) store' env') :
    EndsHere settings call moves ((selectOrder id).bind rest) store env := by
  apply ends_select
  intro store' env' since
  have next := goes store' env' since
  rw [← seen_at] at next
  exact next

theorem ends_command_key {callerId : UserId} {key : String} {rest : Option KeyRow → Tx Result}
    (goes : ∀ store' env', SinceHere settings moves store env store' env' →
      EndsHere settings call moves (rest (wrote store'.lookup moves (.commandKey callerId key)))
        store' env') :
    EndsHere settings call moves ((commandKeyRow callerId key).bind rest) store env := by
  apply ends_select
  intro store' env' since
  have next := goes store' env' since
  rw [← seen_at] at next
  exact next

theorem ends_requester_key {requesterId : UserId} {key : String} {rest : Option KeyRow → Tx Result}
    (goes : ∀ store' env', SinceHere settings moves store env store' env' →
      EndsHere settings call moves (rest (wrote store'.lookup moves (.requesterKey requesterId key)))
        store' env') :
    EndsHere settings call moves ((requesterKeyRow requesterId key).bind rest) store env := by
  apply ends_select
  intro store' env' since
  have next := goes store' env' since
  rw [← seen_at] at next
  exact next

/-- A fresh id and the service's clock tell nothing of the rows. -/
theorem ends_random {rest : Uuid → Tx Result}
    (goes : ∀ store' env' value, SinceHere settings moves store env store' env' →
      EndsHere settings call moves (rest value) store' env') :
    EndsHere settings call moves ((ask .randomUUID).bind rest) store env := by
  apply ends_ask
  · exact fun _ _ _ => trivial
  · intro store' env' value after since _ here
    exact goes store' after value (since_trans since here)

theorem ends_clock {rest : Millis → Tx Result}
    (goes : ∀ store' env' value, SinceHere settings moves store env store' env' →
      EndsHere settings call moves (rest value) store' env') :
    EndsHere settings call moves ((ask .serviceClock).bind rest) store env := by
  apply ends_ask
  · exact fun _ _ _ => trivial
  · intro store' env' value after since _ here
    exact goes store' after value (since_trans since here)

theorem ends_event {event : OutboxEvent} {rest : Uuid → Tx Result}
    (fails : MayFail settings call moves store env)
    (goes : ∀ store' env' id, SinceHere settings moves store env store' env' →
      EndsHere settings call (moves ++ sentMoves [(id, event)]) (rest id) store' env') :
    EndsHere settings call moves ((insertOutboxEvent event).bind rest) store env := by
  simp only [insertOutboxEvent, bind_eq, pure_eq, bind_bind]
  apply ends_random
  intro first firstEnv id since
  apply ends_insert_row (fails_since fails since)
  intro second secondEnv later _
  exact goes second secondEnv id (since_trans since later)

theorem ends_events {events : List OutboxEvent} {rest : Unit → Tx Result}
    (fails : MayFail settings call moves store env)
    (goes : ∀ store' env' sent, SinceHere settings moves store env store' env' →
      sent.map Prod.snd = events →
      EndsHere settings call (moves ++ sentMoves sent) (rest ()) store' env') :
    EndsHere settings call moves ((insertOutboxEvents events).bind rest) store env := by
  induction events generalizing moves store env with
  | nil =>
      intro reached fits
      have next := goes store env [] (since_refl reached fits) rfl
      simp only [sentMoves, List.map_nil, List.append_nil] at next
      exact next reached fits
  | cons event others ih =>
      simp only [insertOutboxEvents, bind_eq, bind_bind]
      apply ends_event fails
      intro first firstEnv id since
      apply ih (fails_later fails since)
      intro second secondEnv sent later sends
      have next := goes second secondEnv ((id, event) :: sent) (since_trans since (since_narrow later))
        (by rw [List.map_cons, sends])
      simpa [sentMoves] using next

theorem ends_receipt {id : Uuid} {receipt : Option OrderReceipt} {rest : Unit → Tx Result}
    (fails : MayFail settings call moves store env)
    (goes : ∀ store' env', SinceHere settings moves store env store' env' →
      EndsHere settings call (moves ++ receiptMoves id receipt) (rest ()) store' env') :
    EndsHere settings call moves ((insertReceipt id receipt).bind rest) store env := by
  cases receipt with
  | none =>
      intro reached fits
      have next := goes store env (since_refl reached fits)
      simp only [receiptMoves, List.append_nil] at next
      exact next reached fits
  | some receipt =>
      simp only [insertReceipt, bind_eq, bind_bind]
      apply ends_insert_row fails
      intro first firstEnv since _
      apply ends_insert_row (fails_later fails since)
      intro second secondEnv later _
      have next := goes second secondEnv (since_trans since (since_narrow later))
      simpa [receiptMoves] using next

theorem ends_insert_change {id : Uuid} {change : Applied} {rest : Unit → Tx Result}
    (fails : MayFail settings call moves store env)
    (goes : ∀ store' env' sent, SinceHere settings moves store env store' env' →
      sent.map Prod.snd = change.events →
      EndsHere settings call (moves ++ changeMoves id change sent) (rest ()) store' env') :
    EndsHere settings call moves ((insertChange id change).bind rest) store env := by
  simp only [insertChange, bind_eq, bind_bind]
  apply ends_insert_row fails
  intro first firstEnv since _
  apply ends_receipt (fails_later fails since)
  intro second secondEnv later
  apply ends_events (fails_later (fails_later fails since) later)
  intro third thirdEnv sent last sends
  have whole := since_trans since (since_narrow (since_trans later (since_narrow last)))
  have next := goes third thirdEnv sent whole sends
  simpa [changeMoves] using next

/-! ## Changes -/

/-- The row a transaction sees of an order carries the order's id. -/
theorem seen_named (does : ∀ act ∈ acts, Does settings call act)
    (since : SinceHere settings (flat acts) store env store' env') {id : Uuid} {row : StoredOrder}
    (found : wrote store'.lookup (flat acts) (.order id) = some row) : row.orderId = id := by
  have named := acts_keep (fun view => ∀ id row, view (.order id) = some row → row.orderId = id)
    since.fits (fun act member view fits => act_named (does act member) fits)
    (reached_standing since.reached).named
  exact named id row found

theorem kept_last (moves : List (Move Row)) {view : View Row} {key : Key}
    {found left : Option (Row key)} :
    wrote view (moves ++ [⟨key, found, left⟩]) key = left := by
  rw [wrote_append, wrote_cons, wrote_nil, Function.update_self]

/-- A transition: its errand is missing, or locked and left, or locked and changed. -/
theorem ends_transition {command : TransitionCommand} {rest : TransitionResult → Tx Result}
    (does : ∀ act ∈ acts, Does settings call act)
    (fails : MayFail settings call (flat acts) store env)
    (missing : ∀ store' env', SinceHere settings (flat acts) store env store' env' →
      wrote store'.lookup (flat acts) (.order command.orderId.id) = none →
      EndsHere settings call (flat acts) (rest (.rejected .notFound none)) store' env')
    (rejected : ∀ store' env' row reason, SinceHere settings (flat acts) store env store' env' →
      wrote store'.lookup (flat acts) (.order command.orderId.id) = some row →
      row.orderId = command.orderId.id →
      transitionUsing settings.periods command call.began row = .ok (.rejected reason) →
      EndsHere settings call (flat (acts ++ [.keep (.order command.orderId.id) row]))
        (rest (.rejected reason (some (mapOrder row)))) store' env')
    (applied : ∀ store₁ env₁ store' env' row change sent,
      SinceHere settings (flat acts) store env store₁ env₁ →
      wrote store₁.lookup (flat acts) (.order command.orderId.id) = some row →
      SinceHere settings (flat (acts ++ [.keep (.order command.orderId.id) row])) store₁ env₁
        store' env' →
      row.orderId = command.orderId.id →
      transitionUsing settings.periods command call.began row = .ok (.applied change) →
      sent.map Prod.snd = change.events →
      EndsHere settings call (flat (acts ++ [.keep (.order command.orderId.id) row,
          .change (.transition command) row change sent none]))
        (rest (.applied (mapOrder change.next))) store' env') :
    EndsHere settings call (flat acts)
      ((transition settings.periods command call.began).bind rest) store env := by
  simp only [transition, bind_eq, pure_eq, bind_bind]
  apply ends_lock_by_id missing
  intro first firstEnv row since found
  have named := seen_named does since found
  dsimp only
  cases decided : transitionUsing settings.periods command call.began row with
  | error failure => exact ends_fail (fails_later fails since)
  | ok verdict =>
      cases verdict with
      | rejected reason =>
          have next := rejected first firstEnv row reason since found named decided
          simpa [Act.moves] using next
      | applied change =>
          simp only [bind_bind]
          apply ends_update
          · intro second secondEnv later unwanted
            have held := unwanted row (kept_last (flat acts))
            simp at held
          · intro second secondEnv held later here wanted
            have same := here.symm.trans (kept_last (flat acts))
            cases same
            simp only [bind_bind]
            apply ends_insert_change (fails_later (fails_later fails since) later)
            intro third thirdEnv sent last sends
            have whole := since_trans later (since_narrow last)
            have next := applied first firstEnv third thirdEnv row change sent since found
              (by simpa [flat, Act.moves] using whole) named decided sends
            simpa [flat, Act.moves, enteredMoves, changeMoves, Cause.orderId] using next

/-- An acceptance: declined, or it takes the errand. -/
theorem ends_accept {orderId : WrittenId} {courierId : UserId} {expectedVersion : Int}
    {correlationId : String} {rest : Acceptance → Tx Result}
    (does : ∀ act ∈ acts, Does settings call act)
    (fails : MayFail settings call (flat acts) store env)
    (declines : ∀ store' env' order, SinceHere settings (flat acts) store env store' env' →
      EndsHere settings call (flat acts) (rest (.declined order)) store' env')
    (takes : ∀ store' env' row change sent, SinceHere settings (flat acts) store env store' env' →
      row.orderId = orderId.id →
      acceptable courierId expectedVersion call.began row = true →
      acceptUsing orderId courierId correlationId call.began row = .ok change →
      sent.map Prod.snd = change.events →
      EndsHere settings call (flat acts ++ ⟨.order orderId.id, some row, some change.next⟩ ::
          changeMoves orderId.id change sent)
        (rest (.accepted (mapOrder change.next))) store' env') :
    EndsHere settings call (flat acts)
      ((accept orderId courierId expectedVersion correlationId call.began).bind rest) store env := by
  simp only [accept, bind_eq, pure_eq, bind_bind]
  apply ends_update
  · intro first firstEnv since _
    simp only [bind_bind]
    apply ends_select_order
    intro second secondEnv later
    exact declines second secondEnv _ (since_trans since later)
  · intro first firstEnv row since found free
    have named := seen_named does since found
    dsimp only
    cases taken : acceptUsing orderId courierId correlationId call.began row with
    | error failure => exact ends_fail (fails_later fails since)
    | ok change =>
        simp only [bind_bind]
        apply ends_insert_change (fails_later fails since)
        intro second secondEnv sent later sends
        have next := takes second secondEnv row change sent
          (since_trans since (since_narrow later)) named free taken sends
        simpa using next

/-! ## Conclusions -/

/-- Only a reservation reply takes an errand's reservation. -/
theorem issues_reserved {task : Task} {cause : Cause} (issues : Issues settings task cause)
    (action : cause.action = .creditReserved) :
    ∃ envelope payload suspended, task = .reservation envelope payload .reserved ∧
      cause = .transition (reservedCommand envelope payload.orderId suspended) := by
  cases issues with
  | reserved envelope payload suspended => exact ⟨envelope, payload, suspended, rfl, rfl⟩
  | act caller key orderId taken =>
      have routed := taken.property
      rw [show taken.val = .creditReserved from action] at routed
      exact absurd routed (by decide)
  | resolve caller key orderId outcome => cases outcome <;> cases action
  | suspended envelope userId orderId part status taken tried =>
      rcases suspension_action_cases tried with rfl | rfl | rfl <;> cases action
  | timer timer => cases timer <;> cases action
  | _ => cases action

/-- The tasks whose results nobody else relies on. -/
def ordinary : Task → Prop
  | .command _ none _ _ | .review _ _ | .released _ _ | .transferred _ _
  | .timer _ _ _ _ | .clearSuspended _ | .unassign _ _ _ _ | .assign _ _ _ _ => True
  | _ => False

def Result.lists : Result → Prop
  | .disputes _ | .time _ | .overdue _ | .told _ => True
  | _ => False

theorem does_issues {cause : Cause} {before : StoredOrder} {change : Applied}
    {sent : List (Uuid × OutboxEvent)} {entered : Option (UserId × String × KeyRow)}
    (does : Does settings call (.change cause before change sent entered)) :
    Issues settings call.task cause := by
  cases does with
  | change _ _ _ _ _ issued => exact issued
  | keyed _ _ _ _ _ issued => exact issued

theorem unkeyed_acts (does : ∀ act ∈ acts, Does settings call act)
    (unkeyed : slotOf settings call.task = none) :
    ∀ act ∈ acts, ∀ slot row, ¬ act.enters slot row := by
  intro act member slot row enters
  cases does act member with
  | keyed cause before change sent named issued applies events caller key request correlationId task =>
      rw [task] at unkeyed
      cases unkeyed
  | create caller key request supplierSnapshot correlationId orderId now change sent task =>
      rw [task] at unkeyed
      cases unkeyed
  | _ => cases enters

/-- Only a reconciliation records attempts, and events beside a change. -/
theorem unattempted (does : ∀ act ∈ acts, Does settings call act)
    (other : ∀ input, call.task ≠ .reconcile input) (key : Key) (row : Row key)
    (reconciling : key.reconciling = true) : .record key row ∉ acts := by
  intro member
  cases does _ member with
  | record _ _ _ attempts =>
      obtain ⟨input, task⟩ := attempts reconciling
      exact other input task

theorem unlisted_reports {result : Result} {view : View Row} (lists : ¬ result.lists) :
    Reports call view env result := by
  cases result <;> first | trivial | exact absurd trivial lists

theorem ordinary_concluded {result : Result} {view : View Row} (task : ordinary call.task)
    (ready : prepared env call.task = true) (does : ∀ act ∈ acts, Does settings call act)
    (quiet : result.effective = false → ∀ act ∈ acts, act.quiet) (lists : ¬ result.lists) :
    Concluded settings call result view env acts := by
  have unkeyed : slotOf settings call.task = none := by
    cases shape : call.task <;> rw [shape] at task <;> try first | rfl | exact task.elim
    rename_i key _ _
    cases key with
    | none => rfl
    | some key => exact task.elim
  have other : ∀ input, call.task ≠ .reconcile input := by
    intro input reconciles
    rw [reconciles] at task
    exact task.elim
  refine ⟨ready, does, quiet, ?_, ?_, unlisted_reports lists, ?_, ?_, ?_, ?_, ?_, ?_⟩
  · intro slot requestHash keyed
    rw [unkeyed] at keyed
    cases keyed
  · intro act member slot row enters
    exact absurd enters (unkeyed_acts does unkeyed act member slot row)
  · intro id admins admin considers
    rw [considers] at task
    exact task.elim
  · intro envelope orderId before change sent entered member
    obtain ⟨envelope, payload, _, reserves, _⟩ :=
      issues_reserved (does_issues (does _ member)) rfl
    rw [reserves] at task
    exact task.elim
  · intro envelope userId _ suspends
    rw [suspends] at task
    exact task.elim
  · intro envelope userId suspends
    rw [suspends] at task
    exact task.elim
  · intro id attempt member
    exact absurd member (unattempted does other (.attempt id) attempt rfl)
  · intro id event member
    exact absurd member (unattempted does other (.outbox id) event rfl)

theorem unkeyed_fails (unkeyed : slotOf settings call.task = none) :
    MayFail settings call moves store env := by
  intro error store' env' since slot requestHash held keyed
  rw [unkeyed] at keyed
  cases keyed

/-! ## Keys -/

theorem seen_free (does : ∀ act ∈ acts, Does settings call act)
    (since : SinceHere settings (flat acts) store env store' env') (lock : Int) :
    wrote store'.lookup (flat acts) (.advisory lock) = none := by
  have free := acts_keep (fun view => ∀ lock, view (.advisory lock) = none) since.fits
    (fun act member view fits => act_advisory (does act member) fits)
    (reached_standing since.reached).free
  exact free lock

theorem ends_advisory {lock : Int} {rest : Unit → Tx Result}
    (does : ∀ act ∈ acts, Does settings call act)
    (goes : ∀ store' env', SinceHere settings (flat acts) store env store' env' →
      EndsHere settings call (flat (acts ++ [.lock lock])) (rest ()) store' env') :
    EndsHere settings call (flat acts) ((advisoryLock lock).bind rest) store env := by
  simp only [advisoryLock, insertNew, bind_eq, pure_eq, bind_bind]
  apply ends_insert
  · intro first firstEnv since _
    apply ends_lock
    · intro second secondEnv later cause
      rcases cause with skips | unwanted
      · cases skips
      · exact Bool.noConfusion (unwanted () (kept_last (flat acts)))
    · intro second secondEnv row later _ _
      have next := goes second secondEnv (since_trans since (since_narrow later))
      simpa [flat, Act.moves] using next
  · intro first firstEnv old since present
    rw [seen_free does since lock] at present
    cases present

theorem since_standing (since : SinceHere settings moves store env store' env') :
    Standing store'.lookup env' := reached_standing since.reached

theorem since_later (since : SinceHere settings moves store env store' env') :
    ViewLater store.lookup store'.lookup ∧ EnvLater env env' := turns_later since.turns

theorem project_visible {order : OrderRow} {caller : AuthContext}
    (shows : visible order caller = true) : project order caller = .ok order := if_pos shows

theorem shown_visible {order : OrderRow} (caller : AuthContext)
    (shown : order.status ≠ .pendingCredit ∧ order.status ≠ .rejected) :
    visible order caller = true := by
  simp [visible, shown.1, shown.2]

/-- The key an act enters is the key its call is for. -/
theorem does_enters {act : Act} {slot : Slot} {row : KeyRow} (does : Does settings call act)
    (enters : act.enters slot row) : slotOf settings call.task = some (slot, row.requestHash) := by
  cases does with
  | keyed cause before change sent named issued applies events caller key request correlationId task =>
      obtain ⟨rfl, rfl⟩ := enters
      rw [task]
      rfl
  | create caller key request supplierSnapshot correlationId orderId now change sent task =>
      obtain ⟨rfl, rfl⟩ := enters
      rw [task]
      rfl
  | _ => cases enters

theorem keyed_concluded {slot : Slot} {requestHash : String} {result : Result} {view : View Row}
    (slotted : slotOf settings call.task = some (slot, requestHash))
    (ready : prepared env call.task = true) (does : ∀ act ∈ acts, Does settings call act)
    (quiet : result.effective = false → ∀ act ∈ acts, act.quiet)
    (keyed : KeyedResult slot requestHash view acts result)
    (locked : (∃ act ∈ acts, ∃ slot row, act.enters slot row) → .lock (lockOf settings slot) ∈ acts) :
    Concluded settings call result view env acts := by
  have other : ∀ input, call.task ≠ .reconcile input := by
    intro input reconciles
    rw [reconciles] at slotted
    cases slotted
  refine ⟨ready, does, quiet, ?_, ?_, ?_, ?_, ?_, ?_, ?_, ?_, ?_⟩
  · intro other hash same
    cases slotted.symm.trans same
    exact keyed
  · intro act member other row enters
    cases slotted.symm.trans (does_enters (does act member) enters)
    exact locked ⟨act, member, _, row, enters⟩
  · cases result <;> trivial
  · intro id admins admin considers
    rw [considers] at slotted
    cases slotted
  · intro envelope orderId before change sent entered member
    obtain ⟨envelope, payload, _, reserves, _⟩ :=
      issues_reserved (does_issues (does _ member)) rfl
    rw [reserves] at slotted
    cases slotted
  · intro envelope userId _ suspends
    rw [suspends] at slotted
    cases slotted
  · intro envelope userId suspends
    rw [suspends] at slotted
    cases slotted
  · intro id attempt member
    exact absurd member (unattempted does other (.attempt id) attempt rfl)
  · intro id event member
    exact absurd member (unattempted does other (.outbox id) event rfl)

/-- The user a slot is of. -/
def Slot.userId : Slot → UserId
  | .requester requesterId _ => requesterId
  | .command callerId _ => callerId

theorem slot_visible {slot : Slot} {row : StoredOrder} {caller : AuthContext}
    (owner : slot.userId = caller.userId) (sees : slot.sees row) :
    visible (mapOrder row) caller = true := by
  cases slot with
  | requester requesterId key =>
      have own : (mapOrder row).requesterId = caller.userId := sees.trans owner
      simp [visible, own]
  | command callerId key => exact shown_visible caller sees

/-- A key found for its own request answers with its order. -/
theorem ends_held (caller : AuthContext) {slot : Slot} {held : KeyRow}
    {rest : Option StoredOrder → Tx Result}
    (found : slotRow store.lookup slot = some held)
    (goes : ∀ store' env' row, SinceHere settings (flat acts) store env store' env' →
      row.orderId = held.orderId → visible (mapOrder row) caller = true →
      EndsHere settings call (flat acts) (rest (some row)) store' env')
    (same : ∀ view, Fits view (flat acts) → wrote view (flat acts) = view)
    (owner : slot.userId = caller.userId) :
    EndsHere settings call (flat acts) ((selectOrder held.orderId).bind rest) store env := by
  apply ends_select_order
  intro first firstEnv since
  have standing := since_standing since
  have still := (since_later since).1.slots slot held found
  obtain ⟨row, present, sees⟩ := standing.slots slot held still
  rw [same _ since.fits]
  beta_reduce
  rw [present]
  exact goes first firstEnv row since (standing.named _ row present) (slot_visible owner sees)

/-- A key recorded for another request refuses. -/
theorem reused_fails {slot : Slot} {requestHash : String} {held : KeyRow}
    (slotted : slotOf settings call.task = some (slot, requestHash))
    (found : slotRow store.lookup slot = some held) (different : held.requestHash ≠ requestHash) :
    MayFail settings call moves store env := by
  intro error store' env' since other hash row same present
  cases slotted.symm.trans same
  have still := (since_later since).1.slots slot held found
  cases present.symm.trans still
  exact different

/-- While a call holds the lock of a key it found unused, it may throw. -/
theorem unused_fails {slot : Slot} {requestHash : String}
    (slotted : slotOf settings call.task = some (slot, requestHash))
    (unused : slotRow store.lookup slot = none)
    (held : touched moves (.advisory (lockOf settings slot))) :
    MayFail settings call moves store env := by
  intro error store' env' since other hash row same present
  cases slotted.symm.trans same
  rw [turns_unused since.turns held unused] at present
  cases present

theorem ends_replay (caller : AuthContext) {slot : Slot} {requestHash : String} {held : KeyRow}
    (slotted : slotOf settings call.task = some (slot, requestHash))
    (owner : slot.userId = caller.userId) (ready : prepared env call.task = true)
    (does : ∀ act ∈ acts, Does settings call act) (quiet : ∀ act ∈ acts, act.quiet)
    (same : ∀ view, Fits view (flat acts) → wrote view (flat acts) = view)
    (unentered : ∀ act ∈ acts, ∀ slot row, ¬ act.enters slot row)
    (found : slotRow store.lookup slot = some held) :
    EndsHere settings call (flat acts) ((replay held requestHash).bind fun order =>
      match project order caller with
      | .ok order => .done (.replayed order)
      | .error failure => .done (.refused failure)) store env := by
  by_cases used : held.requestHash = requestHash
  · simp only [replay, used, ne_eq, not_true_eq_false, if_false, bind_eq, bind_bind]
    apply ends_held caller found _ same owner
    intro first firstEnv row since named shows
    simp only [pure_eq, done_bind, project_visible shows]
    apply ends_done
    intro second secondEnv later
    have whole := since_later (since_trans since later)
    refine ⟨acts, rfl, keyed_concluded slotted (prepared_later whole.2 ready) does
      (fun _ => quiet) ?_ ?_⟩
    · exact ⟨held, whole.1.slots slot held found, used, named⟩
    · rintro ⟨act, member, other, row, enters⟩
      exact absurd enters (unentered act member other row)
  · simp only [replay, ne_eq, used, not_false_eq_true, if_true, fail_bind]
    exact ends_fail (reused_fails slotted found used)

/-! ## People's commands -/

def keeps (acts : List Act) : Prop := ∀ act ∈ acts, ∃ key row, act = .keep key row

theorem command_shown {caller : AuthContext} {key : Option String} {request : UserRequest}
    {correlationId : String} {cause : Cause} {before : StoredOrder} {change : Applied}
    (task : call.task = .command caller key request correlationId)
    (issued : Issues settings call.task cause)
    (stepped : Stepped cause call.began before change) (viewer : AuthContext) :
    project (mapOrder change.next) viewer = .ok (mapOrder change.next) := by
  rw [task] at issued
  obtain ⟨rule, member, status, action, target, _⟩ := stepped.rule
  have shown := command_rules rule member (action ▸ (command_issues issued).2.2.1)
  rw [target] at shown
  exact project_visible (shown_visible viewer shown)

theorem ends_run {caller : AuthContext} {key : Option String} {request : UserRequest}
    {correlationId : String} {rest : Except Failure OrderRow → Tx Result}
    (task : call.task = .command caller key request correlationId)
    (does : ∀ act ∈ acts, Does settings call act)
    (fails : MayFail settings call (flat acts) store env)
    (refuses : ∀ store' env' more failure, SinceHere settings (flat acts) store env store' env' →
      keeps more → EndsHere settings call (flat (acts ++ more)) (rest (.error failure)) store' env')
    (applies : ∀ store' env' more cause before change sent,
      SinceHere settings (flat acts) store env store' env' → keeps more →
      Does settings call (.change cause before change sent none) →
      EndsHere settings call (flat (acts ++ more ++ [.change cause before change sent none]))
        (rest (.ok (mapOrder change.next))) store' env') :
    EndsHere settings call (flat acts)
      ((runCommand settings.periods request caller correlationId call.began).bind rest) store env := by
  have transitions (command : TransitionCommand) (action : OrderAction)
      (issued : Issues settings call.task (.transition command)) :
      EndsHere settings call (flat acts)
        ((transition settings.periods command call.began).bind fun result =>
          rest (answer result action caller)) store env := by
    apply ends_transition does fails
    · intro first firstEnv since _
      have next := refuses first firstEnv [] notFound since (by simp [keeps])
      simpa [answer] using next
    · intro first firstEnv row reason since _ _ _
      have refusal : ∃ failure, answer (.rejected reason (some (mapOrder row))) action caller =
          .error failure := by
        simp only [answer]
        split
        · exact ⟨_, rfl⟩
        · cases reason <;> exact ⟨_, rfl⟩
      obtain ⟨failure, refusal⟩ := refusal
      rw [refusal]
      exact refuses first firstEnv [.keep _ row] failure since (by simp [keeps])
    · intro first firstEnv second secondEnv row change sent since found later named taken sends
      have does := Does.change (.transition command) row change sent named issued taken sends
      have shows := command_shown task issued (does_stepped does).1 caller
      have whole : SinceHere settings (flat acts) store env second secondEnv := by
        rw [flat_append] at later
        exact since_trans since (since_narrow later)
      have next := applies second secondEnv [.keep _ row] _ row change sent whole (by simp [keeps]) does
      simp only [answer, shows]
      simpa using next
  cases request with
  | accept orderId expectedVersion =>
      simp only [runCommand, bind_eq, pure_eq, bind_bind]
      apply ends_accept does fails
      · intro first firstEnv order since
        simp only [bind_bind, done_bind]
        apply ends_clock
        intro second secondEnv now later
        have next := refuses second secondEnv [] (declined order caller now)
          (since_trans since later) (by simp [keeps])
        simpa using next
      · intro first firstEnv row change sent since named free taken sends
        have issued : Issues settings call.task (.acceptance orderId caller expectedVersion
            correlationId) := task ▸ .accept caller key orderId expectedVersion correlationId
        have does := Does.change (.acceptance orderId caller expectedVersion correlationId) row change
          sent named issued ⟨free, taken⟩ sends
        have shows := command_shown task issued (does_stepped does).1 caller
        have next := applies first firstEnv [] _ row change sent since (by simp [keeps]) does
        simp only [shows, done_bind]
        simpa [Act.moves, enteredMoves, Cause.orderId] using next
  | act orderId action expectedVersion =>
      simp only [runCommand, bind_eq, pure_eq, bind_bind, done_bind]
      exact transitions _ action.val (task ▸ .act caller key orderId action expectedVersion _)
  | resolve orderId outcome reason expectedVersion =>
      simp only [runCommand, bind_eq, pure_eq, bind_bind, done_bind]
      exact transitions _ _ (task ▸ .resolve caller key orderId outcome reason expectedVersion _)

theorem keeps_quiet {more : List Act} (kept : keeps more) : ∀ act ∈ more, act.quiet := by
  intro act member
  obtain ⟨key, row, rfl⟩ := kept act member
  trivial

theorem keeps_do {more : List Act} (kept : keeps more) :
    ∀ act ∈ more, Does settings call act := by
  intro act member
  obtain ⟨key, row, rfl⟩ := kept act member
  exact .keep key row

theorem does_append {first second : List Act} (before : ∀ act ∈ first, Does settings call act)
    (after : ∀ act ∈ second, Does settings call act) :
    ∀ act ∈ first ++ second, Does settings call act := by
  intro act member
  exact (List.mem_append.mp member).elim (before act) (after act)

theorem does_one {act : Act} (does : Does settings call act) :
    ∀ other ∈ [act], Does settings call other := by
  intro other member
  exact List.mem_singleton.mp member ▸ does

theorem command_unkeyed {caller : AuthContext} {request : UserRequest} {correlationId : String}
    (task : call.task = .command caller none request correlationId)
    (ready : prepared env call.task = true) :
    EndsHere settings call [] (command settings caller none request correlationId call.began)
      store env := by
  have plain : ordinary call.task := by
    rw [task]
    trivial
  have unkeyed : slotOf settings call.task = none := by
    rw [task]
    rfl
  simp only [command, bind_eq, pure_eq]
  rw [← flat_nil]
  apply ends_run task (by simp) (unkeyed_fails unkeyed)
  · intro first firstEnv more failure since kept
    apply ends_done
    intro second secondEnv later
    rw [flat_append] at later
    have ready := prepared_later (since_later (since_trans since (since_narrow later))).2 ready
    exact ⟨more, rfl, ordinary_concluded plain ready (keeps_do kept) (fun _ => keeps_quiet kept) id⟩
  · intro first firstEnv more cause before change sent since kept does
    apply ends_done
    intro second secondEnv later
    rw [List.append_assoc, flat_append] at later
    have ready := prepared_later (since_later (since_trans since (since_narrow later))).2 ready
    exact ⟨more ++ [.change cause before change sent none], rfl,
      ordinary_concluded plain ready (does_append (keeps_do kept) (does_one does)) nofun id⟩

theorem lock_seen {lock : Int} : ∀ view, Fits view (flat [.lock lock]) →
    wrote view (flat [.lock lock]) = view := by
  intro view fits
  have shape : flat [.lock lock] = (Act.lock lock).moves := by simp
  rw [shape] at fits ⊢
  exact quiet_seen fits (.inr ⟨lock, rfl⟩)

theorem lock_does {lock : Int} : ∀ act ∈ [Act.lock lock], Does settings call act :=
  does_one (.lock lock)

theorem lock_quiet {lock : Int} : ∀ act ∈ [Act.lock lock], act.quiet := by
  intro act member
  cases List.mem_singleton.mp member
  trivial

theorem lock_enters {lock : Int} : ∀ act ∈ [Act.lock lock], ∀ slot row, ¬ act.enters slot row := by
  intro act member slot row enters
  cases List.mem_singleton.mp member
  exact enters

theorem lock_touched {lock : Int} : touched (flat [.lock lock]) (.advisory lock) := by
  simp [Act.moves]

theorem does_keyed {caller : AuthContext} {key : String} {request : UserRequest}
    {correlationId : String} {cause : Cause} {before : StoredOrder} {change : Applied}
    {sent : List (Uuid × OutboxEvent)}
    (task : call.task = .command caller (some key) request correlationId)
    (does : Does settings call (.change cause before change sent none)) :
    Does settings call
      (.change cause before change sent (some (entry settings caller key request))) := by
  obtain ⟨_, named, issued, applies, events⟩ := does_stepped does
  exact .keyed cause before change sent named issued applies events caller key request _ task

/-- Under its lock a key is read: it is held, or unused until the call ends. -/
theorem command_keyed {caller : AuthContext} {key : String} {request : UserRequest}
    {correlationId : String} (task : call.task = .command caller (some key) request correlationId)
    (ready : prepared env call.task = true) :
    EndsHere settings call [] (command settings caller (some key) request correlationId call.began)
      store env := by
  have slotted : slotOf settings call.task = some (.command caller.userId key,
      hashRequest settings.sha256 request.json) := by
    rw [task]
    rfl
  have number : settings.hashtext (commandLock caller.userId key) =
      lockOf settings (.command caller.userId key) := rfl
  simp only [command, withCommandKey, bind_eq, pure_eq]
  rw [← flat_nil, number]
  apply ends_advisory (by simp)
  intro first firstEnv since
  apply ends_command_key
  intro second secondEnv later
  have ready := prepared_later (since_later (since_trans since (since_any later))).2 ready
  simp only [List.nil_append] at later ⊢
  rw [lock_seen _ later.fits]
  beta_reduce
  cases found : second.lookup (.commandKey caller.userId key) with
  | some held =>
      exact ends_replay caller slotted rfl ready lock_does lock_quiet lock_seen lock_enters found
  | none =>
      have unused : slotRow second.lookup (.command caller.userId key) = none := found
      have fails : MayFail settings call (flat [.lock (lockOf settings (.command caller.userId key))])
          second secondEnv := unused_fails slotted unused lock_touched
      apply ends_run task lock_does fails
      · intro third thirdEnv more failure next kept
        rw [flat_append]
        exact ends_fail (fails_later fails next)
      · intro third thirdEnv more cause before change sent next kept does
        rw [List.append_assoc, flat_append]
        apply ends_insert_row (fails_later fails next)
        intro fourth fourthEnv last _
        apply ends_done
        intro fifth fifthEnv final
        obtain ⟨stepped, named, issued, _⟩ := does_stepped does
        rw [task] at issued
        have errand : (mapOrder change.next).orderId = request.orderId.id := by
          rw [← (command_issues issued).1]
          exact stepped.same.orderId.trans named
        have whole := since_trans next
          (since_narrow (since_trans last (since_narrow final)))
        refine ⟨[.lock (lockOf settings (.command caller.userId key))] ++ (more ++ [.change cause before change sent
          (some (entry settings caller key request))]), ?_, keyed_concluded slotted
            (prepared_later (since_later whole).2 ready) (does_append lock_does
              (does_append (keeps_do kept) (does_one (does_keyed task does)))) (fun still => by cases still) ?_ ?_⟩
        · simp [flat, Act.moves, enteredMoves, entry]
        · refine ⟨turns_unused whole.turns lock_touched unused, .change cause before change sent
            (some (entry settings caller key request)), by simp, rfl, ?_⟩
          rw [errand]
        · intro _
          exact List.mem_cons_self

/-! ## Creation -/

theorem create_ends {caller : AuthContext} {key : String} {request : CreateRequest}
    {supplierSnapshot : SupplierSnapshot} {correlationId : String}
    (task : call.task = .create caller key request supplierSnapshot correlationId) :
    EndsHere settings call [] (create settings caller key request supplierSnapshot correlationId)
      store env := by
  have slotted : slotOf settings call.task = some (.requester caller.userId key,
      hashRequest settings.sha256 request.json) := by
    rw [task]
    rfl
  have ready (env : Env) : prepared env call.task = true := by
    rw [task]
    rfl
  have number : settings.hashtext (requesterLock caller.userId key) =
      lockOf settings (.requester caller.userId key) := rfl
  simp only [create, bind_eq, pure_eq]
  rw [← flat_nil, number]
  apply ends_advisory (by simp)
  intro first firstEnv since
  apply ends_requester_key
  intro second secondEnv later
  simp only [List.nil_append] at later ⊢
  rw [lock_seen _ later.fits]
  beta_reduce
  cases found : second.lookup (.requesterKey caller.userId key) with
  | some held =>
      exact ends_replay caller slotted rfl (ready _) lock_does lock_quiet lock_seen
        lock_enters found
  | none =>
      have unused : slotRow second.lookup (.requester caller.userId key) = none := found
      have fails : MayFail settings call (flat [.lock (lockOf settings (.requester caller.userId key))])
          second secondEnv := unused_fails slotted unused lock_touched
      apply ends_random
      intro third thirdEnv orderId next
      apply ends_clock
      intro fourth fourthEnv now last
      have since := since_trans next last
      have fails := fails_since fails since
      cases made : createPending (pendingInput caller request supplierSnapshot correlationId)
          orderId now with
      | error failure => exact ends_fail fails
      | ok change =>
          obtain ⟨rfl, _⟩ := create_ok made
          simp only
          apply ends_insert_row fails
          intro fifth fifthEnv fifthSince _
          apply ends_insert_row (fails_later fails fifthSince)
          intro sixth sixthEnv sixthSince _
          apply ends_insert_row (fails_later (fails_later fails fifthSince) sixthSince)
          intro seventh seventhEnv seventhSince _
          apply ends_events (fails_later (fails_later (fails_later fails fifthSince) sixthSince)
            seventhSince)
          intro eighth eighthEnv sent eighthSince sends
          apply ends_done
          intro ninth ninthEnv final
          have whole := since_trans since (since_trans fifthSince (since_narrow (since_trans sixthSince
            (since_narrow (since_trans seventhSince (since_narrow (since_trans eighthSince
              (since_narrow final))))))))
          refine ⟨[.lock (lockOf settings (.requester caller.userId key)),
            .create (pendingInput caller request supplierSnapshot correlationId) key
              (hashRequest settings.sha256 request.json) orderId now sent], ?_,
            keyed_concluded slotted (ready _) ?_ (fun still => by cases still) ?_ ?_⟩
          · simp [flat, Act.moves, creation, pendingInput, pendingRow]
          · refine List.forall_mem_cons.mpr ⟨.lock _, does_one ?_⟩
            exact .create caller key request supplierSnapshot correlationId orderId now _ sent task made
              sends
          · exact ⟨turns_unused whole.turns lock_touched unused, _,
              List.mem_cons_of_mem _ List.mem_cons_self, rfl, rfl⟩
          · intro _
            exact List.mem_cons_self

theorem find_ends {caller : AuthContext} {key : String} {request : CreateRequest}
    (task : call.task = .findIdempotent caller key request) :
    EndsHere settings call [] (findIdempotent settings caller key request) store env := by
  have slotted : slotOf settings call.task = some (.requester caller.userId key,
      hashRequest settings.sha256 request.json) := by
    rw [task]
    rfl
  have ready (env : Env) : prepared env call.task = true := by
    rw [task]
    rfl
  have concluded (result : Result) (view : View Row) (env : Env)
      (keyed : KeyedResult (.requester caller.userId key) (hashRequest settings.sha256 request.json)
        view [] result) : ended settings call (.ok result) view env (flat []) :=
    ⟨[], rfl, keyed_concluded slotted (ready _) (by simp) (by simp) keyed (by simp)⟩
  simp only [findIdempotent, bind_eq, pure_eq]
  rw [← flat_nil]
  apply ends_requester_key
  intro first firstEnv since
  have nothing : ∀ view : View Row, wrote view (flat []) = view := fun _ => rfl
  rw [nothing]
  cases found : first.lookup (.requesterKey caller.userId key) with
  | none =>
      apply ends_done
      intro second secondEnv later
      exact concluded .absent _ _ trivial
  | some held =>
      have held_found : slotRow first.lookup (.requester caller.userId key) = some held := found
      apply ends_held caller held_found
      · intro second secondEnv row later named shows
        by_cases used : held.requestHash = hashRequest settings.sha256 request.json
        · simp only [used, ne_eq, not_true_eq_false, if_false, project_visible shows]
          apply ends_done
          intro third thirdEnv last
          refine concluded (.replayed (mapOrder row)) _ _ ⟨held, ?_, used, named⟩
          exact (since_later (since_trans later last)).1.slots _ held held_found
        · simp only [used, ne_eq, not_false_eq_true, if_true]
          exact ends_fail (fails_since (reused_fails slotted held_found used) later)
      · exact fun _ _ => rfl
      · rfl

/-! ## Consumers -/

/-- The row a consumer remembers an event by. -/
def remembered (consumer : Consumer) (eventId : Uuid) : Act := .record (.processed consumer eventId) ()

theorem remembered_does {consumer : Consumer} {eventId : Uuid} :
    ∀ act ∈ [remembered consumer eventId], Does settings call act :=
  does_one (.record _ _ trivial nofun)

theorem remembered_quiet {consumer : Consumer} {eventId : Uuid} :
    ∀ act ∈ [remembered consumer eventId], act.quiet := by
  intro act member
  cases List.mem_singleton.mp member
  trivial

theorem ends_once {consumer : Consumer} {eventId : Uuid} {effect : Tx Result}
    (ready : prepared env call.task = true) (unkeyed : slotOf settings call.task = none)
    (settled : ∀ id admins, call.task ≠ .consider id admins)
    (goes : ∀ store' env', SinceHere settings [] store env store' env' →
      EndsHere settings call (flat [remembered consumer eventId]) effect store' env') :
    EndsHere settings call [] (processOnce consumer eventId effect) store env := by
  apply ends_insert
  · intro first firstEnv since _
    exact goes first firstEnv since
  · intro first firstEnv old since _
    apply ends_done
    intro second secondEnv later
    have ready := prepared_later (since_later (since_trans since later)).2 ready
    refine ⟨[], rfl, ready, by simp, by simp, ?_, by simp, trivial, ?_, by simp, nofun, by simp,
      by simp, by simp⟩
    · intro slot requestHash keyed
      rw [unkeyed] at keyed
      cases keyed
    · intro id admins admin considers
      exact absurd considers (settled id admins)

theorem confirm_ends {command : TransitionCommand} {repeats : OrderRow → Bool}
    (plain : ordinary call.task) (ready : prepared env call.task = true)
    (unkeyed : slotOf settings call.task = none)
    (issued : Issues settings call.task (.transition command))
    (does : ∀ act ∈ acts, Does settings call act) (quiet : ∀ act ∈ acts, act.quiet) :
    EndsHere settings call (flat acts)
      ((transition settings.periods command call.began).bind fun result => confirmed result repeats)
      store env := by
  apply ends_transition does (unkeyed_fails unkeyed)
  · intro first firstEnv since _
    exact ends_fail (unkeyed_fails unkeyed)
  · intro first firstEnv row reason since _ _ _
    simp only [confirmed, Option.any_some]
    split
    · apply ends_done
      intro second secondEnv later
      rw [flat_append] at later
      have ready := prepared_later (since_later (since_trans since (since_narrow later))).2 ready
      refine ⟨_, rfl, ordinary_concluded plain ready (does_append does (does_one (.keep _ _)))
        (fun _ => ?_) id⟩
      intro act member
      rcases List.mem_append.mp member with old | new
      · exact quiet act old
      · cases List.mem_singleton.mp new
        trivial
    · exact ends_fail (unkeyed_fails unkeyed)
  · intro first firstEnv second secondEnv row change sent since _ later named taken sends
    simp only [confirmed]
    apply ends_done
    intro third thirdEnv last
    rw [flat_append] at later last
    have whole := since_trans since (since_trans (since_narrow later) (since_narrow last))
    have ready := prepared_later (since_later whole).2 ready
    refine ⟨_, rfl, ordinary_concluded plain ready (does_append does ?_) nofun id⟩
    exact List.forall_mem_cons.mpr ⟨.keep _ _,
      does_one (.change (.transition command) row change sent named issued taken sends)⟩

theorem release_ends {envelope : Envelope} {payload : Released}
    (task : call.task = .released envelope payload) :
    EndsHere settings call [] (processOnce .releaseResults envelope.eventId
      (handleRelease settings.periods envelope payload call.began)) store env := by
  have plain : ordinary call.task := by
    rw [task]
    trivial
  have ready (env : Env) : prepared env call.task = true := by
    rw [task]
    rfl
  have unkeyed : slotOf settings call.task = none := by
    rw [task]
    rfl
  apply ends_once (ready env) unkeyed (by simp [task])
  intro first firstEnv since
  simp only [handleRelease, bind_eq]
  split
  · exact ends_fail (unkeyed_fails unkeyed)
  · exact confirm_ends plain (ready _) unkeyed (task ▸ .released envelope payload) remembered_does
      remembered_quiet

theorem transfer_ends {envelope : Envelope} {payload : Transferred}
    (task : call.task = .transferred envelope payload) :
    EndsHere settings call [] (processOnce .transferResults envelope.eventId
      (handleTransfer settings.periods envelope payload call.began)) store env := by
  have plain : ordinary call.task := by
    rw [task]
    trivial
  have ready (env : Env) : prepared env call.task = true := by
    rw [task]
    rfl
  have unkeyed : slotOf settings call.task = none := by
    rw [task]
    rfl
  apply ends_once (ready env) unkeyed (by simp [task])
  intro first firstEnv since
  simp only [handleTransfer, bind_eq]
  split
  · exact ends_fail (unkeyed_fails unkeyed)
  · exact confirm_ends plain (ready _) unkeyed (task ▸ .transferred envelope payload)
      remembered_does remembered_quiet

/-! ## Reservation replies -/

theorem kept_seen {view : View Row} {key : Key} {row : Row key} :
    wrote view (flat (acts ++ [.keep key row])) key = some row := by
  rw [flat_append]
  exact kept_last (flat acts)

theorem kept_found {view : View Row} {key : Key} {row : Row key}
    (fits : Fits view (flat (acts ++ [.keep key row]))) (other : ¬ touched (flat acts) key) :
    view key = some row := by
  rw [flat_append, fits_append] at fits
  exact (wrote_other other).symm.trans fits.2.1

/-- What a reply knows of a requester it was told is not suspended. -/
def Told (call : Call) (userId : UserId) (env : Env) : Prop :=
  (call, userId, false) ∈ env.answers ∧ ¬ SuspensionDone env userId

theorem ends_requester {order : OrderRow} {rest : Bool → Tx Result}
    (asked : ∀ store' env', SinceHere settings moves store env store' env' →
      asksOf call (.isSuspended order.requesterId) store'.lookup env')
    (goes : ∀ store' env' suspended, SinceHere settings moves store env store' env' →
      (suspended = false → order.status = .pendingCredit → Told call order.requesterId env') →
      EndsHere settings call moves (rest suspended) store' env') :
    EndsHere settings call moves ((askRequester order).bind rest) store env := by
  unfold askRequester
  split
  · apply ends_ask asked
    intro first firstEnv answer after since responded here
    apply goes first after answer.suspended (since_trans since here)
    intro free _
    simp only [respond] at responded
    split at responded
    · rename_i truth
      cases responded
      refine ⟨by simp [← free], fun done => ?_⟩
      have held := (since_standing here).suspended order.requesterId done
      rw [truth] at free
      simp [held] at free
    · cases responded
  · rename_i settled
    intro reached fits
    exact goes store env false (since_refl reached fits) (fun _ pending => absurd pending settled)
      reached fits

theorem reservation_concluded {envelope : Envelope} {payload : Reservation} {reply : Reply}
    {result : Result} {view : View Row} (task : call.task = .reservation envelope payload reply)
    (does : ∀ act ∈ acts, Does settings call act)
    (quiet : result.effective = false → ∀ act ∈ acts, act.quiet) (lists : ¬ result.lists)
    (cleared : ∀ envelope (orderId : WrittenId) before change sent entered,
      .change (.transition (reservedCommand envelope orderId false)) before change sent entered ∈
        acts →
      Cleared env orderId.id before.requesterId ∧ ¬ SuspensionDone env before.requesterId) :
    Concluded settings call result view env acts := by
  have unkeyed : slotOf settings call.task = none := by
    rw [task]
    rfl
  refine ⟨by rw [task]; rfl, does, quiet, ?_, ?_, unlisted_reports lists, ?_, cleared, ?_, ?_, ?_, ?_⟩
  · intro slot requestHash keyed
    rw [unkeyed] at keyed
    cases keyed
  · intro act member slot row enters
    exact absurd enters (unkeyed_acts does unkeyed act member slot row)
  · intro id admins admin considers
    rw [task] at considers
    cases considers
  · intro other userId lifted suspends
    rw [task] at suspends
    cases suspends
  · intro other userId suspends
    rw [task] at suspends
    cases suspends
  · intro id attempt member
    exact absurd member (unattempted does (by simp [task]) (.attempt id) attempt rfl)
  · intro id event member
    exact absurd member (unattempted does (by simp [task]) (.outbox id) event rfl)

theorem reserved_rules : ∀ rule ∈ orderTransitions, rule.action = .creditReserved →
    rule.status = .pendingCredit := by decide

/-- The errand of a reply, locked after the event was remembered. -/
def replied (envelope : Envelope) (id : Uuid) (row : StoredOrder) : List Act :=
  [remembered .reservationResults envelope.eventId] ++ [.keep (.order id) row]

theorem replied_does {envelope : Envelope} {id : Uuid} {row : StoredOrder} :
    ∀ act ∈ replied envelope id row, Does settings call act :=
  does_append remembered_does (does_one (.keep _ _))

theorem replied_quiet {envelope : Envelope} {id : Uuid} {row : StoredOrder} :
    ∀ act ∈ replied envelope id row, act.quiet := by
  intro act member
  rcases List.mem_append.mp member with event | errand
  · exact remembered_quiet act event
  · cases List.mem_singleton.mp errand
    trivial

theorem replied_seen {envelope : Envelope} {id : Uuid} {row : StoredOrder} {view : View Row} :
    wrote view (flat (replied envelope id row)) (.order id) = some row :=
  kept_seen

theorem replied_found {envelope : Envelope} {id : Uuid} {row : StoredOrder} {view : View Row}
    (fits : Fits view (flat (replied envelope id row))) : view (.order id) = some row :=
  kept_found fits (by simp [remembered, Act.moves])

theorem replied_touched {envelope : Envelope} {id : Uuid} {row : StoredOrder} :
    touched (flat (replied envelope id row)) (.order id) := by
  simp [replied, Act.moves]

/-- Acts that leave the errand locked only. -/
theorem again_quiet {envelope : Envelope} {id : Uuid} {row again : StoredOrder} :
    ∀ act ∈ replied envelope id row ++ [.keep (.order id) again], act.quiet := by
  intro act member
  rcases List.mem_append.mp member with first | second
  · exact replied_quiet act first
  · cases List.mem_singleton.mp second
    trivial

theorem quiet_unreserved {acts : List Act} (quiet : ∀ act ∈ acts, act.quiet) {cause : Cause}
    {before : StoredOrder} {change : Applied} {sent : List (Uuid × OutboxEvent)}
    {entered : Option (UserId × String × KeyRow)} :
    .change cause before change sent entered ∉ acts := fun member => quiet _ member

theorem reserved_ends {envelope : Envelope} {payload : Reservation} {row : StoredOrder}
    (task : call.task = .reservation envelope payload .reserved) :
    EndsHere settings call (flat (replied envelope payload.orderId.id row))
      ((askRequester (mapOrder row)).bind fun suspended =>
        (transition settings.periods (reservedCommand envelope payload.orderId suspended)
          call.began).bind fun result =>
          match result with
          | .applied _ => .done (.handled true)
          | .rejected _ _ =>
              if (mapOrder row).status = .rejected then .fail .unparseable
              else
                read.bind fun view =>
                  if (reservationAppliedAt view payload.orderId.id).any
                      fun version => decide (version < (mapOrder row).version) then
                    .fail .staleEvent
                  else .done (.handled false)) store env := by
  have unkeyed : slotOf settings call.task = none := by
    rw [task]
    rfl
  apply ends_requester
  · intro first firstEnv since
    refine ⟨by rw [task]; rfl, ?_⟩
    intro other reserved reply same
    rw [task] at same
    cases same
    exact ⟨row, replied_found since.fits, rfl⟩
  intro first firstEnv suspended since told
  apply ends_transition replied_does (unkeyed_fails unkeyed)
  · intro second secondEnv later missing
    cases missing.symm.trans replied_seen
  · intro second secondEnv again reason later _ _ _
    dsimp only
    split
    · exact ends_fail (unkeyed_fails unkeyed)
    · apply ends_read
      intro third thirdEnv last
      split
      · exact ends_fail (unkeyed_fails unkeyed)
      · apply ends_done
        intro fourth fourthEnv final
        refine ⟨_, rfl, reservation_concluded task (does_append replied_does (does_one (.keep _ _)))
          (fun _ => again_quiet) id ?_⟩
        intro other orderId before change sent entered member
        exact absurd member (quiet_unreserved again_quiet)
  · intro second secondEnv third thirdEnv again change sent later found last named taken sends
    have held : row = again := Option.some.inj (replied_seen.symm.trans found)
    subst held
    apply ends_done
    intro fourth fourthEnv final
    have does := Does.change (.transition (reservedCommand envelope payload.orderId suspended)) row
      change sent named (task ▸ .reserved envelope payload suspended) taken sends
    rw [flat_append] at last final
    have whole := since_trans later (since_trans (since_narrow last) (since_narrow final))
    refine ⟨_, rfl, reservation_concluded task (does_append replied_does
      (List.forall_mem_cons.mpr ⟨.keep _ _, does_one does⟩)) nofun id ?_⟩
    intro other orderId before applied events entered member
    rcases List.mem_append.mp member with first | second
    · exact absurd first (quiet_unreserved replied_quiet)
    rcases List.mem_cons.mp second with keep | third
    · cases keep
    have same := List.mem_singleton.mp third
    simp only [Act.change.injEq, Cause.transition.injEq] at same
    obtain ⟨commands, rfl, _⟩ := same
    have flag : false = suspended := congrArg TransitionCommand.requesterSuspended commands
    have errand : orderId = payload.orderId := congrArg TransitionCommand.orderId commands
    subst flag errand
    obtain ⟨rule, member, status, action, _⟩ := (does_stepped does).1.rule
    have pending : before.status = .pendingCredit :=
      status ▸ reserved_rules rule member action
    obtain ⟨answered, unhandled⟩ := told rfl pending
    have cleared : Cleared firstEnv payload.orderId.id before.requesterId :=
      ⟨call, envelope, payload, .reserved, answered, task, rfl⟩
    refine ⟨⟨call, envelope, payload, .reserved, (since_later whole).2.answers _ answered, task,
      rfl⟩, ?_⟩
    exact (turns_unhandled (since_standing since) whole.turns replied_touched
      (replied_found since.fits) (by rw [pending]; rfl) cleared unhandled).2

theorem refused_ends {envelope : Envelope} {payload : Reservation} {refusal : Refusal}
    {row : StoredOrder} (task : call.task = .reservation envelope payload (.rejected refusal)) :
    EndsHere settings call (flat (replied envelope payload.orderId.id row))
      ((transition settings.periods (rejectedCommand envelope payload.orderId refusal)
        call.began).bind fun result =>
          match result with
          | .applied _ => .done (.handled true)
          | .rejected _ _ =>
              if refusal.repeats (mapOrder row) then .done (.handled false)
              else .fail .unparseable) store env := by
  have unkeyed : slotOf settings call.task = none := by
    rw [task]
    rfl
  have unreserved {acts : List Act} (does : ∀ act ∈ acts, Does settings call act) :
      ∀ envelope (orderId : WrittenId) before change sent entered,
        .change (.transition (reservedCommand envelope orderId false)) before change sent entered ∉
          acts := by
    intro other orderId before change sent entered member
    obtain ⟨_, _, _, reserves, _⟩ := issues_reserved (does_issues (does _ member)) rfl
    rw [task] at reserves
    cases reserves
  apply ends_transition replied_does (unkeyed_fails unkeyed)
  · intro first firstEnv since missing
    cases missing.symm.trans replied_seen
  · intro first firstEnv again reason since _ _ _
    dsimp only
    split
    · apply ends_done
      intro second secondEnv later
      have does : ∀ act ∈ replied envelope payload.orderId.id row ++
          [.keep (.order payload.orderId.id) again], Does settings call act :=
        does_append replied_does (does_one (.keep _ _))
      exact ⟨_, rfl, reservation_concluded task does (fun _ => again_quiet) id
        fun _ _ _ _ _ _ member => absurd member (unreserved does _ _ _ _ _ _)⟩
    · exact ends_fail (unkeyed_fails unkeyed)
  · intro first firstEnv second secondEnv again change sent since found later named taken sends
    apply ends_done
    intro third thirdEnv last
    have step := Does.change (.transition (rejectedCommand envelope payload.orderId refusal)) again
      change sent named (task ▸ .rejected envelope payload refusal) taken sends
    have does : ∀ act ∈ replied envelope payload.orderId.id row ++ [.keep _ again, _],
        Does settings call act :=
      does_append replied_does (List.forall_mem_cons.mpr ⟨.keep (.order payload.orderId.id) again,
        does_one step⟩)
    exact ⟨_, rfl, reservation_concluded task does nofun id
      fun _ _ _ _ _ _ member => absurd member (unreserved does _ _ _ _ _ _)⟩

theorem reservation_ends {envelope : Envelope} {payload : Reservation} {reply : Reply}
    (task : call.task = .reservation envelope payload reply) :
    EndsHere settings call [] (processOnce .reservationResults envelope.eventId
      (handleReservation settings.periods envelope payload reply call.began)) store env := by
  have unkeyed : slotOf settings call.task = none := by
    rw [task]
    rfl
  apply ends_once (by rw [task]; rfl) unkeyed (by simp [task])
  intro first firstEnv since
  simp only [handleReservation, bind_eq, pure_eq]
  split
  · exact ends_fail (unkeyed_fails unkeyed)
  apply ends_lock_by_id
  · intro second secondEnv later _
    exact ends_fail (unkeyed_fails unkeyed)
  · intro second secondEnv row later found
    simp only
    split
    · exact ends_fail (unkeyed_fails unkeyed)
    · have shape : flat [remembered .reservationResults envelope.eventId] ++
          (Act.keep (.order payload.orderId.id) row).moves =
          flat (replied envelope payload.orderId.id row) := by
        simp [replied, flat]
      rw [shape]
      cases reply with
      | reserved => exact reserved_ends task
      | rejected refusal => exact refused_ends task

/-! ## Suspensions -/

/-- However the rows around it are, a transaction left this row so. -/
def Leaves (acts : List Act) (row : StoredOrder) : Prop :=
  ∀ view, wrote view (flat acts) (.order row.orderId) = some row

theorem leaves_more {more : List Act} {row : StoredOrder} (leaves : Leaves acts row)
    (other : ¬ touched (flat more) (.order row.orderId)) : Leaves (acts ++ more) row := by
  intro view
  rw [flat_append, wrote_append, wrote_other other]
  exact leaves view

/-- A suspension's transition of its requester's errand is refused only while the
errand is picked up and its delivery period not over. -/
theorem suspension_refused {envelope : Envelope} {id : Uuid} {row : StoredOrder}
    {action : OrderAction} {periods : Periods} {tx : Micros} {reason : Rejection}
    (tried : suspensionAction .requester row.status = some action)
    (refused : transitionUsing periods (suspensionCommand envelope id .requester action) tx row =
      .ok (.rejected reason)) :
    row.status = .pickedUp ∧
      passed (mapOrder row).nonDeliveryReportAt (toMillis tx) = false := by
  have applies {decision : TransitionDecision}
      (decided : decideTransition row.status action .system (contextOf (mapOrder row)
        (suspensionCommand envelope id .requester action) (toMillis tx)) = some decision) : False := by
    unfold transitionUsing at refused
    simp only [suspensionCommand, systemCommand, resolveActor, Option.getD_none] at refused
    simp only [suspensionCommand, systemCommand] at decided
    simp only [show (mapOrder row).status = row.status from rfl, decided, Option.any_none,
      Bool.false_eq_true, if_false, bind, Except.bind] at refused
    generalize applyDecision _ _ _ _ _ = applied at refused
    cases applied <;> cases refused
  cases status : row.status <;> rw [status] at tried applies <;> cases tried
  · exact (applies rfl).elim
  · exact (applies rfl).elim
  · refine ⟨rfl, ?_⟩
    by_contra elapsed
    have elapsed : passed (mapOrder row).nonDeliveryReportAt (toMillis tx) = true := by simpa using elapsed
    apply @applies (statusChanged .disputed)
    simp [decideTransition, orderTransitions, TransitionRule.applies, contextOf, elapsed,
      suspensionCommand, List.find?]

theorem ends_note {id : Uuid} {row : StoredOrder} {rest : Unit → Tx Result}
    (held : ∀ view, wrote view (flat acts) (.order id) = some row)
    (goes : ∀ store' env', SinceHere settings (flat acts) store env store' env' →
      EndsHere settings call (flat (acts ++ [.note id row (some call.began)])) (rest ()) store' env') :
    EndsHere settings call (flat acts) ((noteRequesterSuspended id call.began).bind rest)
      store env := by
  simp only [noteRequesterSuspended, bind_eq, pure_eq, bind_bind, done_bind]
  apply ends_update
  · intro first firstEnv since unwanted
    cases unwanted row (held _)
  · intro first firstEnv again since found _
    have same : row = again := Option.some.inj ((held _).symm.trans found)
    subst same
    have next := goes first firstEnv since
    simpa [flat, Act.moves] using next

theorem change_only {cause : Cause} {before : StoredOrder} {change : Applied}
    {sent : List (Uuid × OutboxEvent)} {entered : Option (UserId × String × KeyRow)} {other : Uuid}
    (different : other ≠ cause.orderId.id) :
    ¬ touched (Act.change cause before change sent entered).moves (.order other) := by
  simp only [Act.moves, touched_cons, Key.order.injEq, not_or]
  exact ⟨different, change_other (by simp) (by simp) (by simp) (by simp)⟩

/-- What a suspension did to the errands it locked: each of its user's is closed, and
none but its user's is referred. -/
structure Closed (settings : Settings) (call : Call) (envelope : Envelope) (userId : UserId)
    (rows : List StoredOrder) (more : List Act) : Prop where
  does : ∀ act ∈ more, Does settings call act
  closes : ∀ row ∈ rows, partOf userId row = .requester →
    Closes call envelope row.orderId row more
  refers : ∀ cause before change sent entered, .change cause before change sent entered ∈ more →
    cause.action = .deliveryPeriodPassed → before.requesterId = userId

theorem closes_more {envelope : Envelope} {id : Uuid} {row : StoredOrder} {first second : List Act}
    (closes : Closes call envelope id row first) (more : ∀ act ∈ first, act ∈ second) :
    Closes call envelope id row second := by
  refine ⟨fun status => ?_, fun status => ?_⟩
  · obtain ⟨change, sent, member⟩ := closes.1 status
    exact ⟨change, sent, more _ member⟩
  · rcases closes.2 status with ⟨change, sent, member⟩ | ⟨early, member⟩
    · exact .inl ⟨change, sent, more _ member⟩
    · exact .inr ⟨early, more _ member⟩

theorem closed_cons {envelope : Envelope} {userId : UserId} {row : StoredOrder}
    {others : List StoredOrder} {mine more : List Act}
    (first : Closed settings call envelope userId [row] mine)
    (second : Closed settings call envelope userId others more) :
    Closed settings call envelope userId (row :: others) (mine ++ more) := by
  refine ⟨does_append first.does second.does, ?_, ?_⟩
  · intro other member part
    rcases List.mem_cons.mp member with rfl | later
    · exact closes_more (first.closes _ List.mem_cons_self part)
        fun _ => List.mem_append_left more
    · exact closes_more (second.closes other later part) fun _ => List.mem_append_right mine
  · intro cause before change sent entered member refers
    rcases List.mem_append.mp member with earlier | later
    · exact first.refers _ _ _ _ _ earlier refers
    · exact second.refers _ _ _ _ _ later refers

theorem part_requester {userId : UserId} {row : StoredOrder} (part : partOf userId row = .requester) :
    row.requesterId = userId := by
  by_contra other
  simp only [partOf, if_neg other] at part
  cases part

theorem closed_skipped {envelope : Envelope} {userId : UserId} {row : StoredOrder}
    (skipped : suspensionAction (partOf userId row) row.status = none) :
    Closed settings call envelope userId [row] [] := by
  refine ⟨by simp, ?_, by simp⟩
  intro other member part
  obtain rfl := List.mem_singleton.mp member
  rw [part] at skipped
  refine ⟨fun status => ?_, fun status => ?_⟩
  · rcases status with status | status <;> rw [status] at skipped <;> cases skipped
  · rw [status] at skipped
    cases skipped

/-- A requester's errand that was picked up less than its delivery period ago. -/
theorem closed_noted {envelope : Envelope} {userId : UserId} {row : StoredOrder}
    {action : OrderAction} {periods : Periods} {reason : Rejection}
    (task : call.task = .suspended envelope userId)
    (tried : suspensionAction (partOf userId row) row.status = some action)
    (refused : transitionUsing periods
      (suspensionCommand envelope row.orderId (partOf userId row) action) call.began row =
        .ok (.rejected reason))
    (noted : partOf userId row = .requester ∧ row.status = .pickedUp) :
    Closed settings call envelope userId [row]
      [.keep (.order row.orderId) row, .note row.orderId row (some call.began)] := by
  have requester := part_requester noted.1
  rw [noted.1] at tried refused
  refine ⟨?_, ?_, by simp⟩
  · have marks : Marks call row.orderId row (some call.began) :=
      ⟨noted.2, .inl ⟨envelope, requester.symm ▸ task, rfl⟩⟩
    exact List.forall_mem_cons.mpr ⟨.keep _ _, does_one (.note _ _ _ marks)⟩
  · intro other member part
    obtain rfl := List.mem_singleton.mp member
    refine ⟨fun status => ?_, fun _ => .inr ⟨(suspension_refused tried refused).2, by simp⟩⟩
    rcases status with status | status <;> rw [status] at noted <;> cases noted.2

theorem closed_refused {envelope : Envelope} {userId : UserId} {row : StoredOrder}
    {action : OrderAction} {periods : Periods} {reason : Rejection}
    (tried : suspensionAction (partOf userId row) row.status = some action)
    (refused : transitionUsing periods
      (suspensionCommand envelope row.orderId (partOf userId row) action) call.began row =
        .ok (.rejected reason))
    (unnoted : ¬ (partOf userId row = .requester ∧ row.status = .pickedUp)) :
    Closed settings call envelope userId [row] [.keep (.order row.orderId) row] := by
  refine ⟨does_one (.keep _ _), ?_, by simp⟩
  intro other member part
  obtain rfl := List.mem_singleton.mp member
  rw [part] at tried refused
  exact absurd ⟨part, (suspension_refused tried refused).1⟩ unnoted

theorem closed_changed {envelope : Envelope} {userId : UserId} {row : StoredOrder}
    {action : OrderAction} {change : Applied} {sent : List (Uuid × OutboxEvent)}
    (tried : suspensionAction (partOf userId row) row.status = some action)
    (does : Does settings call (.change (.transition (suspensionCommand envelope row.orderId
      (partOf userId row) action)) row change sent none)) :
    Closed settings call envelope userId [row] [.keep (.order row.orderId) row,
      .change (.transition (suspensionCommand envelope row.orderId (partOf userId row) action)) row
        change sent none] := by
  refine ⟨List.forall_mem_cons.mpr ⟨.keep _ _, does_one does⟩, ?_, ?_⟩
  · intro other member part
    obtain rfl := List.mem_singleton.mp member
    rw [part] at tried ⊢
    refine ⟨fun status => ⟨change, sent, ?_⟩, fun status => .inl ⟨change, sent, ?_⟩⟩
    · rcases status with status | status <;> rw [status] at tried <;> cases tried <;> simp
    · rw [status] at tried
      cases tried
      simp
  · intro cause before applied events entered member refers
    simp only [List.mem_cons, reduceCtorEq, false_or, List.not_mem_nil, or_false,
      Act.change.injEq] at member
    obtain ⟨rfl, rfl, _⟩ := member
    have dispute : action = .deliveryPeriodPassed := refers
    subst dispute
    cases part : partOf userId before with
    | requester => exact part_requester part
    | courier =>
        rw [part] at tried
        cases status : before.status <;> rw [status] at tried <;> cases tried

/-- The errands of a suspended user, one after another. -/
theorem ends_suspend_errands {envelope : Envelope} {userId : UserId} {rows : List StoredOrder}
    {rest : Unit → Tx Result} (task : call.task = .suspended envelope userId)
    (does : ∀ act ∈ acts, Does settings call act) (held : ∀ row ∈ rows, Leaves acts row)
    (distinct : (rows.map StoredOrder.orderId).Nodup)
    (goes : ∀ store' env' more, SinceHere settings (flat acts) store env store' env' →
      Closed settings call envelope userId rows more →
      EndsHere settings call (flat (acts ++ more)) (rest ()) store' env') :
    EndsHere settings call (flat acts)
      ((suspendErrands settings.periods envelope userId call.began rows).bind rest) store env := by
  have unkeyed : slotOf settings call.task = none := by
    rw [task]
    rfl
  induction rows generalizing acts store env with
  | nil =>
      intro reached fits
      have next := goes store env [] (since_refl reached fits) ⟨by simp, by simp, by simp⟩
      rw [List.append_nil] at next
      exact next reached fits
  | cons row others ih =>
      rw [List.map_cons, List.nodup_cons] at distinct
      have here := held row List.mem_cons_self
      have further (more : List Act) (only : ∀ other, other ≠ row.orderId →
          ¬ touched (flat more) (.order other)) : ∀ other ∈ others, Leaves (acts ++ more) other := by
        intro other member
        apply leaves_more (held other (List.mem_cons_of_mem _ member))
        apply only
        intro same
        exact distinct.1 (List.mem_map.mpr ⟨other, member, same⟩)
      -- What the rest does follows what was done for this row.
      have continues {first : Store Row} {firstEnv : Env} (mine : List Act)
          (closed : Closed settings call envelope userId [row] mine)
          (only : ∀ other, other ≠ row.orderId → ¬ touched (flat mine) (.order other))
          (since : SinceHere settings (flat acts) store env first firstEnv) :
          EndsHere settings call (flat (acts ++ mine))
            ((suspendErrands settings.periods envelope userId call.began others).bind rest)
            first firstEnv := by
        apply ih (does_append does closed.does) (further mine only) distinct.2
        intro second secondEnv more later rest
        rw [flat_append] at later
        have next := goes second secondEnv (mine ++ more) (since_trans since (since_narrow later))
          (closed_cons closed rest)
        rwa [← List.append_assoc] at next
      have id_of : (written row.orderId).id = row.orderId := rfl
      simp only [suspendErrands]
      cases tried : suspensionAction (partOf userId row) row.status with
      | none =>
          intro reached fits
          have next := continues [] (closed_skipped tried) (by simp) (since_refl reached fits)
          rw [List.append_nil] at next
          exact next reached fits
      | some action =>
          simp only [bind_eq, bind_bind]
          apply ends_transition does (unkeyed_fails unkeyed)
          · intro first firstEnv since missing
            cases missing.symm.trans (here _)
          · intro first firstEnv again reason since found _ refused
            have same : row = again := Option.some.inj ((here _).symm.trans found)
            subst same
            dsimp only
            split
            · rename_i noted
              simp only [bind_bind]
              apply ends_note (fun _ => kept_seen)
              intro second secondEnv later
              rw [flat_append] at later
              rw [List.append_assoc]
              apply continues _ (closed_noted task tried refused noted) _
                (since_trans since (since_narrow later))
              intro other different
              simp [Act.moves, different]
            · rename_i unnoted
              apply continues _ (closed_refused tried refused unnoted) _ since
              intro other different
              simp [Act.moves, different]
          · intro first firstEnv second secondEnv again change sent since found later named taken sends
            have same : row = again := Option.some.inj ((here _).symm.trans found)
            subst same
            have step := Does.change (.transition (suspensionCommand envelope row.orderId
              (partOf userId row) action)) row change sent named
              (task ▸ .suspended envelope userId row.orderId _ _ _ tried) taken sends
            rw [flat_append] at later
            apply continues _ (closed_changed tried step) _ (since_trans since (since_narrow later))
            intro other different
            rw [flat_cons, touched_append, flat_cons, touched_append]
            rintro (keep | change | none)
            · simp [Act.moves, different] at keep
            · exact change_only different change
            · cases none

theorem suspendable_active {userId : UserId} {row : StoredOrder}
    (requester : row.requesterId = userId) (waits : suspendable row.status = true) :
    activeErrand userId row = true := by
  cases status : row.status <;> rw [status] at waits <;> cases waits
  all_goals simp [activeErrand, requester, status, suspensionAction]

/-- The rows a suspension locks are orders. -/
def errandWanted (userId : UserId) (key : Key) : Row key → Bool :=
  match key with
  | .order _ => activeErrand userId
  | _ => fun _ => false

def errandKeep (row : StoredOrder) : Sigma Row := ⟨.order row.orderId, row⟩

def errandKeeps (rows : List StoredOrder) : List Act :=
  rows.map fun row => .keep (.order row.orderId) row

theorem flat_errand_keeps (rows : List StoredOrder) :
    flat (errandKeeps rows) = (rows.map errandKeep).map keepMove := by
  induction rows with
  | nil => rfl
  | cons row rest ih => exact congrArg (List.cons _) ih

def errandsOf (hits : List (Sigma Row)) : List StoredOrder :=
  hits.filterMap fun
    | ⟨.order _, row⟩ => some row
    | _ => none

theorem errands_all {hits : List (Sigma Row)} (errands : ∀ hit ∈ hits, ∃ row, hit = errandKeep row) :
    hits = (errandsOf hits).map errandKeep := by
  induction hits with
  | nil => rfl
  | cons hit rest ih =>
      obtain ⟨row, rfl⟩ := errands hit List.mem_cons_self
      have others := ih fun other member => errands other (List.mem_cons_of_mem _ member)
      exact congrArg (List.cons (errandKeep row)) others

theorem ends_lock_active {userId : UserId} {rest : List StoredOrder → Tx Result}
    (apart : ∀ id, ¬ touched (flat acts) (.order id))
    (goes : ∀ store₀ env₀ rows store' env', SinceHere settings (flat acts) store env store₀ env₀ →
      SinceHere settings (flat acts) store₀ env₀ store' env' →
      (rows.map StoredOrder.orderId).Nodup →
      (∀ id row before, store₀.lookup (.order id) = some before →
        store'.lookup (.order id) = some row → suspendable row.status = true →
        row.requesterId = userId → row ∈ rows) →
      EndsHere settings call (flat (acts ++ errandKeeps rows)) (rest rows) store' env') :
    EndsHere settings call (flat acts) ((lockActiveErrandsOf userId).bind rest) store env := by
  have scan : (lockActiveErrandsOf userId).bind rest =
      .scan (lockingAll (errandWanted userId)) fun _ hits => rest (errandsOf hits) := rfl
  rw [scan]
  apply ends_lock_all
  intro start startEnv hits last lastEnv since locked
  have untouched (view : View Row) (id : Uuid) :
      wrote view (flat acts) (.order id) = view (.order id) := wrote_other (apart id)
  have standing := since_standing locked.since
  have keeps := keeps_found (fits_append.mp locked.fits).2
  have errands : ∀ hit ∈ hits, ∃ row, hit = errandKeep row := by
    intro hit member
    obtain ⟨key, row⟩ := hit
    have wants := locked.matched _ member
    cases key with
    | order id =>
        have present := keeps _ member
        rw [untouched] at present
        have named : row.orderId = id := standing.named id row present
        exact ⟨row, by rw [errandKeep, named]⟩
    | _ => cases wants
  have whole := errands_all errands
  have named : hits.map keepMove = flat (errandKeeps (errandsOf hits)) := by
    rw [flat_errand_keeps, ← whole]
  rw [named, ← flat_append]
  apply goes start startEnv _ last lastEnv since locked.since
  · have distinct := locked.distinct
    rw [whole, List.map_map] at distinct
    apply List.Nodup.of_map Key.order
    rw [List.map_map]
    exact distinct
  · intro id row before found present waits requester
    have later := since_later locked.since
    obtain ⟨next, there, order⟩ := later.1.orders id before found
    cases present.symm.trans there
    have wanted : errandWanted userId (.order id) before = true :=
      suspendable_active (order.same.requesterId.symm.trans requester) (order.gone waits)
    rcases locked.covered (.order id) before (by rw [untouched]; exact found) wanted with
      left | hit | ⟨middle, middleEnv, earlier, later, unwanted⟩
    · cases left
    · obtain ⟨locks, member, same⟩ := List.mem_map.mp hit
      obtain ⟨held, rfl⟩ := errands locks member
      have same : held.orderId = id := Key.order.inj same
      subst same
      have seen := keeps _ member
      simp only [errandKeep] at seen
      rw [untouched] at seen
      cases present.symm.trans seen
      exact List.mem_filterMap.mpr ⟨_, member, rfl⟩
    · obtain ⟨between, there, first⟩ := (since_later earlier).1.orders id before found
      obtain ⟨final, here, second⟩ := (since_later later).1.orders id between there
      cases present.symm.trans here
      have refused := unwanted between (by rw [untouched]; exact there)
      have wanted : errandWanted userId (.order id) between = true :=
        suspendable_active (second.same.requesterId.symm.trans requester) (second.gone waits)
      rw [wanted] at refused
      cases refused

theorem errand_leaves {rows : List StoredOrder} (distinct : (rows.map StoredOrder.orderId).Nodup) :
    ∀ row ∈ rows, Leaves (acts ++ errandKeeps rows) row := by
  intro row member view
  rw [flat_append, wrote_append, flat_errand_keeps]
  have keys : ((rows.map errandKeep).map Sigma.fst).Nodup := by
    have injective : Function.Injective Key.order := fun _ _ same => Key.order.inj same
    have keys := distinct.map injective
    rw [List.map_map] at keys ⊢
    exact keys
  exact wrote_kept keys (List.mem_map.mpr ⟨row, member, rfl⟩)

theorem errand_keeps_kept {rows : List StoredOrder} : keeps (errandKeeps rows) := by
  intro act member
  obtain ⟨row, _, rfl⟩ := List.mem_map.mp member
  exact ⟨_, _, rfl⟩

theorem suspension_concluded {envelope : Envelope} {userId : UserId} {result : Result}
    {view : View Row} (task : call.task = .suspended envelope userId)
    (does : ∀ act ∈ acts, Does settings call act)
    (quiet : result.effective = false → ∀ act ∈ acts, act.quiet) (lists : ¬ result.lists)
    (covers : ∀ lifted, result = .suspensionHandled true lifted → lifted ≤ env.lifted userId ∧
      (lifted = env.lifted userId →
        userId ∈ env.suspended ∧ Covers call envelope userId view env acts))
    (refers : ∀ cause before change sent entered, .change cause before change sent entered ∈ acts →
      cause.action = .deliveryPeriodPassed →
      before.requesterId = userId ∧ (call, userId, true) ∈ env.answers) :
    Concluded settings call result view env acts := by
  have unkeyed : slotOf settings call.task = none := by
    rw [task]
    rfl
  refine ⟨by rw [task]; rfl, does, quiet, ?_, ?_, unlisted_reports lists, ?_, ?_, ?_, ?_, ?_, ?_⟩
  · intro slot requestHash keyed
    rw [unkeyed] at keyed
    cases keyed
  · intro act member slot row enters
    exact absurd enters (unkeyed_acts does unkeyed act member slot row)
  · intro id admins admin considers
    rw [task] at considers
    cases considers
  · intro other orderId before change sent entered member
    obtain ⟨_, _, _, reserves, _⟩ := issues_reserved (does_issues (does _ member)) rfl
    rw [task] at reserves
    cases reserves
  · intro other id lifted suspends same
    rw [task] at suspends
    cases suspends
    exact covers lifted same
  · intro other id suspends
    rw [task] at suspends
    cases suspends
    exact refers
  · intro id attempt member
    exact absurd member (unattempted does (by simp [task]) (.attempt id) attempt rfl)
  · intro id event member
    exact absurd member (unattempted does (by simp [task]) (.outbox id) event rfl)

theorem suspension_ends {envelope : Envelope} {userId : UserId}
    (task : call.task = .suspended envelope userId) :
    EndsHere settings call [] (processOnce .userSuspensions envelope.eventId
      (handleSuspension settings.periods envelope userId call.began)) store env := by
  have unkeyed : slotOf settings call.task = none := by
    rw [task]
    rfl
  apply ends_once (by rw [task]; rfl) unkeyed (by simp [task])
  intro first firstEnv since
  simp only [handleSuspension, bind_eq, pure_eq]
  apply ends_ask
  · intro second secondEnv later
    refine ⟨by rw [task]; rfl, ?_⟩
    intro other payload reply same
    rw [task] at same
    cases same
  intro second secondEnv answer asked later responded here
  have truth : answer = ⟨asked.suspended.contains userId, asked.lifted userId⟩ := by
    simp only [respond] at responded
    split at responded
    · rename_i truth
      cases responded
      exact truth
    · cases responded
  cases told : answer.suspended with
  | false =>
      apply ends_done
      intro third thirdEnv last
      exact ⟨_, rfl, suspension_concluded task remembered_does (fun _ => remembered_quiet) id (fun _ absurd => by cases absurd)
        fun _ _ _ _ _ member => absurd member (quiet_unreserved remembered_quiet)⟩
  | true =>
      have held : userId ∈ asked.suspended := by
        rw [truth] at told
        simpa using told
      have inquired : (call, userId, true) ∈ asked.answers := by
        simp only [respond] at responded
        split at responded
        · cases responded
          simp [told]
        · cases responded
      have count : answer.lifted = asked.lifted userId := by rw [truth]
      simp only [if_true]
      apply ends_lock_active
      · intro id
        simp [remembered, Act.moves]
      intro start startEnv rows third thirdEnv before scanned distinct covered
      apply ends_suspend_errands task (does_append remembered_does (keeps_do errand_keeps_kept))
        (errand_leaves distinct) distinct
      intro fourth fourthEnv more later closed
      apply ends_done
      intro last lastEnv final
      rw [flat_append] at final
      have rest := since_trans later (since_narrow final)
      have whole : EnvLater asked lastEnv := by
        rw [flat_append] at rest
        exact (since_later (since_trans (since_trans before scanned) (since_narrow rest))).2
      refine ⟨_, rfl, suspension_concluded task (does_append (does_append remembered_does
        (keeps_do errand_keeps_kept)) closed.does) (fun still => by cases still) id ?_ ?_⟩
      rotate_left
      · intro cause before change sent entered member refers
        rcases List.mem_append.mp member with earlier | later
        · have quiet := List.forall_mem_append.mpr
            ⟨@remembered_quiet .userSuspensions envelope.eventId, keeps_quiet (@errand_keeps_kept rows)⟩
          exact absurd earlier (quiet_unreserved quiet)
        · exact ⟨closed.refers _ _ _ _ _ later refers, whole.answers _ inquired⟩
      intro lifted same
      obtain rfl : answer.lifted = lifted := by
        cases same
        rfl
      rw [count]
      refine ⟨whole.lifted userId, fun still => ?_⟩
      have remains : ¬ asked.lifted userId < lastEnv.lifted userId := still.not_lt
      refine ⟨(whole.suspended userId held).resolve_right remains,
        fun id cleared row present waits => ?_⟩
      -- The errand was cleared before the suspension was known, so it was there to lock.
      have earlier : Cleared asked id userId := by
        obtain ⟨other, envelope, payload, reply, member, reserves⟩ := cleared
        rcases whole.told other userId member with there | free | gone
        · exact ⟨other, envelope, payload, reply, there, reserves⟩
        · exact absurd held free
        · exact absurd gone remains
      obtain ⟨cleared, there, requester⟩ := (since_standing here).cleared id userId earlier
      obtain ⟨atScan, stood, orderScan⟩ := (since_later before).1.orders id cleared there
      obtain ⟨scannedRow, standing, orderScanned⟩ := (since_later scanned).1.orders id atScan stood
      obtain ⟨ended, ending, orderEnded⟩ := (since_later rest).1.orders id scannedRow standing
      cases present.symm.trans ending
      have locked := covered id scannedRow atScan stood standing (orderEnded.gone waits)
        (orderScanned.same.requesterId.trans (orderScan.same.requesterId.trans requester))
      have named : scannedRow.orderId = id := (since_standing scanned).named id scannedRow standing
      have kept : Act.keep (.order id) scannedRow ∈ errandKeeps rows :=
        List.mem_map.mpr ⟨scannedRow, locked, by rw [named]⟩
      have same : row = scannedRow := by
        have touches : touched (flat ([remembered .userSuspensions envelope.eventId] ++
            errandKeeps rows)) (.order id) :=
          mem_flat (List.mem_append_right _ kept) (by simp [Act.moves])
        have still := since_seen rest touches
        exact Option.some.inj (ending.symm.trans (still.trans standing))
      subst same
      refine ⟨List.mem_append_left _ (List.mem_append_right _ kept), ?_⟩
      have part : partOf userId row = .requester := by
        simp [partOf, orderScanned.same.requesterId.trans (orderScan.same.requesterId.trans requester)]
      have closes := closed.closes row locked part
      rw [named] at closes
      exact closes_more closes fun _ => List.mem_append_right _

/-! ## The scheduler -/

/-- What a call of an ordinary task needs to end without having done anything. -/
theorem ends_quiet {result : Result} (plain : ordinary call.task)
    (ready : prepared env call.task = true) (does : ∀ act ∈ acts, Does settings call act)
    (quiet : ∀ act ∈ acts, act.quiet) (lists : ¬ result.lists) :
    EndsHere settings call (flat acts) (.done result) store env := by
  apply ends_done
  intro first firstEnv since
  exact ⟨acts, rfl, ordinary_concluded plain (prepared_later (since_later since).2 ready) does
    (fun _ => quiet) lists⟩

theorem quiet_one {act : Act} (quiet : act.quiet) : ∀ other ∈ [act], other.quiet := by
  intro other member
  exact List.mem_singleton.mp member ▸ quiet

theorem ordinary_unkeyed (plain : ordinary call.task) : slotOf settings call.task = none := by
  cases task : call.task <;> rw [task] at plain <;> try first | rfl | exact plain.elim
  rename_i key _ _
  cases key with
  | none => rfl
  | some key => exact plain.elim

theorem fire_ends {command : TransitionCommand} (plain : ordinary call.task)
    (ready : prepared env call.task = true)
    (issued : Issues settings call.task (.transition command)) :
    EndsHere settings call [] (fireCommand settings.periods command call.began) store env := by
  have fails {moves : List (Move Row)} {store : Store Row} {env : Env} :
      MayFail settings call moves store env := unkeyed_fails (ordinary_unkeyed plain)
  simp only [fireCommand, bind_eq, pure_eq]
  rw [← flat_nil]
  apply ends_transition (by simp) fails
  · intro first firstEnv since _
    exact ends_quiet plain (prepared_later (since_later since).2 ready) (by simp) (by simp) id
  · intro first firstEnv row reason since _ _ _
    exact ends_quiet plain (prepared_later (since_later since).2 ready) (does_one (.keep _ _))
      (quiet_one trivial) id
  · intro first firstEnv second secondEnv row change sent since _ later named taken sends
    apply ends_done
    intro third thirdEnv last
    have whole := (since_later (since_trans (since_any later) (since_any last))).2
    have ready := prepared_later (env_later_trans (since_later since).2 whole) ready
    refine ⟨_, rfl, ordinary_concluded plain ready (List.forall_mem_cons.mpr ⟨.keep _ _,
      does_one (.change (.transition command) row change sent named issued taken sends)⟩) nofun id⟩

theorem clear_ends {orderId : Uuid} (task : call.task = .clearSuspended orderId)
    (ready : prepared env call.task = true) :
    EndsHere settings call [] (clearRequesterSuspended orderId) store env := by
  have plain : ordinary call.task := by
    rw [task]
    trivial
  simp only [clearRequesterSuspended, bind_eq, pure_eq]
  rw [← flat_nil]
  apply ends_update
  · intro first firstEnv since _
    exact ends_quiet plain (prepared_later (since_later since).2 ready) (by simp) (by simp) id
  · intro first firstEnv row since found wanted
    apply ends_done
    intro second secondEnv later
    have ready := prepared_later (since_later (since_trans since (since_any later))).2 ready
    have marks : Marks call orderId row none := ⟨by simpa using wanted, .inr ⟨task, rfl⟩⟩
    exact ⟨[.note orderId row none], rfl, ordinary_concluded plain ready
      (does_one (.note _ _ _ marks)) nofun id⟩

theorem unslotted_concluded {result : Result} {view : View Row}
    (unkeyed : slotOf settings call.task = none) (ready : prepared env call.task = true)
    (quiet : ∀ act ∈ acts, act.quiet) (does : ∀ act ∈ acts, Does settings call act)
    (reports : Reports call view env result)
    (chosen : ∀ id admins admin, call.task = .consider id admins → result = .chosen (some admin) →
      ¬ TookPart view id admin.id)
    (handled : ∀ suspended lifted, result ≠ .suspensionHandled suspended lifted)
    (plain : ∀ id attempt, .record (.attempt id) attempt ∉ acts) :
    Concluded settings call result view env acts := by
  refine ⟨ready, does, fun _ => quiet, ?_, ?_, reports, chosen, ?_, ?_, ?_, ?_, ?_⟩
  · intro slot requestHash keyed
    rw [unkeyed] at keyed
    cases keyed
  · intro act member slot row enters
    exact absurd enters (unkeyed_acts does unkeyed act member slot row)
  · intro envelope orderId before change sent entered member
    exact absurd member (quiet_unreserved quiet)
  · intro envelope userId lifted _ same
    exact absurd same (handled true lifted)
  · intro envelope userId _ cause before change sent entered member
    exact absurd member (quiet_unreserved quiet)
  · intro id attempt member
    exact absurd member (plain id attempt)
  · intro id event member
    exact (quiet _ member).elim

theorem mem_order_rows {store : Store Row} {row : StoredOrder} (member : row ∈ orderRows store) :
    ∃ id, store.lookup (.order id) = some row := by
  obtain ⟨⟨key, held⟩, present, same⟩ := List.mem_filterMap.mp member
  cases key with
  | order id =>
      cases same
      exact ⟨id, AList.mem_lookup_iff.mpr present⟩
  | _ => cases same

theorem now_ends (task : call.task = .databaseNow) :
    EndsHere settings call [] (.done (.time (toMillis call.began))) store env := by
  apply ends_done
  intro first firstEnv since
  exact ⟨[], rfl, unslotted_concluded (by rw [task]; rfl) (by rw [task]; rfl) (by simp) (by simp)
    rfl (by simp [task]) nofun (by simp)⟩

theorem list_ends {admins : List Account} (task : call.task = .disputesToRefer admins) :
    EndsHere settings call [] (listDisputesToRefer settings admins) store env := by
  apply ends_select
  intro first firstEnv since
  apply ends_done
  intro second secondEnv later
  refine ⟨[], rfl, unslotted_concluded (by rw [task]; rfl) (by rw [task]; rfl) (by simp) (by simp)
    ?_ (by simp [task]) nofun (by simp)⟩
  intro dispute member
  obtain ⟨row, picked, rfl⟩ := List.mem_map.mp member
  have listed := List.mem_mergeSort.mp (List.mem_of_mem_take picked)
  obtain ⟨stored, needs⟩ := List.mem_filter.mp listed
  obtain ⟨id, found⟩ := mem_order_rows stored
  have found : first.lookup (.order id) = some row := found
  have named : row.orderId = id := (since_standing since).named id row found
  obtain ⟨next, present, order⟩ := (since_later later).1.orders id row found
  have fixed : partiesFixed row.status = true := by
    simp only [needsReferral, Bool.and_eq_true, decide_eq_true_eq] at needs
    rw [needs.1]
    rfl
  exact ⟨next, by rw [named]; exact present, (order.fixed fixed).1⟩

/-- An overdue errand listed before keeps its parties and its delivery period. -/
theorem overdue_ends {now : Millis} (task : call.task = .deliveryOverdue now)
    (ready : prepared env call.task = true) :
    EndsHere settings call [] (findDeliveryOverdue settings now) store env := by
  apply ends_select
  intro first firstEnv since
  apply ends_done
  intro second secondEnv later
  refine ⟨[], rfl, unslotted_concluded (by rw [task]; rfl)
    (prepared_later (since_later (since_trans since later)).2 ready) (by simp) (by simp) ?_
    (by simp [task]) nofun (by simp)⟩
  intro read same errand member
  rw [task] at same
  cases same
  obtain ⟨row, picked, rfl⟩ := List.mem_map.mp member
  have listed := List.mem_mergeSort.mp (List.mem_of_mem_take picked)
  obtain ⟨stored, overdue⟩ := List.mem_filter.mp listed
  obtain ⟨id, found⟩ := mem_order_rows stored
  have found : first.lookup (.order id) = some row := found
  have named : row.orderId = id := (since_standing since).named id row found
  obtain ⟨next, present, order⟩ := (since_later later).1.orders id row found
  simp only [deliveryOverdue, Bool.and_eq_true, decide_eq_true_eq] at overdue
  obtain ⟨⟨status, _⟩, ended⟩ := overdue
  obtain ⟨ends, period, elapsed⟩ := (Option.any_eq_true _ _).mp ended
  have fixed : partiesFixed row.status = true := by
    rw [status]
    rfl
  refine ⟨next, ends, by rw [named]; exact present, order.same.requesterId, (order.fixed fixed).1,
    (order.period fixed).trans period, by simpa using elapsed⟩

theorem inquire_ends {orderId : Uuid} {requesterId : UserId} {now : Millis}
    (task : call.task = .inquire orderId requesterId now)
    (ready : prepared env call.task = true) :
    EndsHere settings call [] (inquire requesterId) store env := by
  simp only [inquire, bind_eq, pure_eq]
  apply ends_ask
  · intro first firstEnv since
    refine ⟨prepared_later (since_later since).2 ready, ?_⟩
    intro envelope payload reply replies
    rw [task] at replies
    cases replies
  intro first firstEnv answer asked since responded here
  have told : (call, requesterId, answer.suspended) ∈ asked.answers := by
    simp only [respond] at responded
    split at responded
    · cases responded
      exact List.mem_cons_self
    · cases responded
  apply ends_done
  intro second secondEnv later
  have whole := since_later (since_trans since (since_trans here later))
  refine ⟨[], rfl, unslotted_concluded (by rw [task]; rfl) (prepared_later whole.2 ready) (by simp)
    (by simp) ?_ (by simp [task]) (by simp) (by simp)⟩
  intro id userId read same
  rw [task] at same
  cases same
  exact (since_later later).2.answers _ told

/-- The participants read are all who took part. -/
theorem took_participant {store : Store Row} {id : Uuid} {userId : UserId}
    (took : TookPart store.lookup id userId) : userId ∈ participants store id := by
  unfold participants
  rcases took with ⟨row, found, parties⟩ | ⟨version, entry, found, accepts, actor⟩
  · refine List.mem_append_left _ (List.mem_flatMap.mpr ⟨row, by simp [found], ?_⟩)
    rcases parties with requester | courier
    · exact requester ▸ List.mem_cons_self
    · exact List.mem_cons_of_mem _ (by simp [courier])
  · refine List.mem_append_right _ (List.mem_filterMap.mpr ⟨⟨.history id version, entry⟩, ?_, ?_⟩)
    · exact AList.mem_lookup_iff.mp found
    · simp [accepts, actor]

theorem consider_ends {id : Uuid} {admins : List Account} (task : call.task = .consider id admins)
    (ready : prepared env call.task = true) :
    EndsHere settings call [] (considerDispute id admins) store env := by
  have unkeyed : slotOf settings call.task = none := by
    rw [task]
    rfl
  simp only [considerDispute, bind_eq, pure_eq]
  apply ends_read
  intro first firstEnv since
  have ready := prepared_later (since_later since).2 ready
  have listed : firstEnv.listed id (fun _ => true) = true := by
    rw [task] at ready
    exact ready
  obtain ⟨row, found, fixed⟩ := (since_standing since).listed id listed
  have seen : overlay first (added ∅ ([] : List (Move Row))) = first := rfl
  rw [seen]
  have concluded {second : Store Row} {secondEnv : Env} {result : Result} {acts : List Act}
      (later : SinceHere settings [] first firstEnv second secondEnv)
      (quiet : ∀ act ∈ acts, act.quiet) (does : ∀ act ∈ acts, Does settings call act)
      (picks : ∃ choice, result = .chosen choice ∧
        ∀ admin, choice = some admin → admin.id ∉ participants first id) :
      Concluded settings call result second.lookup secondEnv acts := by
    obtain ⟨choice, rfl, apart⟩ := picks
    refine unslotted_concluded unkeyed (prepared_later (since_later later).2 ready) quiet does
      trivial ?_ nofun fun id attempt => unattempted does (by simp [task]) (.attempt id) attempt rfl
    intro other others admin considers same took
    rw [task] at considers
    cases considers
    cases same
    exact apart admin rfl (took_participant (took_part_fixed (since_later later).1 found fixed took))
  split
  · apply ends_insert
    · intro second secondEnv later _
      apply ends_done
      intro third thirdEnv last
      have whole := since_trans later (since_any last)
      exact ⟨[.record (.alert id .referralUnassigned) ()], rfl, concluded whole (quiet_one trivial)
        (does_one (.record _ _ trivial nofun)) ⟨none, rfl, nofun⟩⟩
    · intro second secondEnv old later _
      apply ends_done
      intro third thirdEnv last
      exact ⟨[], rfl, concluded (since_trans later last) (by simp) (by simp) ⟨none, rfl, nofun⟩⟩
  · apply ends_read
    intro second secondEnv later
    apply ends_done
    intro third thirdEnv last
    refine ⟨[], rfl, concluded (since_trans later last) (by simp) (by simp) ⟨_, rfl, ?_⟩⟩
    intro admin picked
    have listed := List.mem_mergeSort.mp (List.mem_of_mem_head? picked)
    have eligible := (List.mem_filter.mp listed).2
    simpa using eligible

theorem review_ends {caller : AuthContext} {orderId : WrittenId}
    (task : call.task = .review caller orderId) :
    EndsHere settings call [] (reviewDispute caller orderId) store env := by
  have plain : ordinary call.task := by
    rw [task]
    trivial
  have ready (env : Env) : prepared env call.task = true := by
    rw [task]
    rfl
  have quietly {result : Result} {store : Store Row} {env : Env} (lists : ¬ result.lists) :
      EndsHere settings call [] (.done result) store env := by
    rw [← flat_nil]
    exact ends_quiet plain (ready env) (by simp) (by simp) lists
  simp only [reviewDispute, bind_eq, pure_eq]
  apply ends_select_order
  intro first firstEnv since
  split
  · exact quietly id
  · split
    · exact quietly id
    · apply ends_read
      intro second secondEnv later
      split
      · exact quietly id
      · exact quietly id

/-! ## Reconciliation -/

theorem credit_request_plain {order : OrderRow} {payload : Payload}
    (requested : creditRequest order = .ok payload) : payload.eventType ≠ .statusChanged := by
  unfold creditRequest at requested
  split at requested
  · cases requested
    simp [Payload.eventType]
  · simp only [emittedEvent] at requested
    split at requested
    · cases requested
    · split at requested
      · cases requested
      · cases requested
        simp [Payload.eventType]
  · cases requested
    simp [Payload.eventType]
  · cases requested

theorem reissues_does {input : Reconciliation} {order : OrderRow} {issued : Option Uuid}
    {more : List Act} (task : call.task = .reconcile input)
    (reissues : Reissues input order issued more) : ∀ act ∈ more, Does settings call act := by
  cases action : input.action <;> simp only [Reissues, action] at reissues
  · obtain ⟨eventId, payload, _, requested, rfl⟩ := reissues
    exact does_one (.record _ _ (credit_request_plain requested) fun _ => ⟨input, task⟩)
  · rcases reissues with rfl | rfl
    · simp
    · exact does_one (.record _ _ trivial nofun)
  · subst reissues
    simp

theorem reissues_plain {input : Reconciliation} {order : OrderRow} {issued : Option Uuid}
    {more : List Act} (reissues : Reissues input order issued more) :
    ∀ act ∈ more, (∀ cause before change sent entered, act ≠ .change cause before change sent entered) ∧
      ∀ id attempt, act ≠ .record (.attempt id) attempt := by
  cases action : input.action <;> simp only [Reissues, action] at reissues
  · obtain ⟨eventId, payload, _, _, rfl⟩ := reissues
    simp
  · rcases reissues with rfl | rfl <;> simp
  · subst reissues
    simp

theorem attempt_concluded {input : Reconciliation} {attemptId : Uuid} {attempt : Attempt}
    {view : View Row} (attempted : Attempted settings call input view acts attemptId attempt) :
    Concluded settings call (.reconciled true) view env acts := by
  have task := attempted.task
  obtain ⟨row, more, _, _, _, reissues, shape⟩ := attempted.observed
  have plain := reissues_plain reissues
  have does : ∀ act ∈ acts, Does settings call act := by
    rw [shape]
    exact List.forall_mem_cons.mpr ⟨.keep _ _, does_append (reissues_does task reissues)
      (does_one (.record _ _ trivial fun _ => ⟨input, task⟩))⟩
  have changeless : ∀ cause before change sent entered,
      .change cause before change sent entered ∉ acts := by
    intro cause before change sent entered member
    simp only [shape, List.mem_cons, reduceCtorEq, List.mem_append, List.not_mem_nil, or_false,
      false_or] at member
    exact (plain _ member).1 _ _ _ _ _ rfl
  have unkeyed : slotOf settings call.task = none := by
    rw [task]
    rfl
  refine ⟨by rw [task]; rfl, does, nofun, by simp [unkeyed], ?_, trivial, by simp [task], ?_,
    by simp [task], by simp [task], ?_, ?_⟩
  · intro act member slot row enters
    exact absurd enters (unkeyed_acts does unkeyed act member slot row)
  · intro envelope orderId before change sent entered member
    exact absurd member (changeless _ _ _ _ _)
  · intro id other member
    have same : Act.record (.attempt id) other = .record (.attempt attemptId) attempt := by
      simp only [shape, List.mem_cons, List.mem_append, List.not_mem_nil, or_false] at member
      rcases member with kept | early | last
      · cases kept
      · exact absurd rfl ((plain _ early).2 _ _)
      · exact last
    simp only [Act.record.injEq, Key.attempt.injEq] at same
    obtain ⟨rfl, same⟩ := same
    cases same
    exact ⟨input, attempted⟩
  · intro id event member
    exact ⟨attemptId, attempt, by simp [shape]⟩

theorem ends_reissued {input : Reconciliation} {order : OrderRow} {rest : Option Uuid → Tx Result}
    (fails : MayFail settings call (flat acts) store env)
    (goes : ∀ store' env' more issued, SinceHere settings (flat acts) store env store' env' →
      Reissues input order issued more →
      EndsHere settings call (flat (acts ++ more)) (rest issued) store' env') :
    EndsHere settings call (flat acts) ((reissued input order).bind rest) store env := by
  unfold reissued
  split
  · rename_i action
    split
    · exact ends_fail fails
    · rename_i payload requested
      simp only
      split
      · exact ends_fail fails
      · rename_i event taken
        obtain ⟨rfl, _⟩ := outbox_ok taken
        simp only [bind_eq, pure_eq, bind_bind]
        apply ends_event fails
        intro first firstEnv id since
        have reissues : Reissues input order (some id) [.record (.outbox id)
            { aggregateId := written order.orderId
              payload
              correlationId := input.correlationId
              causationId := none }] := by
          rw [Reissues, action]
          exact ⟨id, payload, rfl, requested, rfl⟩
        have next := goes first firstEnv _ (some id) since reissues
        simpa [flat, Act.moves, sentMoves] using next
  · rename_i action
    simp only [insertNew, bind_eq, pure_eq]
    apply ends_insert
    · intro first firstEnv since _
      have next := goes first firstEnv [.record (.alert order.orderId .creditStateConflict) ()] none
        since (by simp [Reissues, action])
      simpa [flat, Act.moves] using next
    · intro first firstEnv old since _
      have next := goes first firstEnv [] none since (by simp [Reissues, action])
      simpa using next
  · rename_i action
    intro reached fits
    have next := goes store env [] none (since_refl reached fits) (by simp [Reissues, action])
    rw [List.append_nil] at next
    exact next reached fits

theorem flat_record (acts : List Act) (key : Key) (row : Row key) :
    flat acts ++ [⟨key, none, some row⟩] = flat (acts ++ [.record key row]) := by
  rw [flat_append]
  rfl

theorem unattempted_since {view : Store Row} {id : Uuid} {since : Micros}
    (spaced : attemptedSince view id since = false) :
    ∀ other earlier, view.lookup (.attempt other) = some earlier → earlier.orderId = id →
      earlier.attemptedAt ≤ since := by
  intro other earlier found same
  by_contra late
  have member : (⟨.attempt other, earlier⟩ : Sigma Row) ∈ view.entries := AList.mem_lookup_iff.mp found
  have attempted : attemptedSince view id since = true := by
    refine List.any_eq_true.mpr ⟨_, member, ?_⟩
    simpa [same] using lt_of_not_ge late
  rw [spaced] at attempted
  cases attempted

theorem reconcile_ends {input : Reconciliation} (task : call.task = .reconcile input) :
    EndsHere settings call [] (recordReconciliation settings input call.began) store env := by
  have unkeyed : slotOf settings call.task = none := by
    rw [task]
    rfl
  have ready (env : Env) : prepared env call.task = true := by
    rw [task]
    rfl
  have fails {moves : List (Move Row)} {store : Store Row} {env : Env} :
      MayFail settings call moves store env := unkeyed_fails unkeyed
  have quietly {acts : List Act} {store : Store Row} {env : Env} (kept : keeps acts) :
      EndsHere settings call (flat acts) (.done (.reconciled false)) store env := by
    apply ends_done
    intro first firstEnv since
    refine ⟨acts, rfl, unslotted_concluded unkeyed (ready _) (keeps_quiet kept) (keeps_do kept)
      trivial (by simp [task]) nofun ?_⟩
    intro id attempt member
    obtain ⟨key, row, same⟩ := kept _ member
    cases same
  simp only [recordReconciliation, bind_eq, pure_eq]
  apply ends_lock
  · intro first firstEnv since _
    rw [← flat_nil]
    exact quietly (by simp [keeps])
  · intro first firstEnv row since found _
    have shape : ([] : List (Move Row)) ++ [⟨.order input.orderId, some row, some row⟩] =
        flat [.keep (.order input.orderId) row] := rfl
    rw [shape]
    have kept : keeps [.keep (.order input.orderId) row] := by simp [keeps]
    dsimp only
    split
    · exact quietly kept
    rename_i observed
    apply ends_read
    intro second secondEnv later
    split
    · exact quietly kept
    rename_i recent
    have named : row.orderId = input.orderId := (since_standing since).named _ row found
    have spaced : ∀ other earlier, second.lookup (.attempt other) = some earlier →
        earlier.orderId = input.orderId →
        earlier.attemptedAt ≤ call.began - settings.retryAfter * 1000 := by
      intro other earlier present
      apply unattempted_since ((Bool.not_eq_true _).mp recent) other earlier
      rw [seen_at, wrote_other]
      · exact present
      · simp [Act.moves]
    apply ends_reissued fails
    intro third thirdEnv more issued next reissues
    apply ends_random
    intro fourth fourthEnv attemptId last
    apply ends_insert_row fails
    intro fifth fifthEnv final _
    apply ends_done
    intro sixth sixthEnv ended
    have locked : touched (flat [.keep (.order input.orderId) row]) (.order input.orderId) := by
      simp [Act.moves]
    rw [flat_append] at last final ended
    have rest := since_trans last (since_trans final (since_narrow ended))
    have whole := since_trans next (since_narrow rest)
    have observed : row.status = input.status ∧ row.version = input.version := by
      by_contra other
      exact observed (not_and_or.mp other)
    have still : sixth.lookup (.order input.orderId) = some row :=
      (since_seen whole locked).trans later.fits.1
    have spaced := turns_attempts
      (fun earlier => earlier.attemptedAt ≤ call.began - settings.retryAfter * 1000) whole.turns
      locked spaced
    let attempt : Attempt :=
      { runId := input.runId
        orderId := (mapOrder row).orderId
        orderStatus := (mapOrder row).status
        orderVersion := (mapOrder row).version
        creditStatus := input.creditStatus
        creditDetail := input.creditDetail
        action := input.action
        reissuedEventId := issued
        attemptedAt := call.began }
    have attempted : Attempted settings call input sixth.lookup
        (.keep (.order input.orderId) row :: (more ++ [.record (.attempt attemptId) attempt]))
        attemptId attempt :=
      ⟨task, named, rfl, rfl, spaced, row, more, still, observed.1,
        observed.2, reissues, rfl⟩
    exact ⟨_, flat_record _ _ _, attempt_concluded attempted⟩

/-! ## All of them -/

/-- Every call ends as its contract says, whatever other calls commit meanwhile. -/
theorem order_sound (settings : Settings) : (orderService settings).Sound
    (serialProtocol (orderService settings) (orderContract settings))
    (serialPost (orderContract settings)) := by
  apply serial_sound
  intro store env call reached starts
  have ready : prepared env call.task = true := by
    simp only [orderService, Bool.and_eq_true] at starts
    exact starts.2
  have plainly {command : TransitionCommand} (plain : ordinary call.task)
      (issued : Issues settings call.task (.transition command)) :
      EndsHere settings call [] (fireCommand settings.periods command call.began) store env :=
    fire_ends plain ready issued
  change EndsHere settings call [] (main settings call) store env
  unfold main
  cases task : call.task with
  | findIdempotent caller key request => exact find_ends task
  | create caller key request supplierSnapshot correlationId => exact create_ends task
  | command caller key request correlationId =>
      cases key with
      | none => exact command_unkeyed task ready
      | some key => exact command_keyed task ready
  | review caller orderId => exact review_ends task
  | reservation envelope payload reply => exact reservation_ends task
  | released envelope payload => exact release_ends task
  | transferred envelope payload => exact transfer_ends task
  | suspended envelope userId => exact suspension_ends task
  | databaseNow => exact now_ends task
  | timer timer orderId now correlationId =>
      exact plainly (by rw [task]; trivial) (task ▸ .timer timer orderId now correlationId)
  | deliveryOverdue now => exact overdue_ends task ready
  | inquire orderId requesterId now => exact inquire_ends task ready
  | clearSuspended orderId => exact clear_ends task ready
  | disputesToRefer admins => exact list_ends task
  | consider orderId admins => exact consider_ends task ready
  | unassign orderId now heldBy correlationId =>
      exact plainly (by rw [task]; trivial) (task ▸ .unassign orderId now heldBy correlationId)
  | assign orderId now admin correlationId =>
      exact plainly (by rw [task]; trivial) (task ▸ .assign orderId now admin correlationId)
  | reconcile input => exact reconcile_ends task

end Programs

end Foc.Order
