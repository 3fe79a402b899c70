import Foc.Agreement.Standing
import Mathlib

/-!
No reply that Credit really sent is set aside as inconsistent. A consumer of Order's refuses a
reply that does not match its errand, or that the errand's status leaves no room for. Of what
Credit sent neither is ever so: however late or often it is delivered, and whatever else is
committed while the consumer waits.
-/
namespace Foc.Agreement
open Library Library.EventLoop Library.ReadCommitted Library.Transaction Library.Serial
open Library.UuidText
open Foc.Order
open Foc.Credit (Tables)
open Foc.Credit.Interleaving (Records)

/-! ## Failures -/

/-- The message was not found at fault. -/
def Clears {α : Type} (result : Except Failure α) : Prop := result ≠ .error .unparseable

section Failures

variable {α β : Type} {periods : Periods} {command : TransitionCommand} {tx : Micros}
  {row : StoredOrder}

theorem bind_clears {first : Except Failure α} {rest : α → Except Failure β}
    (clear : Clears first) (after : ∀ value, Clears (rest value)) : Clears (first >>= rest) := by
  cases first with
  | ok value => exact after value
  | error failure =>
      intro same
      cases same
      exact clear rfl

theorem ok_clears (value : α) : Clears (.ok value : Except Failure α) := by
  intro same
  cases same

theorem database_clears (result : Except DbError α) : Clears (database result) := by
  cases result <;> intro same <;> cases same

theorem map_clears {first : Except Failure α} {change : α → β} (clear : Clears first) :
    Clears (change <$> first) := by
  cases first with
  | ok value => exact ok_clears _
  | error failure =>
      intro same
      cases same
      exact clear rfl

theorem events_clear {emitted : List EventType} {make : EventType → Except Failure OutboxEvent}
    (clear : ∀ eventType, Clears (make eventType)) : Clears (emitted.mapM make) := by
  induction emitted with
  | nil => exact ok_clears _
  | cons eventType rest ih =>
      rw [List.mapM_cons]
      exact bind_clears (clear eventType) fun event =>
        bind_clears ih fun events => ok_clears (event :: events)

theorem timestamps_clear {action : OrderAction} {decision : TransitionDecision} {now : Millis}
    {order : OrderRow} : Clears (timestampPatch periods action decision now order) := by
  unfold timestampPatch
  dsimp only
  split_ifs
  · split
    · exact ok_clears _
    · intro same
      cases same
  all_goals exact ok_clears _

theorem event_clears {before after : OrderRow} {now : Millis} {eventType : EventType} :
    Clears (eventFor command before after now eventType) := by
  refine bind_clears ?_ fun payload => ?_
  · cases eventType with
    | completionRequested =>
        simp only [emittedEvent]
        split
        · intro same
          cases same
        · split <;> intro same <;> cases same
    | _ => intro same; cases same
  · unfold outboxRow
    split <;> intro same <;> cases same

theorem apply_clears {decision : TransitionDecision} {now : Millis} :
    Clears (applyDecision periods command row decision now) := by
  refine bind_clears timestamps_clear fun timestamps => ?_
  refine bind_clears (database_clears _) fun next => ?_
  refine bind_clears ?_ fun history => ?_
  · unfold historyRow
    split <;> intro same <;> cases same
  refine bind_clears ?_ fun receipt => ?_
  · unfold receiptFor
    split
    · exact map_clears (database_clears _)
    · exact ok_clears _
  exact bind_clears (events_clear fun _ => event_clears) fun events => ok_clears _

/-- A transition finds the message at fault only where the message's own check does. -/
theorem transition_clears (verified : command.verify (mapOrder row) = .ok ()) :
    Clears (transitionUsing periods command tx row) := by
  unfold transitionUsing
  dsimp only
  split
  · exact ok_clears _
  · split
    · exact ok_clears _
    · rw [verified]
      exact map_clears apply_clears

theorem insert_clears {key : Key} {row : Row key} : (insertRow key row).only Clears := by
  intro inserted
  cases inserted
  · intro same
    cases same
  · exact ok_clears ()

theorem thrown_clears {failure : Failure} (other : failure ≠ .unparseable) :
    Clears (.error failure : Except Failure α) := by
  intro same
  cases same
  exact other rfl

theorem only_then {program : Tx α} {rest : α → Tx β} (first : program.only Clears)
    (after : ∀ value, (rest value).only Clears) : (program.bind rest).only Clears := by
  induction program with
  | done value => exact after value
  | fail failure =>
      intro same
      cases same
      exact first rfl
  | select next ih => exact fun view => ih view (first view)
  | scan statement next ih => exact fun snapshot hits => ih snapshot hits (first snapshot hits)
  | insert key row next ih => exact fun inserted => ih inserted (first inserted)
  | await ask next ih => exact fun value => ih value (first value)

theorem outbox_clears {events : List OutboxEvent} : (insertOutboxEvents events).only Clears := by
  induction events with
  | nil => exact ok_clears ()
  | cons event rest ih =>
      refine only_then ?_ fun _ => ih
      intro id
      have inserts : Program.only Clears ((insertRow (.outbox id) event).bind fun _ => .done id) :=
        only_then insert_clears fun _ => ok_clears id
      exact inserts

theorem change_clears {id : Uuid} {change : Applied} : (insertChange id change).only Clears := by
  refine only_then insert_clears fun _ => only_then ?_ fun _ => outbox_clears
  cases change.receipt with
  | none => exact ok_clears ()
  | some receipt => exact only_then insert_clears fun _ => insert_clears

end Failures

/-! ## Transitions under way -/

section Watching

variable {settings : Settings} {call : Call} {holds : Store Row → Prop} {store : Store Row}
  {env : Env} {own : Writes Row}

/-- What is watched is of the rows only, so no answer takes it away. -/
abbrev watchingRows (holds : Store Row → Prop) : Protocol Row Env := watching fun store _ => holds store

abbrev EndsClear (settings : Settings) (call : Call) (holds : Store Row → Prop)
    (program : Tx Result) (store : Store Row) (env : Env) (own : Writes Row) : Prop :=
  ensures (watchingRows holds) ((orderService settings).reply call) (fun result _ _ _ => Clears result)
    program store env own

theorem only_clear {program : Tx Result} (only : program.only Clears) :
    EndsClear settings call holds program store env own :=
  only_watching (fun _ _ _ _ _ held _ => held) only

/-- A transition of an errand that is there and matches ends clear, if what follows does: when
it is applied, and when the state machine refuses it. -/
theorem transition_ends {periods : Periods} {command : TransitionCommand} {tx : Micros}
    {rest : TransitionResult → Tx Result}
    (found : ∀ store' env', (watchingRows holds).Rely own store env store' env' →
      ∃ row, (overlay store' own).lookup (.order command.orderId.id) = some row ∧
        command.verify (mapOrder row) = .ok () ∧
        ∀ reason, transitionUsing periods command tx row = .ok (.rejected reason) →
          (rest (.rejected reason (some (mapOrder row)))).only Clears)
    (applied : ∀ order, (rest (.applied order)).only Clears) :
    EndsClear settings call holds ((transition periods command tx).bind rest) store env own := by
  simp only [transition, bind_eq, pure_eq, bind_bind]
  apply ensures_lock
  · intro store' env' rely cause
    obtain ⟨row, there, -⟩ := found store' env' rely
    rcases cause with skips | unwanted
    · cases skips
    · cases unwanted row there
  · intro store' env' row rely there _
    obtain ⟨other, present, verified, refused⟩ := found store' env' rely
    cases there.symm.trans present
    have clear := @transition_clears periods command tx row verified
    cases is : transitionUsing periods command tx row with
    | error failure =>
        simp only [is]
        refine only_clear (thrown_clears ?_)
        rintro rfl
        exact clear is
    | ok verdict =>
        cases verdict with
        | rejected reason =>
            simp only [is]
            exact only_clear (refused reason is)
        | applied change =>
            simp only [is, updateOrder, bind_bind]
            apply ensures_lock
            · intro second secondEnv _ cause
              rcases cause with skips | unwanted
              · cases skips
              · have held : (overlay second (own.insert (.order command.orderId.id) (some row))).lookup
                    (.order command.orderId.id) = some row := by
                  rw [lookup_overlay, AList.lookup_insert]
                  rfl
                have still := unwanted row held
                simp at still
            · intro second secondEnv next _ _ _
              simp only [bind_bind]
              exact only_clear (only_then change_clears fun _ => applied _)

end Watching

/-! ## What an errand's row says while a reply is on its way -/

section Rows

variable {tables : Tables} {row : StoredOrder} {refusal : Refusal} {transactionId : Uuid}

theorem reserved_unrejected (backed : Backed tables row) (reserved : Reserved tables row) :
    row.status ≠ .rejected := by
  intro status
  simp only [Backed, status] at backed
  obtain ⟨_, ⟨operation, recorded, held, found, outcome, -⟩, -⟩ := backed
  obtain ⟨other, _, stored, -, -, succeeded⟩ := reserved
  cases found.symm.trans stored
  rw [outcome] at succeeded
  cases succeeded

/-- Once it is past waiting, an errand whose reward was refused gives the reason it was. -/
theorem refused_repeats (backed : Backed tables row) (refuses : Refuses tables row refusal)
    (past : row.status ≠ .pendingCredit) : refusal.repeats (mapOrder row) = true := by
  have closed : row.status = .rejected := by
    have reserved : row.status ≠ .rejected → Reserved tables row := by
      intro other
      unfold Backed at backed
      cases status : row.status <;> rw [status] at backed
      case pendingCredit => exact absurd status past
      case rejected => exact absurd status other
      case completed | cancelled | expired => exact backed.1
      all_goals exact backed
    by_contra other
    obtain ⟨operation, recorded, held, found, outcome, -⟩ := refuses
    obtain ⟨_, _, stored, -, -, succeeded⟩ := reserved other
    cases found.symm.trans stored
    rw [outcome] at succeeded
    cases succeeded
  simp only [Backed, closed] at backed
  obtain ⟨told, ⟨operation, recorded, held, found, outcome, read⟩, reason, available⟩ := backed
  obtain ⟨_, _, _, stored, same, also⟩ := refuses
  cases found.symm.trans stored
  cases outcome.symm.trans same
  cases read.symm.trans also
  simp [Refusal.repeats, mapOrder, closed, reason, available]

/-- Once completed, an errand names the transaction that paid its courier. -/
theorem rewarded_named (backed : Backed tables row) (rewards : Rewards tables row transactionId)
    (done : completes row.status = true) (past : row.status ≠ .completionPendingCredit) :
    row.status = .completed ∧ row.creditTransactionId = some transactionId := by
  have ended : row.status = .completed := by
    cases status : row.status <;> rw [status] at done past
    case completionPendingCredit => exact absurd rfl past
    all_goals cases done
  simp only [Backed, ended] at backed
  obtain ⟨-, named, ⟨operation, result, found, paid, read, -⟩, writes⟩ := backed
  obtain ⟨_, _, stored, also, scanned, -⟩ := rewards
  cases found.symm.trans stored
  obtain rfl := Credit.Interleaving.paid_result paid also.payload
  cases read.symm.trans scanned
  exact ⟨ended, writes⟩

theorem returned_same {orderId : Credit.OrderId} {operation : Credit.Operation}
    {one two : Credit.ReleaseResult} (first : Credit.Interleaving.Returned orderId operation one)
    (second : Credit.Interleaving.Returned orderId operation two) : one = two := by
  have same := first.payload.symm.trans second.payload
  simp only [Option.some.injEq, Credit.ResultPayload.released.injEq] at same
  exact same

theorem restored_named (backed : Backed tables row) (restores : Restores tables row transactionId)
    (done : closes row.status = true) (past : row.status ≠ .releasePendingCredit) :
    (row.status = .cancelled ∨ row.status = .expired) ∧
      row.creditTransactionId = some transactionId := by
  have ended : row.status = .cancelled ∨ row.status = .expired := by
    cases status : row.status <;> rw [status] at done past
    case cancelled => exact .inl rfl
    case expired => exact .inr rfl
    case releasePendingCredit => exact absurd rfl past
    all_goals cases done
  have restored : Restored tables row := by
    rcases ended with status | status <;> simp only [Backed, status] at backed <;> exact backed.2
  obtain ⟨named, ⟨operation, result, found, returned, read, -⟩, writes⟩ := restored
  obtain ⟨_, _, stored, also, scanned, -⟩ := restores
  cases found.symm.trans stored
  obtain rfl := returned_same returned also
  cases read.symm.trans scanned
  exact ⟨ended, writes⟩

end Rows

/-- What is watched of Order's rows while a reply is handled. -/
def Expecting (reply : Told) (store : Store Row) : Prop :=
  (∃ tables, Agrees store.lookup tables ∧ Holds store.lookup tables reply) ∧
    ∀ id row, store.lookup (.order id) = some row → Lawful row

/-- From a waiting status its reply is not refused. -/
theorem waiting_decided (periods : Periods) (tx : Micros) {row : StoredOrder}
    {command : TransitionCommand} {reason : Rejection} (actor : command.actor = .creditService)
    (free : command.expectedVersion = none)
    (decides : ∀ context, context.releaseReason = row.releaseReason →
      (decideTransition row.status command.action .creditService context).isSome = true) :
    transitionUsing periods command tx row ≠ .ok (.rejected reason) := by
  intro refused
  unfold transitionUsing at refused
  simp only [actor, free] at refused
  obtain ⟨decision, decided⟩ := Option.isSome_iff_exists.mp (decides
    (contextOf (mapOrder row) command (command.now.getD (toMillis tx))) rfl)
  have same : resolveActor (mapOrder row) .creditService = .creditService := rfl
  rw [same, show (mapOrder row).status = row.status from rfl, decided] at refused
  simp only [Option.any_none, Bool.false_eq_true, if_false] at refused
  obtain ⟨_, -, refused⟩ := bind_ok refused
  cases applied : applyDecision periods command row decision (command.now.getD (toMillis tx)) with
  | error failure =>
      rw [applied] at refused
      cases refused
  | ok change =>
      rw [applied] at refused
      cases refused

/-! ## Consumers -/

section Consumers

variable {settings : Settings} {call : Call} {store : Store Row} {env : Env} {own : Writes Row}
  {periods : Periods} {tx : Micros} {envelope : Envelope}

/-- Only rows of other kinds have been written. -/
def Aside (own : Writes Row) : Prop := ∀ id, own.lookup (.order id) = none

theorem aside_seen (aside : Aside own) (id : Uuid) :
    (overlay store own).lookup (.order id) = store.lookup (.order id) := by
  rw [lookup_overlay, aside id]
  rfl

theorem confirmed_clear {repeats : OrderRow → Bool} {reason : Rejection} {order : OrderRow}
    (again : repeats order = true) :
    (confirmed (.rejected reason (some order)) repeats).only Clears := by
  simp only [confirmed, Option.any_some, again, if_true]
  exact ok_clears _

theorem release_ends {payload : Released} (aside : Aside own)
    (expecting : Expecting (.released envelope payload) store) :
    EndsClear settings call (Expecting (.released envelope payload))
      (handleRelease periods envelope payload tx) store env own := by
  obtain ⟨⟨_, -, about, -⟩, -⟩ := expecting
  simp only [handleRelease, bind_eq, about, ne_eq, not_true_eq_false, if_false]
  apply transition_ends
  · intro store' env' rely
    obtain ⟨⟨tables, agrees, -, row, found, done, requester, reward, restores⟩, lawful⟩ := rely.holds
    have matching : payload.matches (mapOrder row) = true := by
      simp [Released.matches, mapOrder, requester, reward]
    refine ⟨row, (aside_seen aside _).trans found, ?_, fun reason refused => ?_⟩
    · simp [releaseCommand, accepts, matching]
    · apply confirmed_clear
      have past : row.status ≠ .releasePendingCredit := by
        intro status
        have shape := (lawful _ row found).shape
        simp only [Shape, status] at shape
        obtain ⟨why, kept⟩ := Option.isSome_iff_exists.mp shape
        refine waiting_decided periods tx rfl rfl (fun context told => ?_) refused
        rw [kept] at told
        rw [status]
        cases why <;> simp [decideTransition, orderTransitions, TransitionRule.applies, told,
          releaseCommand, creditCommand]
      obtain ⟨ended, named⟩ := restored_named (agrees.backed _ row found) restores done past
      rcases ended with status | status <;>
        simp [Released.repeats, mapOrder, status, named] <;> exact matching
  · intro order
    exact ok_clears _

theorem transfer_ends {payload : Transferred} (aside : Aside own)
    (expecting : Expecting (.transferred envelope payload) store) :
    EndsClear settings call (Expecting (.transferred envelope payload))
      (handleTransfer periods envelope payload tx) store env own := by
  obtain ⟨⟨_, -, about, -⟩, -⟩ := expecting
  simp only [handleTransfer, bind_eq, about, ne_eq, not_true_eq_false, if_false]
  apply transition_ends
  · intro store' env' rely
    obtain ⟨⟨tables, agrees, -, row, found, done, requester, reward, courier, rewards⟩, -⟩ :=
      rely.holds
    have matching : payload.matches (mapOrder row) = true := by
      simp [Transferred.matches, mapOrder, requester, reward, courier]
    refine ⟨row, (aside_seen aside _).trans found, ?_, fun reason refused => ?_⟩
    · simp [transferCommand, accepts, matching]
    · apply confirmed_clear
      have past : row.status ≠ .completionPendingCredit := by
        intro status
        refine waiting_decided periods tx rfl rfl (fun context _ => ?_) refused
        rw [status]
        rfl
      obtain ⟨ended, named⟩ := rewarded_named (agrees.backed _ row found) rewards done past
      simp [Transferred.repeats, mapOrder, ended, named]
      exact matching
  · intro order
    exact ok_clears _

/-- Whatever the User Service says of the requester. -/
theorem asked_ends {holds : Store Row → Prop} {order : OrderRow} {rest : Bool → Tx Result}
    (each : ∀ suspended second secondEnv,
      EndsClear settings call holds (rest suspended) second secondEnv own) :
    EndsClear settings call holds ((askRequester order).bind rest) store env own := by
  simp only [askRequester]
  split
  · intro second secondEnv later value after _
    exact ⟨later.holds, fun _ => trivial, each _ _ _⟩
  · exact each false store env

/-- The reservation's consumer has locked the errand it is about. -/
theorem reservation_ends {payload : Reservation} {reply : Reply} (aside : Aside own)
    (expecting : Expecting (.reservation envelope payload reply) store) :
    EndsClear settings call (Expecting (.reservation envelope payload reply))
      (handleReservation periods envelope payload reply tx) store env own := by
  obtain ⟨⟨_, -, about, -⟩, -⟩ := expecting
  simp only [handleReservation, bind_eq, pure_eq, about, ne_eq, not_true_eq_false, if_false]
  apply ensures_lock
  · intro store' env' rely cause
    obtain ⟨⟨tables, agrees, -, row, found, -⟩, -⟩ := rely.holds
    rcases cause with skips | unwanted
    · cases skips
    · cases unwanted row ((aside_seen aside _).trans found)
  · intro store' env' row rely there _
    obtain ⟨⟨tables, agrees, -, other, found, requester, reward, replied⟩, lawful⟩ := rely.holds
    cases there.symm.trans ((aside_seen aside _).trans found)
    have backed := agrees.backed _ row found
    have matching : ¬ ((mapOrder row).requesterId ≠ payload.requesterId ∨
        (mapOrder row).reward ≠ payload.amount) := by
      simp [mapOrder, requester, reward]
    -- From here on the row is the transaction's own.
    have held : ∀ second, (overlay second (own.insert (.order payload.orderId.id) (some row))).lookup
        (.order payload.orderId.id) = some row := by
      intro second
      rw [lookup_overlay, AList.lookup_insert]
      rfl
    simp only [if_neg matching]
    cases reply with
    | reserved =>
        have unrejected := reserved_unrejected backed replied
        apply asked_ends
        intro suspended second secondEnv
        apply transition_ends
        · intro third thirdEnv _
          refine ⟨row, held third, rfl, fun reason _ => ?_⟩
          simp only [show (mapOrder row).status = row.status from rfl, unrejected, if_false]
          intro view
          simp only [done_bind]
          split
          · exact thrown_clears (by simp)
          · exact ok_clears _
        · intro order
          exact ok_clears _
    | rejected refusal =>
        apply transition_ends
        · intro second secondEnv _
          refine ⟨row, held second, rfl, fun reason refused => ?_⟩
          have past : row.status ≠ .pendingCredit := by
            intro status
            refine waiting_decided periods tx rfl rfl (fun context _ => ?_) refused
            rw [status]
            rfl
          simp only [refused_repeats backed replied past, if_true]
          exact ok_clears _
        · intro order
          exact ok_clears _

/-- An inbox entry hides no errand. -/
theorem entered_aside {consumer : Consumer} {eventId : Uuid} :
    Aside ((∅ : Writes Row).insert (.processed consumer eventId) (some ())) := by
  intro id
  rw [AList.lookup_insert_ne (by simp)]
  rfl

theorem once_ends {reply : Told} {consumer : Consumer} {eventId : Uuid} {effect : Tx Result}
    (ends : ∀ store env own, Aside own → Expecting reply store →
      EndsClear settings call (Expecting reply) effect store env own) :
    EndsClear settings call (Expecting reply) (processOnce consumer eventId effect) store env ∅ := by
  simp only [processOnce, bind_eq, pure_eq]
  intro store' env' rely
  constructor
  · intro _
    exact ends store' env' _ entered_aside rely.holds
  · intro _ _
    exact only_clear (ok_clears _)

/-- The consumer of a reply ends clear while the reply is expected. -/
theorem reply_ends {reply : Told} (is : told call.task = some reply) :
    EndsClear settings call (Expecting reply) ((orderService settings).main call) store env ∅ := by
  cases task : call.task with
  | reservation envelope payload outcome =>
      rw [task] at is
      cases is
      simp only [orderService, main, task]
      exact once_ends fun _ _ _ aside expecting => reservation_ends aside expecting
  | released envelope payload =>
      rw [task] at is
      cases is
      simp only [orderService, main, task]
      exact once_ends fun _ _ _ aside expecting => release_ends aside expecting
  | transferred envelope payload =>
      rw [task] at is
      cases is
      simp only [orderService, main, task]
      exact once_ends fun _ _ _ aside expecting => transfer_ends aside expecting
  | _ =>
      rw [task] at is
      cases is

end Consumers

/-! ## Both services -/

section Runs

variable {settings : Settings} {clock creditClock : Micros} {suspended : List UserId}
  {world after : Agreement.World}

theorem standing_expecting (standing : Standing settings clock suspended world) {task : Task}
    {reply : Told} (is : told task = some reply)
    (heard : delivered world.credit.tables task = true) :
    Expecting reply world.order.committed :=
  ⟨⟨world.credit.tables, standing.agrees,
    delivered_holds standing.agrees standing.credit.records is heard⟩,
    reached_lawful (order_reached (drawn_run standing.orders))⟩

/-- The consumer of a reply that is under way is where its program allows. -/
structure Hearing (settings : Settings) (clock : Micros) (suspended : List UserId)
    (world : Agreement.World) : Prop where
  standing : Standing settings clock suspended world
  underway : ∀ session tx reply, world.order.active.lookup session = some tx →
    told tx.pc.call.task = some reply →
    (orderService settings).underway (watchingRows (Expecting reply))
      (fun _ result _ _ _ => Clears result) world.order.committed world.order.env tx

theorem order_hearing (hearing : Hearing settings clock suspended world) {event : OrderEvent}
    {order : OrderWorld} (permitted : permits world (.order event) = true)
    (stepped : step (orderService settings).machine world.order event = some order) :
    Hearing settings clock suspended { world with order } := by
  have standing := hearing.standing
  have next := order_standing standing permitted stepped
  have hold := serial_hold (order_sound settings)
    (show fresh _ _ from ⟨fun _ => rfl, rfl, rfl, rfl⟩) (drawn_run standing.orders)
  refine ⟨next, fun session tx reply found is => ?_⟩
  have heard : delivered world.credit.tables tx.pc.call.task = true := next.told session tx found
  have here := standing_expecting standing is heard
  have there := standing_expecting next is heard
  exact underway_step (fun call => told call.task = some reply) hold.exclusive here there stepped
    (fun call watches => reply_ends watches)
    (fun old present watches => hearing.underway session old reply present watches) tx found is

theorem turn_hearing {event : Agreement.Event} (hearing : Hearing settings clock suspended world)
    (turned : turn settings world event = some after) : Hearing settings clock suspended after := by
  unfold turn at turned
  split at turned
  · rename_i permitted
    cases event with
    | order event =>
        obtain ⟨order, stepped, rfl⟩ := Option.map_eq_some_iff.mp turned
        exact order_hearing hearing permitted stepped
    | credit event =>
        obtain ⟨credit, moved, rfl⟩ := Option.map_eq_some_iff.mp turned
        exact ⟨credit_standing hearing.standing permitted moved, hearing.underway⟩
  · cases turned

theorem begun_hearing : Hearing settings clock suspended (begun clock creditClock suspended) := by
  refine ⟨begun_standing, fun session tx reply found => ?_⟩
  cases found

theorem hearing_clears (hearing : Hearing settings clock suspended world) {session : Nat}
    {tx : ReadCommitted.Tx Row (Session Row Answer Failure Call Result)}
    (found : world.order.active.lookup session = some tx) {reply : Told}
    (is : told tx.pc.call.task = some reply) :
    (orderService settings).current tx.pc ≠ .fail .unparseable := by
  intro current
  have heard := hearing.standing.told session tx found
  have expecting := standing_expecting hearing.standing is heard
  exact underway_thrown (show (watchingRows (Expecting reply)).holds _ _ from expecting)
    (hearing.underway session tx reply found is) current rfl

/-- A consumer of Order's never sets a reply that Credit sent aside as inconsistent: not one that
is delivered late, again or out of order, and whatever Order and Credit commit while its
transaction is under way. -/
theorem genuine_replies_clear
    (run : EventLoop.Run (turn settings) (begun clock creditClock suspended) world) {session : Nat}
    {tx : ReadCommitted.Tx Row (Session Row Answer Failure Call Result)}
    (found : world.order.active.lookup session = some tx) {reply : Told}
    (is : told tx.pc.call.task = some reply) :
    (orderService settings).current tx.pc ≠ .fail .unparseable := by
  have hearing : Hearing settings clock suspended world :=
    run_keeps (fun _ _ _ hearing turned => turn_hearing hearing turned) begun_hearing run
  exact hearing_clears hearing found is

/-- The reservation of an errand is heard of. -/
theorem reservation_clear : ∃ (world : Agreement.World)
    (tx : ReadCommitted.Tx Row (Session Row Answer Failure Call Result)),
    world.order.active.lookup 2 = some tx ∧ told tx.pc.call.task = told replyOne ∧
      (orderService plainSettings).current tx.pc ≠ .fail .unparseable := by
  have reached : ((turns (turn plainSettings) (begun 0 0 [])
      (waits ++ hears.map .order)).any fun world => (world.order.active.lookup 2).any fun tx =>
        decide (told tx.pc.call.task = told replyOne)) = true := by
    decide +kernel
  obtain ⟨world, reached, waiting⟩ := (Option.any_eq_true _ _).mp reached
  obtain ⟨tx, found, is⟩ := (Option.any_eq_true _ _).mp waiting
  have is := of_decide_eq_true is
  refine ⟨world, tx, found, is, ?_⟩
  exact genuine_replies_clear (run_turns .refl _ reached) found is

end Runs

end Foc.Agreement
