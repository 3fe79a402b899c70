import Foc.Agreement.Agreed
import Foc.Order.Idempotency
import Mathlib

/-!
A commit of Order's keeps the agreement: the errands it changes are those that Credit's reply
was about, or were already reserved, and it asks of Credit what their rows say.
-/
namespace Foc.Agreement
open Library Library.ReadCommitted Library.Transaction Library.Serial Library.UuidText
open Foc.Order
open Foc.Credit (Tables OperationType)
open Foc.Credit.Interleaving (Records)

/-! ## Changes -/

/-- The statuses in which a reward is set aside, and no more. -/
def holding : OrderStatus → Bool
  | .opened | .accepted | .pickedUp | .delivered | .disputed | .completionPendingCredit
  | .releasePendingCredit => true
  | _ => false

theorem backed_holding {tables : Tables} {row : StoredOrder} (held : holding row.status = true) :
    Backed tables row ↔ Reserved tables row := by
  unfold Backed
  cases status : row.status <;> simp_all [holding]

/-- The actions of Credit's replies. -/
def replying : OrderAction → Bool
  | .creditReserved | .creditRejected | .transferConfirmed | .releaseConfirmed => true
  | _ => false

theorem reply_rules : ∀ rule ∈ orderTransitions,
    rule.action = .creditReserved ∧ holding rule.decision.target = true ∨
      rule.action = .creditRejected ∧ rule.decision.target = .rejected ∨
      rule.action = .transferConfirmed ∧ rule.status = .completionPendingCredit ∧
        rule.decision.target = .completed ∨
      rule.action = .releaseConfirmed ∧ rule.status = .releasePendingCredit ∧
        released rule.decision.target = true ∨
      replying rule.action = false ∧ holding rule.status = true ∧
        holding rule.decision.target = true := by
  decide

/-- Only a reply of Credit's takes its action. -/
inductive Replies : Task → Cause → Prop where
  | reserved (envelope : Envelope) (payload : Reservation) (suspended : Bool) :
      Replies (.reservation envelope payload .reserved)
        (.transition (reservedCommand envelope payload.orderId suspended))
  | rejected (envelope : Envelope) (payload : Reservation) (refusal : Refusal) :
      Replies (.reservation envelope payload (.rejected refusal))
        (.transition (rejectedCommand envelope payload.orderId refusal))
  | transferred (envelope : Envelope) (payload : Transferred) :
      Replies (.transferred envelope payload) (.transition (transferCommand envelope payload))
  | released (envelope : Envelope) (payload : Released) :
      Replies (.released envelope payload) (.transition (releaseCommand envelope payload))

theorem issues_replies {settings : Settings} {task : Task} {cause : Cause}
    (issues : Issues settings task cause) (action : replying cause.action = true) :
    Replies task cause := by
  cases issues with
  | reserved envelope payload suspended => exact .reserved envelope payload suspended
  | rejected envelope payload refusal => exact .rejected envelope payload refusal
  | transferred envelope payload => exact .transferred envelope payload
  | released envelope payload => exact .released envelope payload
  | act caller key orderId taken =>
      have silent : ∀ action ∈ participantActions, replying action = false := by decide
      have quiet := silent taken.val taken.property
      rw [show replying taken.val = true from action] at quiet
      cases quiet
  | resolve caller key orderId outcome => cases outcome <;> cases action
  | suspended envelope userId orderId part status taken tried =>
      rcases suspension_action_cases tried with rfl | rfl | rfl <;> cases action
  | timer timer => cases timer <;> cases action
  | _ => cases action

/-- A transition's own columns are written last. -/
theorem transition_columns {periods : Periods} {command : TransitionCommand} {tx : Micros}
    {before : StoredOrder} {applied : Applied}
    (ok : transitionUsing periods command tx before = .ok (.applied applied)) :
    ∃ earlier, applied.next = applyPatch (applyPatch before earlier) command.patch := by
  obtain ⟨decision, -, -, -, writes⟩ := transition_ok ok
  obtain ⟨timestamps, -, same⟩ := writes.next
  rw [patchOf, applyPatch, List.foldl_append] at same
  exact ⟨_, same⟩

theorem reserved_same {tables : Tables} {before next : StoredOrder}
    (same : SameRequest before next) (reserved : Reserved tables before) : Reserved tables next := by
  obtain ⟨operation, transactionId, found, requester, amount, succeeded⟩ := reserved
  exact ⟨operation, transactionId, by rwa [same.orderId], requester.trans same.requesterId.symm,
    amount.trans same.reward.symm, succeeded⟩

theorem rewards_same {tables : Tables} {before next : StoredOrder} {transactionId : Uuid}
    (same : SameRequest before next) (courier : next.courierId = before.courierId)
    (rewards : Rewards tables before transactionId) : Rewards tables next transactionId := by
  obtain ⟨operation, result, found, paid, scanned, requester, paying, amount⟩ := rewards
  exact ⟨operation, result, by rwa [same.orderId], by rwa [same.orderId], scanned,
    requester.trans same.requesterId.symm, paying.trans courier.symm,
    amount.trans same.reward.symm⟩

theorem restores_same {tables : Tables} {before next : StoredOrder} {transactionId : Uuid}
    (same : SameRequest before next) (restores : Restores tables before transactionId) :
    Restores tables next transactionId := by
  obtain ⟨operation, result, found, returned, scanned, requester, amount⟩ := restores
  exact ⟨operation, result, by rwa [same.orderId], by rwa [same.orderId], scanned,
    requester.trans same.requesterId.symm, amount.trans same.reward.symm⟩

theorem refuses_same {tables : Tables} {before next : StoredOrder} {refusal : Refusal}
    (same : SameRequest before next) (refuses : Refuses tables before refusal) :
    Refuses tables next refusal := by
  obtain ⟨operation, recorded, held, found, rest⟩ := refuses
  exact ⟨operation, recorded, held, by rwa [same.orderId], rest⟩

section Changes

variable {periods : Periods} {tx : Micros} {view : View Row} {tables : Tables} {task : Task}
  {cause : Cause} {before : StoredOrder} {applied : Applied}

/-- What a reply makes of its errand, Credit has on record. -/
theorem reply_backed (agrees : Agrees view tables) (records : Records tables)
    (replies : Replies task cause) (heard : delivered tables task = true)
    (found : view (.order cause.orderId.id) = some before)
    (stepped : Stepped cause tx before applied)
    (applies : cause.applies periods tx before applied) : Backed tables applied.next := by
  obtain ⟨rule, member, status, action, target, -⟩ := stepped.rule
  have backed := agrees.backed _ _ found
  have same := stepped.same
  have kinds := reply_rules rule member
  rw [action, status, target] at kinds
  cases replies with
  | reserved envelope payload suspended =>
      obtain ⟨-, row, there, -, -, reserved⟩ := delivered_holds agrees records rfl heard
      cases found.symm.trans there
      have held : holding applied.next.status = true := by
        simpa [Cause.action, reservedCommand, creditCommand, replying] using kinds
      exact (backed_holding held).mpr (reserved_same same reserved)
  | rejected envelope payload refusal =>
      obtain ⟨-, row, there, -, -, refuses⟩ := delivered_holds agrees records rfl heard
      cases found.symm.trans there
      have ended : applied.next.status = .rejected := by
        simpa [Cause.action, rejectedCommand, creditCommand, replying] using kinds
      obtain ⟨columns, wrote⟩ := transition_columns applies
      simp only [Backed, ended]
      refine ⟨refusal, refuses_same same refuses, ?_, ?_⟩
      · rw [wrote]
        rfl
      · rw [wrote]
        rfl
  | transferred envelope payload =>
      obtain ⟨-, row, there, done, -, -, -, rewards⟩ := delivered_holds agrees records rfl heard
      cases found.symm.trans there
      have ended : before.status = .completionPendingCredit ∧ applied.next.status = .completed := by
        simpa [Cause.action, transferCommand, creditCommand, replying] using kinds
      obtain ⟨columns, wrote⟩ := transition_columns applies
      have courier := ((stepped_onward stepped).completes done).2
      simp only [Backed, ended.2]
      simp only [Backed, ended.1] at backed
      refine ⟨reserved_same same backed, payload.transactionId, rewards_same same courier rewards, ?_⟩
      rw [wrote]
      rfl
  | released envelope payload =>
      obtain ⟨-, row, there, done, -, -, restores⟩ := delivered_holds agrees records rfl heard
      cases found.symm.trans there
      have ended : before.status = .releasePendingCredit ∧ released applied.next.status = true := by
        simpa [Cause.action, releaseCommand, creditCommand, replying] using kinds
      obtain ⟨columns, wrote⟩ := transition_columns applies
      simp only [Backed, ended.1] at backed
      have restored : Restored tables applied.next := by
        refine ⟨payload.transactionId, restores_same same restores, ?_⟩
        rw [wrote]
        rfl
      unfold Backed
      have closed := ended.2
      cases is : applied.next.status <;> rw [is] at closed
      case cancelled => exact ⟨reserved_same same backed, restored⟩
      case expired => exact ⟨reserved_same same backed, restored⟩
      all_goals cases closed

/-- Every other change is of an errand that was reserved and still is. -/
theorem change_backed {settings : Settings} (agrees : Agrees view tables)
    (records : Records tables) (issued : Issues settings task cause)
    (heard : delivered tables task = true) (found : view (.order cause.orderId.id) = some before)
    (stepped : Stepped cause tx before applied)
    (applies : cause.applies periods tx before applied) : Backed tables applied.next := by
  by_cases reply : replying cause.action = true
  · exact reply_backed agrees records (issues_replies issued reply) heard found stepped applies
  · obtain ⟨rule, member, status, action, target, -⟩ := stepped.rule
    have kinds := reply_rules rule member
    rw [action, status, target] at kinds
    have held : holding before.status = true ∧ holding applied.next.status = true := by
      rcases kinds with ⟨is, -⟩ | ⟨is, -⟩ | ⟨is, -⟩ | ⟨is, -⟩ | ⟨-, held⟩
      · rw [is] at reply
        exact absurd rfl reply
      · rw [is] at reply
        exact absurd rfl reply
      · rw [is] at reply
        exact absurd rfl reply
      · rw [is] at reply
        exact absurd rfl reply
      · exact held
    have backed := (backed_holding held.1).mp (agrees.backed _ _ found)
    exact (backed_holding held.2).mpr (reserved_same stepped.same backed)

end Changes

/-! ## Acts -/

/-- `accept` writes its own columns. -/
theorem accept_unfit (patch : List Assign) : ¬ Fitting .accept patch := by
  intro fitting
  cases fitting with
  | plain _ other => simp at other

/-- An errand is accepted by another than its requester, and nobody is assigned to it
otherwise. -/
theorem stepped_apart {periods : Periods} {tx : Micros} {cause : Cause} {before : StoredOrder}
    {applied : Applied} (fitting : cause.fitting) (stepped : Stepped cause tx before applied)
    (applies : cause.applies periods tx before applied)
    (apart : before.courierId ≠ some before.requesterId) :
    applied.next.courierId ≠ some applied.next.requesterId := by
  rw [stepped.same.requesterId]
  cases cause with
  | acceptance orderId caller expectedVersion correlationId =>
      obtain ⟨-, -, other, -⟩ := acceptable_parts applies.1
      rw [(accept_ok applies.2).1]
      intro same
      exact other (Option.some.inj same).symm
  | transition command =>
      rcases stepped.courier with same | ⟨-, gone | ⟨accepts, -⟩⟩
      · rwa [same]
      · rw [gone]
        simp
      · have accepts : command.action = .accept := accepts
        have fitting : Fitting command.action command.patch := fitting
        rw [accepts] at fitting
        exact absurd fitting (accept_unfit _)

section Acts

variable {settings : Settings} {call : Call} {view : View Row} {act : Act} {tables : Tables}

theorem act_named (does : Does settings call act) (fits : Fits view act.moves)
    (named : ∀ id row, view (.order id) = some row → Named id row)
    (drawn : ∀ input key requestHash orderId now sent,
      act = .create input key requestHash orderId now sent → Versioned orderId) :
    ∀ id row, wrote view act.moves (.order id) = some row → Named id row := by
  intro id row found
  cases errand_step does fits id with
  | untouched same => exact named id row (same ▸ found)
  | changed cause before applied sent entered is own present left =>
      cases left.symm.trans found
      subst is
      obtain ⟨stepped, _, issued, applies, _⟩ := does_stepped does
      have held := named id before present
      exact ⟨stepped.same.orderId.trans held.own, held.versioned,
        stepped_apart (issues_fitting issued) stepped applies held.apart⟩
  | created input now absent left noted others starts is =>
      cases left.symm.trans found
      obtain ⟨key, requestHash, sent, is⟩ := is
      exact ⟨rfl, drawn _ _ _ _ _ _ is, by simp [pendingRow]⟩
  | noted before mark is present left =>
      cases left.symm.trans found
      have held := named id before present
      exact ⟨held.own, held.versioned, held.apart⟩

theorem act_backed (does : Does settings call act) (fits : Fits view act.moves)
    (heard : delivered tables call.task = true) (records : Records tables)
    (agrees : Agrees view tables) :
    ∀ id row, wrote view act.moves (.order id) = some row → Backed tables row := by
  intro id row found
  cases errand_step does fits id with
  | untouched same => exact agrees.backed id row (same ▸ found)
  | changed cause before applied sent entered is own present left =>
      cases left.symm.trans found
      subst is own
      obtain ⟨stepped, _, issued, applies, _⟩ := does_stepped does
      exact change_backed agrees records issued heard present stepped applies
  | created input now absent left =>
      cases left.symm.trans found
      trivial
  | noted before mark is present left =>
      cases left.symm.trans found
      exact agrees.backed id before present

theorem act_asks (does : Does settings call act) (fits : Fits view act.moves)
    (agrees : Agrees view tables)
    (asking : ∀ eventId event, act = .record (.outbox eventId) event → Asks view event.payload) :
    ∀ eventId event, wrote view act.moves (.outbox eventId) = some event →
      Asks (wrote view act.moves) event.payload := by
  intro eventId event found
  have onward : ∀ id row, view (.order id) = some row →
      ∃ next, wrote view act.moves (.order id) = some next ∧ Onward row next :=
    fun _ _ => act_onward does fits
  rcases (act_outbox does fits eventId event).mp found with old | sends
  · exact asks_onward onward (agrees.asks eventId event old)
  · cases act with
    | change cause before applied sent entered =>
        obtain ⟨stepped, named, issued, applies, events⟩ := does_stepped does
        have left : wrote view (Act.change cause before applied sent entered).moves
            (.order applied.next.orderId) = some applied.next := by
          rw [stepped.same.orderId, named, act_order does fits]
          simp [Act.order]
        have member : event ∈ applied.events := by
          rw [← events]
          exact List.mem_map_of_mem sends
        exact change_asks (issues_fitting issued) applies left event member
    | create input key requestHash orderId now sent =>
        have left := act_order does fits orderId
        simp only [Act.order, if_true, Option.some_or] at left
        have member : event ∈ sent.map Prod.snd := List.mem_map_of_mem sends
        cases does with
        | create caller key request supplierSnapshot correlationId orderId now change sent task made
            events =>
            rw [events, (create_ok made).1] at member
            rcases List.mem_cons.mp member with rfl | member
            · trivial
            · cases List.mem_singleton.mp member
              exact ⟨_, left, rfl, rfl⟩
    | record key row =>
        cases key with
        | outbox other =>
            cases List.mem_singleton.mp sends
            exact asks_onward onward (asking eventId event rfl)
        | _ => cases sends
    | _ => cases sends

theorem act_agrees (does : Does settings call act) (fits : Fits view act.moves)
    (heard : delivered tables call.task = true) (records : Records tables)
    (drawn : ∀ input key requestHash orderId now sent,
      act = .create input key requestHash orderId now sent → Versioned orderId)
    (asking : ∀ eventId event, act = .record (.outbox eventId) event → Asks view event.payload)
    (agrees : Agrees view tables) : Agrees (wrote view act.moves) tables where
  named := act_named does fits agrees.named drawn
  backed := act_backed does fits heard records agrees
  asks := act_asks does fits agrees asking
  recorded := by
    intro key operation found
    exact recorded_onward (fun id row => act_onward does fits) (agrees.recorded key operation found)
  quiet := agrees.quiet
  civil := agrees.civil

/-! ## Commits -/

/-- An attempt changes no errand, and a request it makes again is of the row it found. -/
theorem reissues_acts {input : Reconciliation} {order : OrderRow} {issued : Option Uuid}
    {more : List Act} (reissues : Reissues input order issued more) :
    (∀ act ∈ more, ∀ id, act.order id = none) ∧
      ∀ eventId event, .record (.outbox eventId) event ∈ more →
        creditRequest order = .ok event.payload := by
  unfold Reissues at reissues
  split at reissues
  · obtain ⟨_, payload, -, made, rfl⟩ := reissues
    refine ⟨?_, ?_⟩
    · intro act member id
      cases List.mem_singleton.mp member
      rfl
    · intro eventId event member
      cases List.mem_singleton.mp member
      exact made
  · rcases reissues with rfl | rfl
    · simp
    · refine ⟨?_, ?_⟩
      · intro act member id
        cases List.mem_singleton.mp member
        rfl
      · intro eventId event member
        cases List.mem_singleton.mp member
  · subst reissues
    simp

theorem attempted_requests {input : Reconciliation} {attemptId : Uuid} {attempt : Attempt}
    {acts : List Act} (attempted : Attempted settings call input view acts attemptId attempt) :
    ∃ row, view (.order input.orderId) = some row ∧
      (∀ act ∈ acts, ∀ id, act.order id = none) ∧
      ∀ eventId event, .record (.outbox eventId) event ∈ acts →
        creditRequest (mapOrder row) = .ok event.payload := by
  obtain ⟨row, more, found, -, -, reissues, rfl⟩ := attempted.observed
  obtain ⟨still, requests⟩ := reissues_acts reissues
  refine ⟨row, found, ?_, ?_⟩
  · intro act member id
    rcases List.mem_cons.mp member with rfl | member
    · rfl
    · rcases List.mem_append.mp member with member | last
      · exact still act member id
      · cases List.mem_singleton.mp last
        rfl
  · intro eventId event member
    rcases List.mem_cons.mp member with same | member
    · cases same
    · rcases List.mem_append.mp member with member | last
      · exact requests eventId event member
      · cases List.mem_singleton.mp last

/-- Whatever a call commits, the errands go on. -/
theorem acts_onward {acts : List Act} (does : ∀ act ∈ acts, Does settings call act)
    (fits : Fits view (flat acts)) :
    ∀ id row, view (.order id) = some row →
      ∃ next, wrote view (flat acts) (.order id) = some next ∧ Onward row next := by
  apply acts_keep (fun now => ∀ id row, view (.order id) = some row →
    ∃ next, now (.order id) = some next ∧ Onward row next) fits
  · intro act member now fits earlier id row found
    obtain ⟨middle, there, on⟩ := earlier id row found
    obtain ⟨next, left, further⟩ := act_onward (does act member) fits there
    exact ⟨next, left, onward_trans on further⟩
  · intro id row found
    exact ⟨row, found, onward_refl row⟩

/-- What a commit of Order's leaves. -/
theorem acts_agree {result : Result} {env : Env} {acts : List Act}
    (concluded : Concluded settings call result view env acts) (fits : Fits view (flat acts))
    (heard : delivered tables call.task = true) (records : Records tables)
    (drawn : ∀ input key requestHash orderId now sent,
      .create input key requestHash orderId now sent ∈ acts → Versioned orderId)
    (agrees : Agrees view tables) : Agrees (wrote view (flat acts)) tables := by
  by_cases again : ∃ eventId event, .record (.outbox eventId) event ∈ acts
  · obtain ⟨eventId, event, member⟩ := again
    obtain ⟨attemptId, attempt, recorded⟩ := concluded.reissued eventId event member
    obtain ⟨input, attempted⟩ := concluded.recorded attemptId attempt recorded
    obtain ⟨row, found, still, requests⟩ := attempted_requests attempted
    have kept := acts_keep
      (fun now => Agrees now tables ∧ now (.order input.orderId) = some row) fits
      (by
        rintro act member now fits ⟨agrees, there⟩
        have does := concluded.does act member
        refine ⟨act_agrees does fits heard records ?_ ?_ agrees, ?_⟩
        · rintro input key requestHash orderId now sent rfl
          exact drawn _ _ _ _ _ _ member
        · rintro other event rfl
          have own := (agrees.named _ _ there).own
          exact request_asks (own ▸ there) (requests other event member)
        · rw [act_order does fits, still act member, Option.none_or, there])
      ⟨agrees, found⟩
    exact kept.1
  · refine acts_keep (fun now => Agrees now tables) fits ?_ agrees
    intro act member now fits agrees
    refine act_agrees (concluded.does act member) fits heard records ?_ ?_ agrees
    · rintro input key requestHash orderId now sent rfl
      exact drawn _ _ _ _ _ _ member
    · rintro other event rfl
      exact absurd ⟨other, event, member⟩ again

end Acts

/-! ## Ids -/

/-- `randomUUID` draws UUIDs of a version. -/
def drawsVersioned : (ask : Ask) → Answer ask → Prop
  | .randomUUID, drawn => Versioned drawn
  | .serviceClock, _ | .isSuspended _, _ => True

/-- A call that made an errand, or changed one under a key. -/
def appliesVersioned (outcome : Except Failure Result) : Prop :=
  ∀ result order, outcome = .ok result → result.appliedTo = some order → Versioned order.orderId

theorem creation_drawn {settings : Settings} {call : Call} {caller : AuthContext} {key : String}
    {request : CreateRequest} {supplierSnapshot : SupplierSnapshot} {correlationId : String}
    (task : call.task = .create caller key request supplierSnapshot correlationId) :
    ((orderService settings).main call).onlyTold drawsVersioned appliesVersioned := by
  have program : (orderService settings).main call =
      create settings caller key request supplierSnapshot correlationId := by
    simp only [orderService, main, task]
  have throws : ∀ failure, appliesVersioned (.error failure) := by
    intro failure result order same
    cases same
  rw [program]
  simp only [create, bind_eq, pure_eq]
  refine told_bind throws fun _ => told_bind throws fun held => ?_
  cases held with
  | some held =>
      refine told_bind throws fun order => ?_
      split
      · intro result other same applied
        cases same
        cases applied
      · intro result other same applied
        cases same
        cases applied
  | none =>
      intro orderId drawn now _
      simp only [done_bind]
      split
      · exact throws _
      · rename_i change made
        refine told_bind throws fun _ => told_bind throws fun _ => told_bind throws fun _ =>
          told_bind throws fun _ => ?_
        intro result order same applied
        cases same
        cases applied
        rw [(create_ok made).1]
        exact drawn

/-- What a call that is told only such ids creates has such an id. -/
theorem created_drawn {settings : Settings} {call : Call} {result : Result} {view : View Row}
    {env : Env} {acts : List Act} (concluded : Concluded settings call result view env acts)
    (fits : Fits view (flat acts))
    (told : (∃ caller key request supplierSnapshot correlationId,
      call.task = .create caller key request supplierSnapshot correlationId) →
      appliesVersioned (.ok result)) :
    ∀ input key requestHash orderId now sent,
      .create input key requestHash orderId now sent ∈ acts → Versioned orderId := by
  intro input key requestHash orderId now sent member
  have does := concluded.does _ member
  have enters : (Act.create input key requestHash orderId now sent).enters
      (.requester input.requesterId key) { orderId, requestHash } := ⟨rfl, rfl⟩
  have slotted := does_enters does enters
  have left := acts_enter concluded.does fits member enters
  have applied : ∀ order, result.appliedTo = some order →
      (∃ act ∈ acts, act.enters (.requester input.requesterId key)
        { orderId := order.orderId, requestHash }) → Versioned orderId := by
    rintro order applied ⟨act, present, also⟩
    have same := left.symm.trans (acts_enter concluded.does fits present also)
    cases same
    refine told ?_ result order rfl applied
    cases does with
    | create caller key request supplierSnapshot correlationId orderId now change sent task =>
        exact ⟨_, _, _, _, _, task⟩
  have keyed := concluded.keyed _ _ slotted
  have loud : result.effective = true := by
    by_contra silent
    exact concluded.quiet (by simpa using silent) _ member
  cases result with
  | created order => exact applied order rfl keyed.2
  | answered order => exact applied order rfl keyed.2
  | replayed | absent => cases loud
  | _ => exact keyed.elim

end Foc.Agreement
