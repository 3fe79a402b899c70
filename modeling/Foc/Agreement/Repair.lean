import Foc.Agreement.Settlement
import Foc.Order.Reconciliation
import Mathlib

/-!
Reconciliation. A run of the reconciler lists the errands that have waited long for Credit,
asks Credit what it has for each, and records what that comes to: the request once more, or an
alert to an operator. Any number of runs go on beside the two services, and each acts on what
it read a while before.
-/
namespace Foc.Agreement
open Library Library.EventLoop Library.Serial Library.UuidText
open Library.ReadCommitted (Store idle step)
open Library.Transaction (step_calls)
open Foc.Order (Key Row StoredOrder OrderStatus Settings Micros UserId Uuid Env OrderWorld OrderEvent
  Reconciliation ReconciliationAction Attempt OutboxEvent Payload Task Chain ViewLater orderService
  orderRows longestUnchanged attemptedSince written idText reached_chain order_reached run_later
  step_commits acts_attempt calling locking sending)
open Foc.Credit (Tables OperationType)
open Foc.Credit.Interleaving (Records CreditStatus StatusDetail OrderCreditStatus Reaches orderStatus
  reaches reserved_kept drawn)

/-! ## What a run does -/

/-- An errand as it was listed. -/
structure Candidate where
  orderId : Uuid
  status : OrderStatus
  version : Int
  deriving DecidableEq, Repr

/-- Since when an errand has waited for Credit. -/
def waitingSince (row : StoredOrder) : Option Micros :=
  match row.status with
  | .pendingCredit => some row.createdAt
  | .completionPendingCredit => row.completionRequestedAt
  | .releasePendingCredit => row.releaseRequestedAt
  | _ => none

def Payload.asks : Payload → Bool
  | .statusChanged _ _ _ _ _ => false
  | .reservationRequested _ _ _ | .completionRequested _ _ _ _ | .releaseRequested _ _ _ => true

/-- A request about the errand is still to be published. -/
def unpublished (view : Store Row) (published : Uuid → Bool) (id : Uuid) : Bool :=
  view.entries.any fun
    | ⟨.outbox eventId, event⟩ =>
        decide (event.aggregateId = written id) && !published eventId && Payload.asks event.payload
    | _ => false

structure ReconcilerOptions where
  staleAfter : Nat
  batchSize : Nat

def isCandidate (settings : Settings) (options : ReconcilerOptions) (view : Store Row)
    (published : Uuid → Bool) (now : Micros) (row : StoredOrder) : Bool :=
  (waitingSince row).any (fun since => decide (since ≤ now - options.staleAfter * 1000)) &&
    !attemptedSince view row.orderId (now - settings.retryAfter * 1000) &&
    !unpublished view published row.orderId

def findReconciliationCandidates (settings : Settings) (options : ReconcilerOptions)
    (view : Store Row) (published : Uuid → Bool) (now : Micros) : List Candidate :=
  ((((orderRows view).filter (isCandidate settings options view published now)).mergeSort
    longestUnchanged).take options.batchSize).map fun row =>
      { orderId := row.orderId, status := row.status, version := row.version }

/-- What re-issuing the request can repair. -/
def repairable : OrderStatus → List CreditStatus
  | .pendingCredit => [.none, .reserved]
  | .completionPendingCredit => [.reserved, .transferred]
  | .releasePendingCredit => [.reserved, .released]
  | _ => []

def reconciliationDecision (orderStatus : OrderStatus) (credit : CreditStatus) :
    ReconciliationAction :=
  if credit ∈ repairable orderStatus then .reissue else .alert

def CreditStatus.text : CreditStatus → String
  | .none => "NONE"
  | .reserved => "RESERVED"
  | .released => "RELEASED"
  | .transferred => "TRANSFERRED"

def StatusDetail.text : StatusDetail → String
  | .unknown => "UNKNOWN"
  | .inFlight => "IN_FLIGHT"
  | .rejected => "REJECTED"

/-- What a run asks the repository to record for a candidate: `credit` is what Credit said of
it, if it was to be reached. -/
def reconciliation (candidate : Candidate) (runId : Uuid) (credit : Option OrderCreditStatus) :
    Reconciliation :=
  { orderId := candidate.orderId
    status := candidate.status
    version := candidate.version
    runId
    creditStatus := credit.map fun credit => CreditStatus.text credit.status
    creditDetail := credit.bind fun credit => credit.detail.map StatusDetail.text
    action :=
      match credit with
      | some credit => reconciliationDecision candidate.status credit.status
      | none => .creditUnavailable
    correlationId := "reconcile-" ++ idText runId }

/-! ## Runs beside the two services -/

/-- What runs have listed, and what they are to record. -/
structure System where
  world : World
  listed : List Candidate
  examined : List Reconciliation

inductive Move where
  | world (event : Event)
  | list (published : Uuid → Bool)
  | examine (candidate : Candidate) (runId : Uuid) (reached : Bool)

/-- Only what a run has examined is recorded. -/
def recordable (examined : List Reconciliation) : Task → Bool
  | .reconcile input => decide (input ∈ examined)
  | _ => true

def begins (examined : List Reconciliation) : Event → Bool
  | .order (.begin _ session) => recordable examined session.call.task
  | _ => true

def reconcile (settings : Settings) (options : ReconcilerOptions) : Turn System Move :=
  fun system move =>
    match move with
    | .world event =>
        if begins system.examined event then
          (turn settings system.world event).map fun world => { system with world }
        else none
    | .list published =>
        let orders := system.world.order
        some { system with
          listed := system.listed ++ findReconciliationCandidates settings options orders.committed
            published orders.env.clock }
    | .examine candidate runId reached =>
        if candidate ∈ system.listed then
          let credit := orderStatus system.world.credit.tables (idText candidate.orderId)
          some { system with
            examined := system.examined ++
              [reconciliation candidate runId (if reached then some credit else none)] }
        else none

/-! ## What Credit says of an errand that waits -/

section Waiting

variable {tables : Tables} {view : View Row} {row : StoredOrder} {orderId : Credit.OrderId}

theorem says_transferred (records : Records tables)
    (told : (orderStatus tables orderId).status = .transferred) :
    tables.operations.lookup (orderId, .transfer) ≠ none := by
  have reached := reaches records orderId
  generalize orderStatus tables orderId = status at reached told
  cases reached with
  | settled type operation reservation _ _ terminal found =>
      cases type with
      | transfer => simp [found]
      | reserve | release => simp at told
  | reserved | rejected | unknown => cases told

theorem says_released (records : Records tables)
    (told : (orderStatus tables orderId).status = .released) :
    tables.operations.lookup (orderId, .release) ≠ none := by
  have reached := reaches records orderId
  generalize orderStatus tables orderId = status at reached told
  cases reached with
  | settled type operation reservation _ _ terminal found =>
      cases type with
      | release => simp [found]
      | reserve => exact absurd rfl terminal
      | transfer => simp at told
  | reserved | rejected | unknown => cases told

theorem says_none (records : Records tables)
    (told : (orderStatus tables (idText row.orderId)).status = .none) : ¬ Reserved tables row := by
  rintro ⟨operation, transactionId, found, -, -, succeeded⟩
  exact (reserved_kept found succeeded (reaches records _)).1 told

/-- While an errand waits for Credit, what Credit says of it is what its request repairs. -/
theorem waiting_repairable (agrees : Agrees view tables) (records : Records tables)
    (found : view (.order row.orderId) = some row) (waits : repairable row.status ≠ []) :
    (orderStatus tables (idText row.orderId)).status ∈ repairable row.status := by
  have backed := agrees.backed _ row found
  have untransferred (unpaid : completes row.status = false) :
      (orderStatus tables (idText row.orderId)).status ≠ .transferred := fun told =>
    says_transferred records told (unsettled agrees found (by simp) (fun _ => unpaid) (by simp))
  have unreleased (unreturned : closes row.status = false) :
      (orderStatus tables (idText row.orderId)).status ≠ .released := fun told =>
    says_released records told (unsettled agrees found (by simp) (by simp) fun _ => unreturned)
  have unreserved := fun told => @says_none tables row records told
  unfold Backed at backed
  generalize (orderStatus tables (idText row.orderId)).status = told at *
  cases status : row.status <;> rw [status] at waits untransferred unreleased backed
  case pendingCredit =>
      cases told with
      | none | reserved => simp [repairable]
      | transferred => exact absurd rfl (untransferred rfl)
      | released => exact absurd rfl (unreleased rfl)
  case completionPendingCredit =>
      cases told with
      | reserved | transferred => simp [repairable]
      | none => exact absurd backed (unreserved rfl)
      | released => exact absurd rfl (unreleased rfl)
  case releasePendingCredit =>
      cases told with
      | reserved | released => simp [repairable]
      | none => exact absurd backed (unreserved rfl)
      | transferred => exact absurd rfl (untransferred rfl)
  all_goals exact absurd rfl waits

end Waiting

/-! ## What a run has read -/

section Readings

variable {view later : View Row} {tables : Tables} {candidate : Candidate} {input : Reconciliation}

/-- The errand was once as it was listed. -/
structure Listed (view : View Row) (candidate : Candidate) : Prop where
  waits : repairable candidate.status ≠ []
  was : ∃ row entry, view (.order candidate.orderId) = some row ∧
    candidate.version ≤ row.version ∧
    view (.history candidate.orderId candidate.version) = some entry ∧
    entry.newStatus = candidate.status

/-- An alert is to be raised only of an errand that has gone on since it was listed. -/
def Examined (view : View Row) (input : Reconciliation) : Prop :=
  input.action = .alert →
    ∃ row, view (.order input.orderId) = some row ∧ input.version < row.version

theorem listed_later (onward : ViewLater view later) (listed : Listed view candidate) :
    Listed later candidate := by
  obtain ⟨row, entry, found, version, noted, status⟩ := listed.was
  obtain ⟨next, there, on⟩ := onward.orders _ row found
  exact ⟨listed.waits, next, entry, there, version.trans on.version,
    onward.histories _ _ entry noted, status⟩

theorem examined_later (onward : ViewLater view later) (examined : Examined view input) :
    Examined later input := by
  intro alerts
  obtain ⟨row, found, version⟩ := examined alerts
  obtain ⟨next, there, on⟩ := onward.orders _ row found
  exact ⟨next, there, version.trans_le on.version⟩

/-- What Credit says is of the errand as it is then: had it not gone on, it would be as it was
listed, and its request could be sent again. -/
theorem reconciliation_examined (chain : Chain view candidate.orderId) (agrees : Agrees view tables)
    (records : Records tables) (listed : Listed view candidate) (runId : Uuid) (answers : Bool) :
    Examined view (reconciliation candidate runId
      (if answers then some (orderStatus tables (idText candidate.orderId)) else none)) := by
  intro alerts
  obtain ⟨row, entry, found, version, noted, status⟩ := listed.was
  refine ⟨row, found, lt_of_le_of_ne version fun same => ?_⟩
  have own := (agrees.named _ row found).own
  have now : row.status = candidate.status := by
    rw [← status]
    exact (chain.last row entry found (same ▸ noted)).symm
  cases answers with
  | false => cases alerts
  | true =>
      have repairs := waiting_repairable agrees records (own.symm ▸ found) (now ▸ listed.waits)
      rw [own, now] at repairs
      simp [reconciliation, reconciliationDecision, repairs] at alerts

theorem candidate_listed {settings : Settings} {options : ReconcilerOptions} {orders : Store Row}
    {published : Uuid → Bool} {now : Micros} (chains : ∀ id, Chain orders.lookup id)
    (named : ∀ id row, orders.lookup (.order id) = some row → Named id row)
    (member : candidate ∈ findReconciliationCandidates settings options orders published now) :
    Listed orders.lookup candidate := by
  obtain ⟨row, among, rfl⟩ := List.mem_map.mp member
  have found := List.mem_mergeSort.mp (List.mem_of_mem_take among)
  obtain ⟨stored, is⟩ := List.mem_filter.mp found
  obtain ⟨id, present⟩ := Order.mem_order_rows stored
  have own := (named id row present).own
  have chain := chains row.orderId
  have there : orders.lookup (.order row.orderId) = some row := own ▸ present
  obtain ⟨entry, noted⟩ := (chain.gapless row.version).mpr
    ⟨row, there, chain.reached row there, le_refl _⟩
  refine ⟨fun none_ => ?_, row, entry, there, le_refl _, noted, chain.last row entry there noted⟩
  have waits : waitingSince row ≠ none := by
    intro none_
    simp [isCandidate, none_] at is
  change repairable row.status = [] at none_
  unfold waitingSince at waits
  split at waits <;> first | exact absurd rfl waits | simp_all [repairable]

end Readings

/-! ## In every state reached -/

section Runs

variable {settings : Settings} {options : ReconcilerOptions} {clock creditClock : Micros}
  {suspended : List UserId} {system after : System}

structure Reconciled (settings : Settings) (clock : Micros) (suspended : List UserId)
    (system : System) : Prop where
  standing : Standing settings clock suspended system.world
  recording : ∀ session tx, system.world.order.active.lookup session = some tx →
    recordable system.examined tx.pc.call.task = true
  listed : ∀ candidate ∈ system.listed, Listed system.world.order.committed.lookup candidate
  examined : ∀ input ∈ system.examined, Examined system.world.order.committed.lookup input
  repaired : ∀ attemptId attempt,
    system.world.order.committed.lookup (.attempt attemptId) = some attempt →
      attempt.action ≠ .alert

/-- No run has begun. -/
def unlisted (clock creditClock : Micros) (suspended : List UserId) : System :=
  { world := begun clock creditClock suspended, listed := [], examined := [] }

theorem unlisted_reconciled :
    Reconciled settings clock suspended (unlisted clock creditClock suspended) where
  standing := begun_standing
  recording := by
    intro session tx found
    cases found
  listed := by
    intro candidate member
    cases member
  examined := by
    intro input member
    cases member
  repaired := by
    intro attemptId attempt found
    cases found

theorem recordable_later {examined more : List Reconciliation} {task : Task}
    (known : recordable examined task = true) : recordable (examined ++ more) task = true := by
  unfold recordable at known ⊢
  split at known
  · exact decide_eq_true (List.mem_append_left _ (of_decide_eq_true known))
  · rfl

theorem standing_chain {world : World} (standing : Standing settings clock suspended world)
    (id : Uuid) : Chain world.order.committed.lookup id :=
  reached_chain (order_reached (drawn_run standing.orders)) id

/-- A commit records an attempt only of an errand as it was listed. -/
theorem order_repaired (reconciled : Reconciled settings clock suspended system)
    {event : OrderEvent} {order : OrderWorld}
    (stepped : step (orderService settings).machine system.world.order event = some order)
    {attemptId : Uuid} {attempt : Attempt}
    (found : order.committed.lookup (.attempt attemptId) = some attempt) :
    attempt.action ≠ .alert := by
  rcases step_commits (drawn_run reconciled.standing.orders) stepped with
    same | ⟨session, tx, result, acts, commits⟩
  · exact reconciled.repaired attemptId attempt ((congrFun same _).symm.trans found)
  · have left := (congrFun commits.written (.attempt attemptId)).symm.trans found
    rcases acts_attempt commits.concluded.does commits.fits left with old | recorded
    · exact reconciled.repaired attemptId attempt old
    · obtain ⟨input, attempted⟩ := commits.concluded.recorded attemptId attempt recorded
      obtain ⟨row, -, there, -, version, -⟩ := attempted.observed
      have known := reconciled.recording session tx commits.found
      rw [attempted.task] at known
      intro alerts
      -- The row would have gone on since it was listed, and the commit found it as it was.
      obtain ⟨next, present, further⟩ := reconciled.examined input (of_decide_eq_true known)
        (attempted.action.symm.trans alerts)
      cases there.symm.trans present
      exact absurd version (ne_of_gt further)

theorem order_reconciled (reconciled : Reconciled settings clock suspended system)
    {event : OrderEvent} {order : OrderWorld}
    (permitted : permits system.world (.order event) = true)
    (recorded : begins system.examined (.order event) = true)
    (stepped : step (orderService settings).machine system.world.order event = some order) :
    Reconciled settings clock suspended { system with world := { system.world with order } } := by
  have run := drawn_run reconciled.standing.orders
  have later := (run_later run (ReadCommitted.Run.refl.next event trivial stepped)).1
  refine ⟨order_standing reconciled.standing permitted stepped, ?_, ?_, ?_, ?_⟩
  · intro session tx found
    rcases step_calls stepped found with ⟨old, present, same⟩ | ⟨pc, is, same⟩
    · rw [same]
      exact reconciled.recording session old present
    · subst is
      rw [same]
      exact recorded
  · exact fun candidate member => listed_later later (reconciled.listed candidate member)
  · exact fun input member => examined_later later (reconciled.examined input member)
  · exact fun attemptId attempt found => order_repaired reconciled stepped found

theorem reconcile_reconciled {move : Move} (reconciled : Reconciled settings clock suspended system)
    (turned : reconcile settings options system move = some after) :
    Reconciled settings clock suspended after := by
  have standing := reconciled.standing
  cases move with
  | world event =>
      rw [reconcile] at turned
      split at turned
      · rename_i recorded
        obtain ⟨world, moved, rfl⟩ := Option.map_eq_some_iff.mp turned
        unfold turn at moved
        split at moved
        · rename_i permitted
          cases event with
          | order event =>
              obtain ⟨order, stepped, rfl⟩ := Option.map_eq_some_iff.mp moved
              exact order_reconciled reconciled permitted recorded stepped
          | credit event =>
              obtain ⟨credit, stepped, rfl⟩ := Option.map_eq_some_iff.mp moved
              exact ⟨credit_standing standing permitted stepped, reconciled.recording,
                reconciled.listed, reconciled.examined, reconciled.repaired⟩
        · cases moved
      · cases turned
  | list published =>
      cases turned
      refine ⟨standing, reconciled.recording, fun candidate member => ?_, reconciled.examined,
        reconciled.repaired⟩
      rcases List.mem_append.mp member with old | new
      · exact reconciled.listed candidate old
      · exact candidate_listed (standing_chain standing) standing.agrees.named new
  | examine candidate runId answers =>
      rw [reconcile] at turned
      split at turned
      · rename_i member
        cases turned
        refine ⟨standing, fun session tx found => ?_, reconciled.listed, fun input among => ?_,
          reconciled.repaired⟩
        · exact recordable_later (reconciled.recording session tx found)
        · rcases List.mem_append.mp among with old | new
          · exact reconciled.examined input old
          · cases List.mem_singleton.mp new
            exact reconciliation_examined (standing_chain standing _) standing.agrees
              standing.credit.records (reconciled.listed candidate member) runId answers
      · cases turned

/-- However many runs of the reconciler go on, whenever they list errands, ask Credit and
record what it comes to, and whatever the two services commit in between: no attempt ever finds
that they disagree. Each sends the request again, or found that Credit could not be reached. -/
theorem reconciliation_never_alerts
    (run : Run (reconcile settings options) (unlisted clock creditClock suspended) system) :
    ∀ attemptId attempt, system.world.order.committed.lookup (.attempt attemptId) = some attempt →
      attempt.action ≠ .alert := by
  have reconciled : Reconciled settings clock suspended system :=
    run_keeps (fun _ _ _ reconciled turned => reconcile_reconciled reconciled turned)
      unlisted_reconciled run
  exact reconciled.repaired

def awaited : Candidate :=
  { orderId := drawn 1, status := .pendingCredit, version := 1 }

/-- Credit has heard nothing of the errand yet. -/
def unheard : Reconciliation :=
  reconciliation awaited (drawn 10) (some (orderStatus .empty (idText (drawn 1))))

/-- Order asks Credit for the reward again. -/
def asksAgain : List OrderEvent :=
  [.begin 2 (calling 0 (.reconcile unheard))] ++ locking 2 (.order (drawn 1)) ++ [.run 2 none] ++
    sending 2 (drawn 8) ++ sending 2 (drawn 9) ++ [.commit 2]

/-- A run lists the errand and examines it. -/
def repairs : List Move :=
  (creates.map fun event => .world (.order event)) ++
    [.list fun _ => true, .examine awaited (drawn 10) true] ++
    asksAgain.map fun event => .world (.order event)

def patient : ReconcilerOptions := { staleAfter := 0, batchSize := 100 }

theorem reissued_quietly : ∃ (system : System) (attempt : Attempt),
    system.world.order.committed.lookup (.attempt (drawn 9)) = some attempt ∧
      attempt.creditStatus = some "NONE" ∧ attempt.action ≠ .alert := by
  have reached : ((turns (reconcile Order.plainSettings patient) (unlisted 0 0 []) repairs).any
      fun system => (system.world.order.committed.lookup (.attempt (drawn 9))).any fun attempt =>
        decide (attempt.creditStatus = some "NONE")) = true := by
    decide +kernel
  obtain ⟨system, reached, shown⟩ := (Option.any_eq_true _ _).mp reached
  obtain ⟨attempt, found, status⟩ := (Option.any_eq_true _ _).mp shown
  exact ⟨system, attempt, found, of_decide_eq_true status,
    reconciliation_never_alerts (run_turns .refl _ reached) _ attempt found⟩

end Runs

end Foc.Agreement
