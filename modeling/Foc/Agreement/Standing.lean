import Foc.Agreement.Settling
import Mathlib

/-!
The two services keep the agreement, whatever they are told and whenever: a session or a
transaction under way goes on from what it was told, and that stays true.
-/
namespace Foc.Agreement
open Library Library.EventLoop Library.Serial Library.UuidText
open Library.ReadCommitted (Store idle step run_weaken)
open Library.Transaction (Session run_told step_calls)
open Foc.Order (Key Row StoredOrder Answer Failure Call Result Settings OrderWorld OrderEvent
  OrderRun Env Micros UserId orderService Commits step_commits
  Task Millis Suspension written idText requesterOne requestOne errandOne calling locking sending
  moving)
open Foc.Credit (Tables)
open Foc.Credit.Interleaving (Kept Request drawn)

variable {settings : Settings} {clock creditClock : Micros} {suspended : List UserId}
  {world after : World}

/-! ## The Order Service's steps -/

section Order

variable {before next : OrderWorld} {event : OrderEvent} {tables : Tables}

/-- `randomUUID` draws as it does. -/
def draws : OrderWorld → OrderEvent → Prop
  | _, .answer _ ⟨.randomUUID, drawn⟩ => Versioned drawn
  | _, _ => True

abbrev DrawnRun (settings : Settings) : OrderWorld → OrderWorld → Prop :=
  ReadCommitted.Run (orderService settings).machine draws

theorem drawn_run (run : DrawnRun settings (idle ∅ (Env.initial clock suspended)) before) :
    OrderRun settings (idle ∅ (Env.initial clock suspended)) before :=
  run_weaken _ _ (fun _ _ _ => trivial) run

/-- A creation that commits made its errand under an id that was drawn. -/
theorem commits_drawn (run : DrawnRun settings (idle ∅ (Env.initial clock suspended)) before)
    {session : Nat} {tx : ReadCommitted.Tx Row (Session Row Answer Failure Call Result)}
    {result : Result} {acts : List Order.Act}
    (commits : Commits settings before event next session tx result acts) :
    ∀ input key requestHash orderId now sent,
      .create input key requestHash orderId now sent ∈ acts → Versioned orderId := by
  apply created_drawn commits.concluded commits.fits
  intro creates
  have told := run_told
    (fun call : Call => ∃ caller key request supplierSnapshot correlationId,
      call.task = .create caller key request supplierSnapshot correlationId)
    (fun call watched => by
      obtain ⟨_, _, _, _, _, task⟩ := watched
      exact creation_drawn task)
    (fun _ _ reply _ permitted _ _ => by
      obtain ⟨ask, value⟩ := reply
      cases ask with
      | randomUUID => exact permitted
      | serviceClock | isSuspended => trivial)
    (fun _ found _ => by cases found) run tx commits.found creates
  rw [commits.current] at told
  exact told

/-- A commit of Order's keeps the agreement, and the errands go on. -/
theorem order_agrees (run : DrawnRun settings (idle ∅ (Env.initial clock suspended)) before)
    (stepped : step (orderService settings).machine before event = some next)
    (heard : ∀ session tx, before.active.lookup session = some tx →
      delivered tables tx.pc.call.task = true)
    (records : Credit.Interleaving.Records tables)
    (agrees : Agrees before.committed.lookup tables) :
    Agrees next.committed.lookup tables ∧
      ∀ id row, before.committed.lookup (.order id) = some row →
        ∃ later, next.committed.lookup (.order id) = some later ∧ Onward row later := by
  rcases step_commits (drawn_run run) stepped with same | ⟨session, tx, result, acts, commits⟩
  · refine ⟨same ▸ agrees, fun id row found => ?_⟩
    exact ⟨row, (congrFun same _).trans found, onward_refl row⟩
  · have agreed := acts_agree commits.concluded commits.fits (heard session tx commits.found)
      records (commits_drawn run commits) agrees
    refine ⟨commits.written ▸ agreed, fun id row found => ?_⟩
    obtain ⟨later, left, on⟩ := acts_onward commits.concluded.does commits.fits id row found
    exact ⟨later, (congrFun commits.written _).trans left, on⟩

end Order

/-! ## Both services -/

/-- What holds between the two services, and of what each is at. -/
structure Standing (settings : Settings) (clock : Micros) (suspended : List UserId)
    (world : World) : Prop where
  orders : DrawnRun settings (idle ∅ (Env.initial clock suspended)) world.order
  credit : Kept world.credit
  agrees : Agrees world.order.committed.lookup world.credit.tables
  told : ∀ session tx, world.order.active.lookup session = some tx →
    delivered world.credit.tables tx.pc.call.task = true
  requested : ∀ (index : Nat) call, world.credit.active[index]? = some call →
    Requests world.order.committed.lookup call.request

theorem begun_standing : Standing settings clock suspended (begun clock creditClock suspended) where
  orders := .refl
  credit := Credit.Interleaving.initial_kept creditClock
  agrees := by
    constructor
    · intro id row found
      cases found
    · intro id row found
      cases found
    · intro eventId event found
      cases found
    · intro key operation found
      cases found
    · rfl
    · intro row member
      cases member
  told := by
    intro session tx found
    cases found
  requested := by
    intro index call found
    cases found

theorem permits_draws {event : OrderEvent} (permitted : permits world (.order event) = true) :
    draws world.order event := by
  cases event with
  | answer session reply =>
      obtain ⟨ask, value⟩ := reply
      cases ask with
      | randomUUID => exact show Versioned value from of_decide_eq_true permitted
      | serviceClock | isSuspended => trivial
  | _ => trivial

theorem order_standing (standing : Standing settings clock suspended world) {event : OrderEvent}
    {order : OrderWorld} (permitted : permits world (.order event) = true)
    (stepped : step (orderService settings).machine world.order event = some order) :
    Standing settings clock suspended { world with order } := by
  obtain ⟨agrees, onward⟩ :=
    order_agrees standing.orders stepped standing.told standing.credit.records standing.agrees
  refine ⟨standing.orders.next event (permits_draws permitted) stepped, standing.credit, agrees,
    ?_, ?_⟩
  · intro session tx found
    rcases step_calls stepped found with ⟨old, present, same⟩ | ⟨pc, is, same⟩
    · rw [same]
      exact standing.told session old present
    · subst is
      rw [same]
      exact permitted
  · intro index call found
    exact requests_onward agrees.named onward (standing.requested index call found)

/-- What was delivered stays delivered. -/
theorem delivered_later {tables later : Tables} {task : Order.Task}
    (grows : ∀ row ∈ tables.outbox, row ∈ later.outbox) (heard : delivered tables task = true) :
    delivered later task = true := by
  unfold delivered at heard ⊢
  cases is : told task with
  | none => rfl
  | some reply =>
      rw [is] at heard
      obtain ⟨row, member, read⟩ := List.any_eq_true.mp heard
      exact List.any_eq_true.mpr ⟨row, grows row member, read⟩

theorem credit_grows {state after : Credit.Interleaving.State} {event : Credit.Interleaving.Event}
    (sound : Credit.Interleaving.Sound state)
    (turned : Credit.Interleaving.turn state event = some after) :
    ∀ row ∈ state.tables.outbox, row ∈ after.tables.outbox := by
  intro row member
  rcases Credit.Interleaving.turn_lands sound turned with same | ⟨index, call, outcome, -, -, -, rfl, -⟩
  · rw [same]
    exact member
  · exact List.mem_append_left _ member

/-- A transaction under way is of the request that it was started for. -/
theorem credit_requests {state after : Credit.Interleaving.State}
    {event : Credit.Interleaving.Event} (sound : Credit.Interleaving.Sound state)
    (turned : Credit.Interleaving.turn state event = some after) {index : Nat}
    {call : Credit.Interleaving.Active} (found : after.active[index]? = some call) :
    (∃ old : Credit.Interleaving.Active, state.active[index]? = some old ∧
        call.request = old.request) ∨
      event = .start call.request := by
  have replaced {other : Nat} {old : Credit.Interleaving.Active}
      (moved : Credit.Interleaving.Active) (present : state.active[other]? = some old) (same : moved.request = old.request)
      (there : (state.active.set other moved)[index]? = some call) :
      ∃ old : Credit.Interleaving.Active, state.active[index]? = some old ∧
        call.request = old.request := by
    rcases (LockTable.get_set present).mp there with ⟨rfl, rfl⟩ | ⟨-, earlier⟩
    · exact ⟨old, present, same⟩
    · exact ⟨call, earlier, rfl⟩
  cases event with
  | tick now =>
      cases turned
      exact .inl ⟨call, found, rfl⟩
  | start request =>
      cases turned
      rcases LockTable.get_append found with earlier | ⟨-, rfl⟩
      · exact .inl ⟨call, earlier, rfl⟩
      · exact .inr rfl
  | run other draw =>
      rw [Credit.Interleaving.turn] at turned
      split at turned
      · obtain ⟨old, present, ran⟩ := Option.bind_eq_some_iff.mp turned
        obtain ⟨result, stepped, is⟩ := Option.map_eq_some_iff.mp ran
        subst is
        cases result with
        | error error => exact .inl (replaced (Credit.Interleaving.rollBack old) present rfl found)
        | ok moved =>
            have proceeds := (Credit.Interleaving.next_ready (sound.ready other old present)
              stepped).2
            exact .inl (replaced moved present proceeds.request found)
      · cases turned
  | commit other =>
      obtain ⟨old, present, committed⟩ := Option.bind_eq_some_iff.mp turned
      split at committed
      · rename_i outcome done
        cases committed
        exact .inl (replaced { old with stage := .committed outcome, locks := [], own := .none }
          present rfl found)
      · cases committed
  | abort other =>
      obtain ⟨old, present, aborted⟩ := Option.bind_eq_some_iff.mp turned
      split at aborted
      · cases aborted
      · cases aborted
      · cases aborted
        exact .inl (replaced (Credit.Interleaving.rollBack old) present rfl found)

theorem credit_standing (standing : Standing settings clock suspended world)
    {event : Credit.Interleaving.Event} {credit : Credit.Interleaving.State}
    (permitted : permits world (.credit event) = true)
    (turned : Credit.Interleaving.turn world.credit event = some credit) :
    Standing settings clock suspended { world with credit } := by
  have sound := standing.credit.sound
  refine ⟨standing.orders, Credit.Interleaving.turn_kept standing.credit turned, ?_, ?_, ?_⟩
  · rcases Credit.Interleaving.turn_lands sound turned with
      same | ⟨index, call, outcome, -, found, -, -, lands⟩
    · rw [same]
      exact standing.agrees
    · exact lands_agree standing.agrees (standing.requested index call found) lands
  · intro session tx found
    exact delivered_later (credit_grows sound turned) (standing.told session tx found)
  · intro index call found
    rcases credit_requests sound turned found with ⟨old, present, same⟩ | is
    · rw [same]
      exact standing.requested index old present
    · subst is
      exact asked_requests standing.agrees permitted

theorem turn_standing {event : Event} (standing : Standing settings clock suspended world)
    (turned : turn settings world event = some after) : Standing settings clock suspended after := by
  unfold turn at turned
  split at turned
  · rename_i permitted
    cases event with
    | order event =>
        obtain ⟨order, stepped, rfl⟩ := Option.map_eq_some_iff.mp turned
        exact order_standing standing permitted stepped
    | credit event =>
        obtain ⟨credit, moved, rfl⟩ := Option.map_eq_some_iff.mp turned
        exact credit_standing standing permitted moved
  · cases turned

theorem run_standing (run : Run (turn settings) (begun clock creditClock suspended) world) :
    Standing settings clock suspended world :=
  run_keeps (fun _ _ _ standing turned => turn_standing standing turned) begun_standing run

/-! ## A run -/

/-- An errand is created. -/
def creates : List OrderEvent :=
  [ .begin 1 (calling 0 (.create requesterOne "k" requestOne errandOne.supplierSnapshot "c")),
    .run 1 none ] ++ locking 1 (.advisory 0) ++
  [ .run 1 none, .answer 1 ⟨.randomUUID, drawn 1⟩, .answer 1 ⟨.serviceClock, (0 : Millis)⟩,
    .run 1 none, .run 1 none, .run 1 none ] ++ sending 1 (drawn 2) ++ sending 1 (drawn 3) ++
  [.commit 1]

/-- Its requester gets a wallet, and its reward is set aside. -/
def reserves : List Credit.Interleaving.Event :=
  [ .start (.issueInitial "u1" 10), .run 0 (drawn 4), .commit 0,
    .start (.reserve
      { orderId := idText (drawn 1)
        requesterId := "u1"
        amount := 2
        correlationId := "c"
        causationId := idText (drawn 3) }),
    .run 1 (drawn 5), .run 1 (drawn 5), .commit 1 ]

def replyOne : Task :=
  .reservation { eventId := drawn 6, aggregateId := written (drawn 1), correlationId := "c" }
    { orderId := written (drawn 1), requesterId := "u1", amount := 2 } .reserved

/-- Order hears of it. -/
def hears : List OrderEvent :=
  [.begin 2 (calling 0 replyOne), .run 2 none] ++ locking 2 (.order (drawn 1))

def waits : List Event := creates.map .order ++ reserves.map .credit

/-- It opens the errand. -/
def opens : List OrderEvent :=
  [.answer 2 ⟨.isSuspended "u1", Suspension.mk false 0⟩] ++ moving 2 (.order (drawn 1)) (drawn 7) ++
    [.commit 2]

end Foc.Agreement
