import Foc.Order.Chain

/-!
Idempotency keys. The log of calls shows at most one applied for each caller and
key, and the key's row tells which; a later send finds the row and answers with
its order, or is refused for another request.
-/
namespace Foc.Order
open Library Library.ReadCommitted Library.Transaction Library.Serial Library.Json

/-- The key a call is sent under, and its request. -/
def requestOf : Task → Option (Slot × Value)
  | .findIdempotent caller key request | .create caller key request _ _ =>
      some (.requester caller.userId key, request.json)
  | .command caller (some key) request _ => some (.command caller.userId key, request.json)
  | _ => none

/-- The order a call was applied to. -/
def Result.appliedTo : Result → Option OrderRow
  | .created order | .answered order => some order
  | _ => none

/-- The call was sent under the key and applied. -/
def appliedUnder (slot : Slot) : Call × Except Failure Result → Bool
  | (call, .ok result) =>
      (requestOf call.task).any (fun sent => decide (sent.1 = slot)) && result.appliedTo.isSome
  | (_, .error _) => false

/-- The call only looks the key up, before a creation. -/
def Task.looksUp : Task → Bool
  | .findIdempotent _ _ _ => true
  | _ => false

theorem slot_request (settings : Settings) (task : Task) :
    slotOf settings task =
      (requestOf task).map fun sent => (sent.1, hashRequest settings.sha256 sent.2) := by
  cases task with
  | command caller key => cases key <;> rfl
  | _ => rfl

/-- The key rows are those of the calls applied, one each. -/
structure Recorded (settings : Settings) (view : View Row) (env : Env) : Prop where
  once : ∀ slot, env.log.countP (appliedUnder slot) ≤ 1
  held : ∀ call result order slot requestHash, (call, .ok result) ∈ env.log →
    result.appliedTo = some order → slotOf settings call.task = some (slot, requestHash) →
    slotRow view slot = some { orderId := order.orderId, requestHash }
  explained : ∀ slot row, slotRow view slot = some row → ∃ call result order,
    (call, .ok result) ∈ env.log ∧ result.appliedTo = some order ∧
      slotOf settings call.task = some (slot, row.requestHash) ∧ order.orderId = row.orderId

section Keys

variable {settings : Settings} {call : Call} {view : View Row} {env : Env} {act : Act}
  {acts : List Act} {slot : Slot} {row : KeyRow}

theorem acts_enter (does : ∀ act ∈ acts, Does settings call act) (fits : Fits view (flat acts))
    (member : act ∈ acts) (enters : act.enters slot row) :
    slotRow (wrote view (flat acts)) slot = some row := by
  induction acts generalizing view with
  | nil => cases member
  | cons first rest ih =>
      have here : Does settings call first := does first List.mem_cons_self
      have others : ∀ other ∈ rest, Does settings call other :=
        fun other present => does other (List.mem_cons_of_mem _ present)
      rw [flat_cons, fits_append] at fits
      rw [flat_cons, wrote_append]
      rcases List.mem_cons.mp member with rfl | later
      · exact (acts_later others fits.2).slots slot row
          ((act_slot here fits.1 slot row).mpr (.inr enters))
      · exact ih others fits.2 later

/-- A key row is one that was there, or that one of the acts enters. -/
theorem acts_slot (does : ∀ act ∈ acts, Does settings call act) (fits : Fits view (flat acts))
    (found : slotRow (wrote view (flat acts)) slot = some row) :
    slotRow view slot = some row ∨ ∃ act ∈ acts, act.enters slot row := by
  have kept := acts_keep (fun later => ∀ slot row, slotRow later slot = some row →
      slotRow view slot = some row ∨ ∃ act ∈ acts, act.enters slot row) fits
    (by
      intro act member middle fits before slot row found
      rcases (act_slot (does act member) fits slot row).mp found with old | enters
      · exact before slot row old
      · exact .inr ⟨act, member, enters⟩)
    (fun _ _ found => .inl found)
  exact kept slot row found

/-- Only a call under the key enters it, with the hash of its own request. -/
theorem enters_slot (does : Does settings call act) (enters : act.enters slot row) :
    slotOf settings call.task = some (slot, row.requestHash) ∧ ¬ act.quiet := by
  cases does with
  | keyed cause before change sent named issued applies events caller key request correlationId
      task =>
      obtain ⟨rfl, rfl⟩ := enters
      rw [task]
      exact ⟨rfl, fun quiet => quiet⟩
  | create caller key request supplierSnapshot correlationId orderId now change sent task =>
      obtain ⟨rfl, rfl⟩ := enters
      rw [task]
      exact ⟨rfl, fun quiet => quiet⟩
  | _ => cases enters

theorem unheld_unapplied (recorded : Recorded settings view env) (unheld : slotRow view slot = none) :
    env.log.countP (appliedUnder slot) = 0 := by
  rw [List.countP_eq_zero]
  rintro ⟨call, result⟩ member applied
  cases result with
  | error => cases applied
  | ok result =>
      simp only [appliedUnder, Bool.and_eq_true, Option.any_eq_true, decide_eq_true_eq] at applied
      obtain ⟨⟨⟨other, request⟩, sent, same⟩, order⟩ := applied
      obtain ⟨order, applied⟩ := Option.isSome_iff_exists.mp order
      simp only at same
      subst same
      have slotted : slotOf settings call.task =
          some (other, hashRequest settings.sha256 request) := by
        rw [slot_request, sent]
        rfl
      have held := recorded.held call result order other _ member applied slotted
      rw [unheld] at held
      cases held

/-- What a call that ends leaves recorded of it. -/
theorem commit_recorded {result : Result} (concluded : Concluded settings call result view env acts)
    (fits : Fits view (flat acts)) (recorded : Recorded settings view env) :
    Recorded settings (wrote view (flat acts)) { env with log := (call, .ok result) :: env.log } := by
  have later := acts_later concluded.does fits
  -- An applied call found its key unused, and entered it.
  have applied : ∀ order slot requestHash, result.appliedTo = some order →
      slotOf settings call.task = some (slot, requestHash) → slotRow view slot = none ∧
        ∃ act ∈ acts, act.enters slot { orderId := order.orderId, requestHash } := by
    intro order slot requestHash applied slotted
    have keyed := concluded.keyed slot requestHash slotted
    cases result with
    | created other =>
        cases applied
        exact keyed
    | answered other =>
        cases applied
        exact keyed
    | _ => cases applied
  constructor
  · intro slot
    have before := recorded.once slot
    rw [List.countP_cons]
    split
    · rename_i here
      simp only [appliedUnder, Bool.and_eq_true, Option.any_eq_true, decide_eq_true_eq] at here
      obtain ⟨⟨⟨other, request⟩, sent, same⟩, order⟩ := here
      obtain ⟨order, appliedTo⟩ := Option.isSome_iff_exists.mp order
      simp only at same
      subst same
      have slotted : slotOf settings call.task =
          some (other, hashRequest settings.sha256 request) := by
        rw [slot_request, sent]
        rfl
      rw [unheld_unapplied recorded (applied order other _ appliedTo slotted).1]
    · omega
  · intro other outcome order slot requestHash member appliedTo slotted
    rcases List.mem_cons.mp member with here | old
    · cases here
      obtain ⟨_, act, present, enters⟩ := applied order slot requestHash appliedTo slotted
      exact acts_enter concluded.does fits present enters
    · exact later.slots slot _ (recorded.held other outcome order slot requestHash old appliedTo
        slotted)
  · intro slot row found
    rcases acts_slot concluded.does fits found with old | ⟨act, member, enters⟩
    · obtain ⟨other, outcome, order, earlier, rest⟩ := recorded.explained slot row old
      exact ⟨other, outcome, order, List.mem_cons_of_mem _ earlier, rest⟩
    · obtain ⟨slotted, loud⟩ := enters_slot (concluded.does act member) enters
      have effective : result.effective = true := by
        by_contra refused
        exact loud (concluded.quiet (by simpa using refused) act member)
      have keyed := concluded.keyed slot row.requestHash slotted
      have only : ∀ order, result.appliedTo = some order → order.orderId = row.orderId := by
        intro order appliedTo
        obtain ⟨_, other, present, entered⟩ := applied order slot row.requestHash appliedTo slotted
        have same := acts_enter concluded.does fits present entered
        rw [found] at same
        rw [Option.some.inj same]
      cases result with
      | created order =>
          exact ⟨call, _, order, List.mem_cons_self, rfl, slotted, only order rfl⟩
      | answered order =>
          exact ⟨call, _, order, List.mem_cons_self, rfl, slotted, only order rfl⟩
      | replayed => cases effective
      | absent => cases effective
      | _ => cases keyed

theorem turn_recorded {kept : Key → Prop} {before after : View Row × Env}
    (turn : OrderTurn settings kept before after) (recorded : Recorded settings before.1 before.2) :
    Recorded settings after.1 after.2 := by
  cases turn with
  | commit call result moves view env fits ended apart =>
      obtain ⟨acts, rfl, concluded⟩ := ended
      exact commit_recorded concluded fits recorded
  | refuse call error view env ended =>
      have quiet : ∀ slot, appliedUnder slot (call, .error error) = false := fun _ => rfl
      constructor
      · intro slot
        simpa [orderService, List.countP_cons, quiet] using recorded.once slot
      · intro other outcome order slot requestHash member
        rcases List.mem_cons.mp member with here | old
        · cases here
        · exact recorded.held other outcome order slot requestHash old
      · intro slot row found
        obtain ⟨other, outcome, order, earlier, rest⟩ := recorded.explained slot row found
        exact ⟨other, outcome, order, List.mem_cons_of_mem _ earlier, rest⟩
  | answer call ask value view env after asked responded =>
      have log : after.log = env.log := respond_log responded
      exact ⟨log ▸ recorded.once, log ▸ recorded.held, log ▸ recorded.explained⟩
  | stimulus value view env after accepted =>
      have log := (stimulus_same accepted).1
      exact ⟨log ▸ recorded.once, log ▸ recorded.held, log ▸ recorded.explained⟩

theorem reached_recorded {state : View Row × Env}
    (reached : Serial.Reached (orderService settings) (orderContract settings) state) :
    Recorded settings state.1 state.2 := by
  apply reached_keeps ?_ (fun _ _ _ turn => turn_recorded turn) reached
  rintro view env ⟨empty, log, _⟩
  refine ⟨by simp [log], by simp [log], ?_⟩
  intro slot row found
  cases slot <;> simp [slotRow, empty] at found

end Keys

/-! ## How a send ends -/

section Sends

variable {settings : Settings}

/-- A send that does not only look its key up ends with an answer. -/
def answers (call : Call) (result : Except Failure Result) : Prop :=
  (requestOf call.task).isSome = true → call.task.looksUp = false → result ≠ .ok .absent

theorem create_only (caller : AuthContext) (key : String) (request : CreateRequest)
    (supplierSnapshot : SupplierSnapshot) (correlationId : String) :
    (create settings caller key request supplierSnapshot correlationId).only (· ≠ .ok .absent) := by
  have throws : ∀ error : Failure, (.error error : Except Failure Result) ≠ .ok .absent := nofun
  simp only [create, bind_eq, pure_eq]
  apply only_bind throws
  intro _
  apply only_bind throws
  intro found
  cases found with
  | some held =>
      apply only_bind throws
      intro order
      cases shown : project order caller <;> simp [Program.only]
  | none =>
      apply only_bind throws
      intro orderId
      apply only_bind throws
      intro now
      cases made : createPending (pendingInput caller request supplierSnapshot correlationId)
          orderId now with
      | error failure => simp [Program.only]
      | ok change =>
          simp only
          apply only_bind throws
          intro _
          apply only_bind throws
          intro _
          apply only_bind throws
          intro _
          apply only_bind throws
          intro _
          simp [Program.only]

theorem keyed_only (caller : AuthContext) (key : String) (request : UserRequest)
    (run : Tx (Except Failure OrderRow)) :
    (withCommandKey settings caller key request run).only (· ≠ .ok .absent) := by
  have throws : ∀ error : Failure, (.error error : Except Failure Result) ≠ .ok .absent := nofun
  simp only [withCommandKey, bind_eq, pure_eq]
  apply only_bind throws
  intro _
  apply only_bind throws
  intro found
  cases found with
  | some held =>
      apply only_bind throws
      intro order
      cases shown : project order caller <;> simp [Program.only]
  | none =>
      apply only_bind throws
      intro result
      cases result with
      | error failure => simp [Program.only]
      | ok order =>
          apply only_bind throws
          intro _
          simp [Program.only]

theorem main_answers (call : Call) :
    ((orderService settings).main call).only (answers call) := by
  have weaken : ∀ result : Except Failure Result, result ≠ .ok .absent → answers call result :=
    fun _ apart _ _ => apart
  obtain ⟨began, task⟩ := call
  cases task with
  | create caller key request supplierSnapshot correlationId =>
      exact only_mono weaken (create_only caller key request supplierSnapshot correlationId)
  | command caller key request correlationId =>
      cases key with
      | none => exact only_all fun _ keyed => by cases keyed
      | some key => exact only_mono weaken (keyed_only caller key request _)
  | findIdempotent => exact only_all fun _ _ looks => by cases looks
  | _ => exact only_all fun _ keyed => by cases keyed

/-- While a key is recorded, with its order, looking it up finds it. -/
def Present (caller : AuthContext) (key : String) (held : KeyRow) (store : Store Row) (_ : Env) :
    Prop :=
  slotRow store.lookup (.requester caller.userId key) = some held ∧
    ∃ row, store.lookup (.order held.orderId) = some row

theorem find_present {caller : AuthContext} {key : String} {held : KeyRow}
    {request : CreateRequest} {store : Store Row} {env : Env} {call : Call} :
    ensures (watching (Present caller key held)) ((orderService settings).reply call)
      (fun result _ _ _ => result ≠ .ok .absent) (findIdempotent settings caller key request) store
      env ∅ := by
  simp only [findIdempotent, bind_eq, pure_eq]
  intro second secondEnv rely
  have found : (overlay second ∅).lookup (.requesterKey caller.userId key) = some held := rely.holds.1
  simp only [found]
  intro third thirdEnv later
  obtain ⟨row, there⟩ := later.holds.2
  have shown : (overlay third ∅).lookup (.order held.orderId) = some row := there
  simp only [shown, done_bind]
  split
  · intro _ _ _
    simp
  · cases project (mapOrder row) caller <;> intro _ _ _ <;> simp

variable {clock : Micros} {suspended : List UserId} {world later : OrderWorld}
  {slot : Slot} {held : KeyRow} {session : Nat}
  {tx : ReadCommitted.Tx Row (Session Row Answer Failure Call Result)}

/-- A send of a key that is recorded does not end as one that found none. -/
theorem send_answers (run : OrderRun settings (idle ∅ (Env.initial clock suspended)) world)
    (recorded : slotRow world.committed.lookup slot = some held) (onward : OrderRun settings world later)
    (found : later.active.lookup session = some tx) {request : Value}
    (sent : requestOf tx.pc.call.task = some (slot, request))
    (when_ : world.active.lookup session = none ∨ tx.pc.call.task.looksUp = false) :
    (orderService settings).current tx.pc ≠ .done .absent := by
  intro current
  cases looks : tx.pc.call.task.looksUp with
  | false =>
      have apart := run_only main_answers (run_append run onward) found current
      exact apart (by rw [sent]; rfl) looks rfl
  | true =>
      have absent : world.active.lookup session = none := by
        rcases when_ with absent | looksNot
        · exact absent
        · rw [looks] at looksNot
          cases looksNot
      cases task : tx.pc.call.task with
      | findIdempotent caller key sentRequest =>
          rw [task] at sent
          cases sent
          have stays : ∀ world', OrderRun settings world world' →
              Present caller key held world'.committed world'.env := by
            intro world' between
            have after := (run_later run between).1
            have standing := reached_standing (order_reached run)
            obtain ⟨row, present, _⟩ := standing.slots _ held recorded
            obtain ⟨next, there, _⟩ := after.orders _ row present
            exact ⟨after.slots _ held recorded, next, there⟩
          have hold := serial_hold (order_sound settings)
            (show fresh _ _ from ⟨fun _ => rfl, rfl, rfl, rfl⟩) run
          have standing : (orderService settings).underway (watching (Present caller key held))
              (fun _ result _ _ _ => result ≠ .ok .absent) later.committed later.env tx := by
            apply (later_underway (fun call => call.task = .findIdempotent caller key sentRequest)
              hold.exclusive stays _ absent onward).2 tx found task
            intro store env call _ looksUp
            have program : (orderService settings).main call =
                findIdempotent settings caller key sentRequest := by
              simp only [orderService, main, looksUp]
            rw [program]
            exact find_present
          exact underway_done (stays later onward) standing current rfl
      | _ =>
          rw [task] at looks
          cases looks

/-- Once a call has been applied under a key, a later send of the key with an equal
request is answered with its order, and with any other does not end but by throwing. -/
theorem send_ends (injective : Function.Injective settings.sha256)
    (run : OrderRun settings (idle ∅ (Env.initial clock suspended)) world) {call : Call}
    {result : Result} {order : OrderRow} {request other : Value}
    (logged : (call, .ok result) ∈ world.env.log) (applied : result.appliedTo = some order)
    (keyed : requestOf call.task = some (slot, request)) (onward : OrderRun settings world later)
    (found : later.active.lookup session = some tx)
    (sent : requestOf tx.pc.call.task = some (slot, other))
    (when_ : world.active.lookup session = none ∨ tx.pc.call.task.looksUp = false) :
    (Same request other →
      (∀ error, (orderService settings).current tx.pc ≠ .fail error) ∧
        ∀ result, (orderService settings).current tx.pc = .done result →
          ∃ again, result = .replayed again ∧ again.orderId = order.orderId) ∧
      (¬ Same request other → ∀ result, (orderService settings).current tx.pc ≠ .done result) := by
  have whole := run_append run onward
  have slotted : slotOf settings call.task = some (slot, hashRequest settings.sha256 request) := by
    rw [slot_request, keyed]
    rfl
  have again : slotOf settings tx.pc.call.task =
      some (slot, hashRequest settings.sha256 other) := by
    rw [slot_request, sent]
    rfl
  have recorded := (reached_recorded (order_reached run)).held call result order slot _ logged applied
    slotted
  have held := (run_later run onward).1.slots slot _ recorded
  -- The call ends only as a replay of the row its key has.
  have ends : ∀ result, (orderService settings).current tx.pc = .done result →
      hashRequest settings.sha256 request = hashRequest settings.sha256 other ∧
        ∃ again, result = .replayed again ∧ again.orderId = order.orderId := by
    intro result current
    have answered := send_answers run recorded onward found sent when_
    obtain ⟨moves, own, fits, acts, rfl, concluded⟩ := serial_commit (order_sound settings)
      (show fresh _ _ from ⟨fun _ => rfl, rfl, rfl, rfl⟩) whole found current
    have keyed := concluded.keyed slot _ again
    cases result with
    | created => cases held.symm.trans keyed.1
    | answered => cases held.symm.trans keyed.1
    | replayed shown =>
        obtain ⟨row, present, hash, same⟩ := keyed
        cases held.symm.trans present
        exact ⟨hash, shown, rfl, same⟩
    | absent => exact absurd current answered
    | _ => cases keyed
  constructor
  · intro same
    have hash := (hash_iff injective).mpr same
    refine ⟨?_, fun result current => (ends result current).2⟩
    intro error current
    exact serial_refusal (order_sound settings)
      (show fresh _ _ from ⟨fun _ => rfl, rfl, rfl, rfl⟩) whole found current slot _ _ again held hash
  · intro different result current
    exact different ((hash_iff injective).mp (ends result current).1)

/-- Keys that nothing was applied under have no row, and nothing is answered from them. -/
theorem fresh_sends (run : OrderRun settings (idle ∅ (Env.initial clock suspended)) world)
    (unused : world.env.log.countP (appliedUnder slot) = 0)
    (found : world.active.lookup session = some tx) {request : Value}
    (sent : requestOf tx.pc.call.task = some (slot, request)) (order : OrderRow) :
    (orderService settings).current tx.pc ≠ .done (.replayed order) := by
  intro current
  obtain ⟨moves, own, fits, acts, rfl, concluded⟩ := serial_commit (order_sound settings)
    (show fresh _ _ from ⟨fun _ => rfl, rfl, rfl, rfl⟩) run found current
  have again : slotOf settings tx.pc.call.task =
      some (slot, hashRequest settings.sha256 request) := by
    rw [slot_request, sent]
    rfl
  obtain ⟨row, present, _⟩ := concluded.keyed slot _ again
  obtain ⟨call, result, order, logged, applied, slotted, _⟩ :=
    (reached_recorded (order_reached run)).explained slot row present
  rw [List.countP_eq_zero] at unused
  apply unused _ logged
  rw [slot_request] at slotted
  obtain ⟨⟨name, value⟩, asked, same⟩ := Option.map_eq_some_iff.mp slotted
  simp only [Prod.mk.injEq] at same
  simp [appliedUnder, asked, same.1, applied]

/-- For every interleaving of sends: at most one call is applied under each key; a
later send of the key is answered with that call's order if its request is equal
up to the order of object keys, and only throws if it is not; neither of these,
nor a refusal, changes an errand, a key or the outbox; and a key has a row only for
a call applied under it, so that without one no send is answered from it. -/
theorem keys_apply_once (settings : Settings) (injective : Function.Injective settings.sha256)
    (clock : Micros) (suspended : List UserId) (world : OrderWorld)
    (run : OrderRun settings (idle ∅ (Env.initial clock suspended)) world) :
    (∀ slot, world.env.log.countP (appliedUnder slot) ≤ 1) ∧
    (∀ call result order slot request, (call, .ok result) ∈ world.env.log →
      result.appliedTo = some order → requestOf call.task = some (slot, request) →
      ∀ later session tx other, OrderRun settings world later →
        later.active.lookup session = some tx →
        requestOf tx.pc.call.task = some (slot, other) →
        (world.active.lookup session = none ∨ tx.pc.call.task.looksUp = false) →
        (Same request other →
          (∀ error, (orderService settings).current tx.pc ≠ .fail error) ∧
            ∀ result, (orderService settings).current tx.pc = .done result →
              ∃ again, result = .replayed again ∧ again.orderId = order.orderId) ∧
          (¬ Same request other →
            ∀ result, (orderService settings).current tx.pc ≠ .done result)) ∧
    (∀ event after, step (orderService settings).machine world event = some after →
      ¬ carriesOut settings world event → ∀ key : Key, key.ofErrands →
        after.committed.lookup key = world.committed.lookup key) ∧
    (∀ slot row, slotRow world.committed.lookup slot = some row →
      ∃ call result order request, (call, .ok result) ∈ world.env.log ∧
        result.appliedTo = some order ∧ requestOf call.task = some (slot, request) ∧
        row = { orderId := order.orderId, requestHash := hashRequest settings.sha256 request }) ∧
    ∀ slot, world.env.log.countP (appliedUnder slot) = 0 → ∀ session tx request,
      world.active.lookup session = some tx → requestOf tx.pc.call.task = some (slot, request) →
      ∀ order, (orderService settings).current tx.pc ≠ .done (.replayed order) := by
  have recorded := reached_recorded (order_reached run)
  refine ⟨recorded.once, ?_, fun _ _ stepped refused _ => refused_errands run stepped refused, ?_, ?_⟩
  · intro call result order slot request logged applied keyed later session tx other onward found
      sent when_
    exact send_ends injective run logged applied keyed onward found sent when_
  · intro slot row found
    obtain ⟨call, result, order, logged, applied, slotted, same⟩ :=
      recorded.explained slot row found
    rw [slot_request] at slotted
    obtain ⟨⟨name, request⟩, asked, same'⟩ := Option.map_eq_some_iff.mp slotted
    simp only [Prod.mk.injEq] at same'
    obtain ⟨rfl, hash⟩ := same'
    refine ⟨call, result, order, request, logged, applied, asked, ?_⟩
    rw [same, hash]
  · intro slot unused session tx request found sent order
    exact fresh_sends run unused found sent order

/-- The same creation is sent again: its key is looked up, and its order shown. -/
def resending : List OrderEvent :=
  [ .begin 2 (calling 0 (.findIdempotent requesterOne "k" requestOne)), .run 2 none,
    .run 2 none ]

/-- The hash of the request that was sent first is compared with its own. -/
def compared : Tx Result :=
  if hashRequest id requestOne.json ≠ hashRequest id requestOne.json then .fail .keyReused
  else .done (.replayed (mapOrder (pendingRow errandOne 1 0)))

theorem resent_creation : ∃ (world later : OrderWorld)
      (tx : ReadCommitted.Tx Row (Session Row Answer Failure Call Result)) (again : OrderRow),
    OrderRun plainSettings (idle ∅ (Env.initial 0 [])) world ∧
    OrderRun plainSettings world later ∧ later.active.lookup 2 = some tx ∧
    (orderService plainSettings).current tx.pc = .done (.replayed again) ∧ again.orderId = 1 := by
  have reached : ((steps (orderService plainSettings).machine (fun _ _ => True)
      (idle ∅ (Env.initial 0 [])) creating).bind fun world =>
        (steps (orderService plainSettings).machine (fun _ _ => True) world resending).map
          fun later => (world.env.log.map fun entry => (requestOf entry.1.task,
              (entry.2.toOption.bind Result.appliedTo).map OrderRow.orderId),
            (world.active.lookup 2).isNone,
            (later.active.lookup 2).map fun tx => (requestOf tx.pc.call.task,
              (orderService plainSettings).current tx.pc))) =
      some ([(some (.requester "u1" "k", requestOne.json), some 1)], true,
        some (some (.requester "u1" "k", requestOne.json), compared)) := by rfl
  obtain ⟨world, stepped, reached⟩ := Option.bind_eq_some_iff.mp reached
  obtain ⟨later, onward, seen⟩ := Option.map_eq_some_iff.mp reached
  simp only [Prod.mk.injEq] at seen
  obtain ⟨log, absent, session⟩ := seen
  obtain ⟨tx, found, ends⟩ := Option.map_eq_some_iff.mp session
  obtain ⟨sent, current⟩ := Prod.mk.inj ends
  have current : (orderService plainSettings).current tx.pc =
      .done (.replayed (mapOrder (pendingRow errandOne 1 0))) := by
    rw [current, compared]
    simp
  obtain ⟨⟨call, outcome⟩, logged, first⟩ : ∃ entry, entry ∈ world.env.log ∧
      (requestOf entry.1.task, (entry.2.toOption.bind Result.appliedTo).map OrderRow.orderId) =
        (some (.requester "u1" "k", requestOne.json), some 1) :=
    List.mem_map.mp (log ▸ List.mem_cons_self)
  obtain ⟨keyed, applied⟩ := Prod.mk.inj first
  obtain ⟨order, applied, id⟩ := Option.map_eq_some_iff.mp applied
  cases outcome with
  | error => cases applied
  | ok result =>
      have run := run_steps .refl _ stepped
      have second := run_steps .refl _ onward
      have once := ((keys_apply_once plainSettings Function.injective_id 0 [] world run).2.1 call
        result order (.requester "u1" "k") requestOne.json logged applied keyed later 2 tx
        requestOne.json second found sent (.inl (by simpa using absent))).1
          ((hash_iff Function.injective_id).mp rfl)
      obtain ⟨again, same, order⟩ := once.2 _ current
      exact ⟨world, later, tx, again, run, second, found, current.trans (congrArg _ same),
        order.trans id⟩

end Sends

end Foc.Order
