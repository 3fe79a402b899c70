import Mathlib
import Foc.Library.EventLoop

/-!
The one connection a service keeps to the broker (`BrokerConnection`). A connection carries one
channel and the two are set and dropped together, so the pair is known by the number of the
connection. What awaits is an attempt of `connect`: before it has a connection it is in `attempts`,
and from then on it is known by the connection it opened.
-/
namespace Foc.Platform.BrokerConnection
open Library.EventLoop

/-! ## The connections -/

/-- Where the attempt that opened a connection is. -/
inductive Stage where
  /-- It awaits `createConfirmChannel`. -/
  | creating
  /-- It awaits a request of `declareTopology`. -/
  | declaring
  /-- It awaits `connection.close()`, to throw what failed. -/
  | abandoning
  /-- It awaits `connection.close()`, to return. -/
  | stopping
  /-- It ended, and its pair never was the current one. -/
  | ended
  /-- Its pair was set, and it awaits a listener. -/
  | listening (index : Nat)
  /-- Its pair was set, and a listener failed. -/
  | failed (index : Nat)
  /-- Its pair was set, and it went through the listeners, so many by then. -/
  | finished (count : Nat)
  deriving DecidableEq, Repr

structure Connection where
  /-- `reconnect` awaits the attempt, and not the caller of `connect`. -/
  loop : Bool
  stage : Stage
  /-- `close()` was called on it. -/
  closed : Bool
  /-- The listeners called with its channel, in the order of the calls. -/
  called : List Nat
  deriving DecidableEq, Repr

/-- An attempt without a connection: `reconnect` waiting its delay, or `connect` awaiting `open`. -/
inductive Attempt where
  | sleeping
  | opening (loop : Bool)
  deriving DecidableEq, Repr

structure Broker where
  closing : Bool
  /-- The pair in `connection` and `channel`. -/
  current : Option Nat
  reconnectDelayMs : Nat
  /-- How many listeners there are. -/
  listeners : Nat
  attempts : List Attempt
  /-- Every connection that was opened. -/
  connections : List Connection
  /-- The connections that a call of `close` closes once their channels are. -/
  closers : List Nat
  /-- A pair has been set. -/
  connected : Bool
  deriving DecidableEq, Repr

def begun : Broker :=
  { closing := false, current := none, reconnectDelayMs := 1_000, listeners := 0, attempts := [],
    connections := [], closers := [], connected := false }

/-- The attempt may still set its pair, or throw and be made again. -/
def Stage.pending : Stage → Bool
  | .creating | .declaring | .abandoning => true
  | _ => false

/-- The attempt did set its pair. -/
def Stage.became : Stage → Bool
  | .listening _ | .failed _ | .finished _ => true
  | _ => false

def Attempt.loop : Attempt → Bool
  | .sleeping => true
  | .opening loop => loop

def Broker.pending (broker : Broker) : Nat :=
  broker.attempts.length + broker.connections.countP fun opened => opened.stage.pending

/-- The reconnect loops that are still going to open a connection. -/
def Broker.loops (broker : Broker) : Nat :=
  broker.attempts.countP Attempt.loop +
    broker.connections.countP fun opened => opened.stage.pending && opened.loop

/-! ## The steps -/

def Broker.update (broker : Broker) (number : Nat) (change : Connection → Connection) : Broker :=
  { broker with connections := broker.connections.modify number change }

/-- Calls `close()` on a connection. -/
def Connection.close (opened : Connection) : Connection :=
  { opened with closed := true }

def Connection.at_ (opened : Connection) (stage : Stage) : Connection :=
  { opened with stage := stage }

def Connection.call (opened : Connection) (index : Nat) : Connection :=
  { opened with stage := .listening index, called := opened.called ++ [index] }

/-- Which of the two reports that it closed. -/
inductive Source where
  | connection (number : Nat)
  | channel (number : Nat)
  deriving DecidableEq, Repr

def Source.pair : Source → Nat
  | .connection number => number
  | .channel number => number

/-- `lost`, with the start of `reconnect` up to its first wait. -/
def Broker.lost (broker : Broker) (source : Source) : Broker :=
  if broker.closing = true then broker
  else if broker.current ≠ some source.pair then broker
  else
    { broker.update source.pair Connection.close with
      current := none
      attempts := broker.attempts ++ [.sleeping] }

/-- What awaits an attempt is thrown its error: `reconnect` waits again unless it is closing. -/
def Broker.threw (broker : Broker) (loop : Bool) : Broker :=
  if loop = true ∧ broker.closing = false then
    { broker with attempts := broker.attempts ++ [.sleeping] }
  else broker

/-- The loop of `connect` through the listeners, from one of them to the next wait. -/
def Broker.listen (broker : Broker) (number index : Nat) : Broker :=
  if index < broker.listeners then broker.update number (·.call index)
  else
    { broker.update number (·.at_ (.finished broker.listeners)) with reconnectDelayMs := 1_000 }

/-- What `connect` does once the topology is declared. -/
def Broker.declared (broker : Broker) (number : Nat) : Broker :=
  if broker.closing = true then broker.update number fun opened => opened.close.at_ .stopping
  else { broker with current := some number, connected := true }.listen number 0

inductive Event where
  | onConnected
  | connect
  | woke (attempt : Nat)
  | opened (attempt : Nat)
  | openFailed (attempt : Nat)
  /-- What the attempt of a connection awaits is answered; the last request, of a topology. -/
  | resolved (number : Nat)
  | rejected (number : Nat)
  | emitted (source : Source)
  | close
  | channelClosed (closer : Nat)
  deriving Repr

def turn (broker : Broker) : Event → Option Broker
  | .onConnected => some { broker with listeners := broker.listeners + 1 }
  -- It is called as the module starts, and again only if it threw.
  | .connect =>
      if broker.connected = false ∧ broker.pending = 0 then
        some { broker with attempts := broker.attempts ++ [.opening false] }
      else none
  | .woke attempt =>
      match broker.attempts[attempt]? with
      | some .sleeping =>
          let delayed :=
            { broker with reconnectDelayMs := min (broker.reconnectDelayMs * 2) 30_000 }
          if broker.closing = true then
            some { delayed with attempts := broker.attempts.eraseIdx attempt }
          else some { delayed with attempts := broker.attempts.set attempt (.opening true) }
      | _ => none
  | .opened attempt =>
      match broker.attempts[attempt]? with
      | some (.opening loop) =>
          some
            { broker with
              attempts := broker.attempts.eraseIdx attempt
              connections := broker.connections ++ [⟨loop, .creating, false, []⟩] }
      | _ => none
  | .openFailed attempt =>
      match broker.attempts[attempt]? with
      | some (.opening loop) =>
          let without := { broker with attempts := broker.attempts.eraseIdx attempt }
          some (without.threw loop)
      | _ => none
  | .resolved number =>
      match broker.connections[number]? with
      | some opened =>
          match opened.stage with
          | .creating => some (broker.update number (·.at_ .declaring))
          | .declaring => some (broker.declared number)
          | .abandoning => some ((broker.update number (·.at_ .ended)).threw opened.loop)
          | .stopping => some (broker.update number (·.at_ .ended))
          | .listening index => some (broker.listen number (index + 1))
          | _ => none
      | none => none
  | .rejected number =>
      match broker.connections[number]? with
      | some opened =>
          match opened.stage with
          | .creating => some (broker.update number fun opened => opened.close.at_ .abandoning)
          | .declaring => some (broker.update number fun opened => opened.close.at_ .abandoning)
          -- What closing fails with is caught.
          | .abandoning => some ((broker.update number (·.at_ .ended)).threw opened.loop)
          | .stopping => some (broker.update number (·.at_ .ended))
          | .listening index =>
              some ((broker.update number (·.at_ (.failed index))).lost (.channel number))
          | _ => none
      | none => none
  -- The emitters of a pair that was not set yet have no one listening for it.
  | .emitted source => some (broker.lost source)
  | .close =>
      match broker.current with
      | some number =>
          some
            { broker with
              closing := true, current := none, closers := broker.closers ++ [number] }
      | none => some { broker with closing := true }
  | .channelClosed closer =>
      match broker.closers[closer]? with
      | some number =>
          some
            { broker.update number Connection.close with
              closers := broker.closers.eraseIdx closer }
      | none => none

/-! ## The listeners called -/

/-- What an attempt says about the listeners it called. -/
def Stage.Tells (stage : Stage) (listeners : Nat) (called : List Nat) : Prop :=
  match stage with
  | .listening index => index < listeners ∧ called = List.range (index + 1)
  | .failed index => called = List.range (index + 1)
  | .finished count => called = List.range count
  | _ => called = []

theorem Stage.Tells.more {stage : Stage} {listeners more : Nat} {called : List Nat}
    (tells : stage.Tells listeners called) (least : listeners ≤ more) :
    stage.Tells more called := by
  cases stage with
  | listening index => exact ⟨Nat.lt_of_lt_of_le tells.1 least, tells.2⟩
  | _ => exact tells

theorem tells_pending {stage : Stage} {listeners : Nat} {called : List Nat}
    (pending : stage.pending = true) : stage.Tells listeners called ↔ called = [] := by
  cases stage with
  | creating => exact Iff.rfl
  | declaring => exact Iff.rfl
  | abandoning => exact Iff.rfl
  | _ => cases pending

theorem pending_not_became {stage : Stage} (pending : stage.pending = true) :
    stage.became = false := by
  cases stage with
  | creating => rfl
  | declaring => rfl
  | abandoning => rfl
  | _ => cases pending

/-! ## What every run keeps -/

/-- The connection is the current one or is closed, or its channel is still being made, or was
the current one's and is still being closed. -/
def Broker.Keeps (broker : Broker) (number : Nat) (opened : Connection) : Prop :=
  broker.current = some number ∨ opened.closed = true ∨ opened.stage = .creating ∨
    opened.stage = .declaring ∨ (opened.stage.became = true ∧ number ∈ broker.closers)

def Broker.kept (broker : Broker) : Nat :=
  match broker.current with
  | some _ => 1
  | none => 0

structure Tracked (broker : Broker) (number : Nat) (opened : Connection) : Prop where
  keeps : broker.Keeps number opened
  tells : opened.stage.Tells broker.listeners opened.called
  loop : broker.connected = true → opened.stage.pending = true → opened.loop = true

structure Safe (broker : Broker) : Prop where
  each : ∀ number opened, broker.connections[number]? = some opened → Tracked broker number opened
  loops : broker.connected = true → ∀ attempt ∈ broker.attempts, attempt.loop = true
  one : broker.pending + broker.kept ≤ 1
  -- A pair is set by an attempt that then is with the listeners, and it stays with them.
  became : ∀ number, broker.current = some number → ∀ opened,
    broker.connections[number]? = some opened → opened.stage.became = true
  connected : ∀ number, broker.current = some number → broker.connected = true
  closing : broker.closing = true → broker.current = none

structure Sound (broker : Broker) : Prop extends Safe broker where
  stays : broker.connected = true → broker.closing = false → broker.pending + broker.kept = 1

theorem begun_sound : Sound begun where
  each number opened found := by
    rw [begun, List.getElem?_nil] at found
    cases found
  loops connected := by cases connected
  one := by decide
  stays connected := by cases connected
  became number current := by cases current
  connected number current := by cases current
  closing closing := by cases closing

section Steps

variable {broker : Broker} {number other : Nat} {opened : Connection}
  {change : Connection → Connection}

/-- A count of a list where one item changes. -/
theorem count_modify {Item : Type} (holds : Item → Bool) {items : List Item} {index : Nat}
    {item : Item} (change : Item → Item) (found : items[index]? = some item) :
    (items.modify index change).countP holds + (if holds item then 1 else 0) =
      items.countP holds + (if holds (change item) then 1 else 0) := by
  induction items generalizing index with
  | nil => cases found
  | cons first rest ih =>
      cases index with
      | zero =>
          cases Option.some.inj found
          simp only [List.modify_zero_cons, List.countP_cons]
          omega
      | succ index =>
          have later := ih found
          simp only [List.modify_succ_cons, List.countP_cons]
          omega

theorem update_get (found : (broker.update number change).connections[other]? = some opened) :
    ∃ before, broker.connections[other]? = some before ∧
      opened = if number = other then change before else before := by
  simp only [Broker.update, List.getElem?_modify, Option.map_eq_map,
    Option.map_eq_some_iff] at found
  obtain ⟨before, there, rfl⟩ := found
  refine ⟨before, there, ?_⟩
  split <;> rfl

theorem update_pending (change : Connection → Connection)
    (found : broker.connections[number]? = some opened) :
    (broker.update number change).pending + (if opened.stage.pending then 1 else 0) =
      broker.pending + (if (change opened).stage.pending then 1 else 0) := by
  have counted := count_modify (fun opened => opened.stage.pending) change found
  simp only [Broker.pending, Broker.update]
  omega

/-- An attempt under way keeps anything else from being current. -/
theorem pending_alone (safe : Safe broker) (found : broker.connections[number]? = some opened)
    (pending : opened.stage.pending = true) :
    broker.pending = 1 ∧ broker.current = none ∧ broker.attempts = [] := by
  have counted : 0 < broker.connections.countP fun opened => opened.stage.pending :=
    List.countP_pos_iff.mpr ⟨opened, List.mem_of_getElem? found, pending⟩
  have one := safe.one
  have sum : broker.pending = broker.attempts.length +
    broker.connections.countP fun opened => opened.stage.pending := rfl
  refine ⟨by omega, ?_, List.length_eq_zero_iff.mp (by omega)⟩
  cases current : broker.current with
  | none => rfl
  | some number =>
      rw [Broker.kept, current] at one
      simp only at one
      omega

/-- The attempt of a connection goes on, and what was not pending is not. -/
theorem update_safe (safe : Safe broker) (found : broker.connections[number]? = some opened)
    (pending : (change opened).stage.pending = true → opened.stage.pending = true)
    (became : opened.stage.became = true → (change opened).stage.became = true)
    (tracked : Tracked broker number (change opened)) : Safe (broker.update number change) := by
  have counted := update_pending change found
  have least : (broker.update number change).pending ≤ broker.pending := by
    cases after : (change opened).stage.pending with
    | false =>
        rw [after] at counted
        simp only [Bool.false_eq_true, if_false] at counted
        omega
    | true =>
        rw [after, pending after] at counted
        omega
  refine ⟨?_, safe.loops, ?_, ?_, safe.connected, safe.closing⟩
  · intro other after there
    obtain ⟨before, was, rfl⟩ := update_get there
    split
    · rename_i here
      subst here
      cases was.symm.trans found
      exact ⟨tracked.keeps, tracked.tells, tracked.loop⟩
    · have kept := safe.each other before was
      exact ⟨kept.keeps, kept.tells, kept.loop⟩
  · exact Nat.le_trans (Nat.add_le_add_right least _) safe.one
  · intro other current after there
    obtain ⟨before, was, rfl⟩ := update_get there
    have set := safe.became other current before was
    split
    · rename_i here
      subst here
      cases was.symm.trans found
      exact became set
    · exact set

/-- The attempt of a connection goes on, pending or not as it was. -/
theorem update_sound (sound : Sound broker) (found : broker.connections[number]? = some opened)
    (pending : (change opened).stage.pending = opened.stage.pending)
    (became : opened.stage.became = true → (change opened).stage.became = true)
    (tracked : Tracked broker number (change opened)) : Sound (broker.update number change) := by
  have counted := update_pending change found
  rw [pending] at counted
  have same : (broker.update number change).pending = broker.pending := by omega
  refine ⟨update_safe sound.toSafe found (pending ▸ id) became tracked, ?_⟩
  rw [same]
  exact sound.stays

theorem delay_sound (delay : Nat) (sound : Sound broker) :
    Sound { broker with reconnectDelayMs := delay } := by
  refine ⟨⟨?_, sound.loops, sound.one, sound.became, sound.connected, sound.closing⟩, sound.stays⟩
  intro number opened found
  have tracked := sound.each number opened found
  exact ⟨tracked.keeps, tracked.tells, tracked.loop⟩

/-- An attempt sets its pair. -/
theorem set_sound (change : Connection → Connection) (sound : Sound broker)
    (found : broker.connections[number]? = some opened)
    (pending : opened.stage.pending = true) (opens : broker.closing = false)
    (done : (change opened).stage.pending = false)
    (became : (change opened).stage.became = true)
    (tells : (change opened).stage.Tells broker.listeners (change opened).called) :
    Sound { broker.update number change with current := some number, connected := true } := by
  obtain ⟨alone, unset, bare⟩ := pending_alone sound.toSafe found pending
  have counted := update_pending change found
  rw [pending, done] at counted
  have none_ : (broker.update number change).pending = 0 := by
    simp only [if_true, Bool.false_eq_true, if_false] at counted
    omega
  have idle : ∀ after ∈ (broker.update number change).connections, after.stage.pending = false := by
    have parts : broker.attempts.length + (broker.update number change).connections.countP
      (fun opened => opened.stage.pending) = 0 := none_
    have counts := (Nat.add_eq_zero_iff.mp parts).2
    intro after there
    exact Bool.eq_false_iff.mpr (List.countP_eq_zero.mp counts after there)
  refine ⟨⟨?_, ?_, ?_, ?_, ?_, ?_⟩, ?_⟩
  · intro other after there
    have quiet := idle after (List.mem_of_getElem? there)
    obtain ⟨before, was, rfl⟩ := update_get there
    split at quiet
    · rename_i here
      subst here
      cases was.symm.trans found
      rw [if_pos rfl]
      refine ⟨.inl rfl, tells, ?_⟩
      intro _ pends
      rw [quiet] at pends
      cases pends
    · rename_i elsewhere
      rw [if_neg elsewhere]
      have tracked := sound.each other before was
      refine ⟨tracked.keeps.imp_left ?_, tracked.tells, ?_⟩
      · intro current
        rw [unset] at current
        cases current
      · intro _ pends
        rw [quiet] at pends
        cases pends
  · intro _ attempt waits
    have waits : attempt ∈ broker.attempts := waits
    rw [bare] at waits
    cases waits
  · exact Nat.le_of_eq (congrArg (· + 1) none_)
  · intro other current after there
    cases current
    obtain ⟨before, was, rfl⟩ := update_get there
    rw [if_pos rfl]
    cases was.symm.trans found
    exact became
  · exact fun _ _ => rfl
  · intro closing
    have closing : broker.closing = true := closing
    rw [opens] at closing
    cases closing
  · exact fun _ _ => congrArg (· + 1) none_

/-- `reconnect` starts where nothing is pending. -/
theorem sleeps_sound (safe : Safe broker) (idle : broker.pending + broker.kept = 0) :
    Sound { broker with attempts := broker.attempts ++ [.sleeping] } := by
  have counted : ({ broker with attempts := broker.attempts ++ [.sleeping] } : Broker).pending +
      broker.kept = 1 := by
    rw [Broker.pending] at idle
    simp only [Broker.pending, List.length_append, List.length_singleton]
    omega
  refine ⟨⟨?_, ?_, Nat.le_of_eq counted, safe.became, safe.connected, safe.closing⟩,
    fun _ _ => counted⟩
  · intro number opened found
    have tracked := safe.each number opened found
    exact ⟨tracked.keeps, tracked.tells, tracked.loop⟩
  · intro connected attempt waits
    rcases List.mem_append.mp waits with old | new
    · exact safe.loops connected attempt old
    · cases List.mem_singleton.mp new
      rfl

/-- An attempt throws, which was the only one. -/
theorem threw_sound {loop : Bool} (safe : Safe broker) (idle : broker.pending + broker.kept = 0)
    (looping : broker.connected = true → loop = true) : Sound (broker.threw loop) := by
  unfold Broker.threw
  split
  · exact sleeps_sound safe idle
  · rename_i ends
    exact ⟨safe, fun connected opens => absurd ⟨looping connected, opens⟩ ends⟩

theorem close_pending (number : Nat) :
    (broker.update number Connection.close).pending = broker.pending := by
  cases found : broker.connections[number]? with
  | none =>
      have beyond := List.getElem?_eq_none_iff.mp found
      rw [Broker.update, List.modify_eq_self beyond]
  | some opened =>
      have counted := update_pending Connection.close found
      simp only [Connection.close] at counted
      exact Nat.add_right_cancel counted

/-- What is set is dropped and closed, or left to a call that will close it. -/
theorem dropped_safe {dropped : Broker} (safe : Safe broker)
    (unset : dropped.current = none) (attempts : dropped.attempts = broker.attempts)
    (pending : dropped.pending = broker.pending) (connected : dropped.connected = broker.connected)
    (listeners : dropped.listeners = broker.listeners)
    (each : ∀ number opened, dropped.connections[number]? = some opened →
      ∃ before, broker.connections[number]? = some before ∧ opened.stage = before.stage ∧
        opened.loop = before.loop ∧ opened.called = before.called ∧
        (broker.Keeps number before → dropped.Keeps number opened)) : Safe dropped where
  each number opened found := by
    obtain ⟨before, was, stage, loop, called, keeps⟩ := each number opened found
    have tracked := safe.each number before was
    refine ⟨keeps tracked.keeps, ?_, ?_⟩
    · rw [stage, called, listeners]
      exact tracked.tells
    · rw [stage, loop, connected]
      exact tracked.loop
  loops := by
    rw [connected, attempts]
    exact safe.loops
  one := by
    have one := safe.one
    rw [pending, Broker.kept, unset]
    simp only
    omega
  became number current := by
    rw [unset] at current
    cases current
  connected number current := by
    rw [unset] at current
    cases current
  closing _ := unset

theorem lost_sound (source : Source) (sound : Sound broker) : Sound (broker.lost source) := by
  unfold Broker.lost
  split
  · exact sound
  · split
    · exact sound
    · rename_i opens here
      rw [not_not] at here
      have same : (broker.update source.pair Connection.close).pending = broker.pending :=
        close_pending source.pair
      have dropped : Safe { broker.update source.pair Connection.close with current := none } := by
        refine dropped_safe sound.toSafe rfl rfl same rfl rfl ?_
        intro number after there
        obtain ⟨before, was, rfl⟩ := update_get there
        refine ⟨before, was, ?_⟩
        split
        · exact ⟨rfl, rfl, rfl, fun _ => .inr (.inl rfl)⟩
        · rename_i elsewhere
          refine ⟨rfl, rfl, rfl, fun keeps => .inr (keeps.resolve_left ?_)⟩
          intro current
          exact elsewhere (Option.some.inj (here.symm.trans current))
      have one := sound.one
      rw [Broker.kept, here] at one
      simp only at one
      have none_ : broker.pending = 0 := by omega
      refine sleeps_sound dropped ?_
      exact same.trans none_

/-- `close` leaves the pair to the call, which closes its connection later. -/
theorem close_sound (sound : Sound broker) (closers : List Nat)
    (least : ∀ number, number ∈ broker.closers ∨ broker.current = some number → number ∈ closers) :
    Sound { broker with closing := true, current := none, closers := closers } := by
  refine ⟨dropped_safe sound.toSafe rfl rfl rfl rfl rfl ?_, fun _ opens => Bool.noConfusion opens⟩
  intro number opened found
  refine ⟨opened, found, rfl, rfl, rfl, ?_⟩
  rintro (current | closed | creating | declaring | ⟨became, waits⟩)
  · have became := sound.became number current opened found
    exact .inr (.inr (.inr (.inr ⟨became, least number (.inr current)⟩)))
  · exact .inr (.inl closed)
  · exact .inr (.inr (.inl creating))
  · exact .inr (.inr (.inr (.inl declaring)))
  · exact .inr (.inr (.inr (.inr ⟨became, least number (.inl waits)⟩)))

/-- The channel of a pair is closed, and then its connection. -/
theorem closed_sound (sound : Sound broker) {closer : Nat}
    (waits : broker.closers[closer]? = some number) :
    Sound { broker.update number Connection.close with
      closers := broker.closers.eraseIdx closer } := by
  have same : (broker.update number Connection.close).pending = broker.pending :=
    close_pending number
  refine ⟨⟨?_, sound.loops, ?_, ?_, sound.connected, sound.closing⟩, ?_⟩
  · intro other after there
    obtain ⟨before, was, rfl⟩ := update_get there
    have tracked := sound.each other before was
    split
    · exact ⟨.inr (.inl rfl), tracked.tells, tracked.loop⟩
    · rename_i elsewhere
      refine ⟨?_, tracked.tells, tracked.loop⟩
      rcases tracked.keeps with current | closed | creating | declaring | ⟨became, listed⟩
      · exact .inl current
      · exact .inr (.inl closed)
      · exact .inr (.inr (.inl creating))
      · exact .inr (.inr (.inr (.inl declaring)))
      · refine .inr (.inr (.inr (.inr ⟨became, ?_⟩)))
        obtain ⟨index, at_⟩ := List.mem_iff_getElem?.mp listed
        refine List.mem_eraseIdx_iff_getElem?.mpr ⟨index, ?_, at_⟩
        rintro rfl
        exact elsewhere (Option.some.inj (waits.symm.trans at_))
  · exact same ▸ sound.one
  · intro other current after there
    obtain ⟨before, was, rfl⟩ := update_get there
    have set := sound.became other current before was
    split
    · exact set
    · exact set
  · exact same ▸ sound.stays

/-- Past the declaring, a connection is the current one, is closed or is left to be. -/
theorem late_keeps {stage : Stage} {after : Connection} (sound : Sound broker)
    (found : broker.connections[number]? = some opened) (was : opened.stage = stage)
    (late : stage ≠ .creating ∧ stage ≠ .declaring) (closed : after.closed = opened.closed)
    (became : stage.became = true → after.stage.became = true) : broker.Keeps number after := by
  subst was
  rcases (sound.each number opened found).keeps with current | there | first | second | ⟨was, waits⟩
  · exact .inl current
  · exact .inr (.inl (closed.trans there))
  · exact absurd first late.1
  · exact absurd second late.2
  · exact .inr (.inr (.inr (.inr ⟨became was, waits⟩)))

/-- The next listener is called, or there is none left. -/
theorem listen_sound {index : Nat} (sound : Sound broker)
    (found : broker.connections[number]? = some opened) (stage : opened.stage = .listening index) :
    Sound (broker.listen number (index + 1)) := by
  have tracked := sound.each number opened found
  have tells := tracked.tells
  rw [stage] at tells
  obtain ⟨within, called⟩ := tells
  have idle : opened.stage.pending = false := by rw [stage]; rfl
  have late : Stage.listening index ≠ .creating ∧ Stage.listening index ≠ .declaring :=
    ⟨Stage.noConfusion, Stage.noConfusion⟩
  unfold Broker.listen
  split
  · rename_i next
    refine update_sound sound found idle.symm (fun _ => rfl) ⟨?_, ⟨next, ?_⟩, fun _ pends => ?_⟩
    · exact late_keeps sound found stage late rfl fun _ => rfl
    · rw [List.range_succ, ← called]
      rfl
    · cases pends
  · rename_i last
    have count : index + 1 = broker.listeners := by omega
    refine delay_sound 1_000 (update_sound sound found idle.symm (fun _ => rfl)
      ⟨?_, ?_, fun _ pends => ?_⟩)
    · exact late_keeps sound found stage late rfl fun _ => rfl
    · exact called.trans (congrArg List.range count)
    · cases pends

/-- The topology is declared, and what there is to close is closed. -/
theorem declared_sound (sound : Sound broker)
    (found : broker.connections[number]? = some opened) (stage : opened.stage = .declaring) :
    Sound (broker.declared number) := by
  have tracked := sound.each number opened found
  have called : opened.called = [] := by
    have tells := tracked.tells
    rw [stage] at tells
    exact tells
  have pending : opened.stage.pending = true := by rw [stage, Stage.pending]
  unfold Broker.declared
  split
  · rename_i closing
    refine ⟨update_safe sound.toSafe found ?_ ?_ ⟨.inr (.inl rfl), called, ?_⟩, ?_⟩
    · exact fun pends => Bool.noConfusion pends
    · intro became
      rw [stage] at became
      cases became
    · exact fun _ pends => Bool.noConfusion pends
    · intro _ opens
      exact absurd (closing.symm.trans opens) (by decide)
  · rename_i opens
    have opens : broker.closing = false := Bool.eq_false_iff.mpr opens
    unfold Broker.listen
    split
    · rename_i first
      refine set_sound (·.call 0) sound found pending opens rfl rfl ⟨first, ?_⟩
      rw [Connection.call, called]
      rfl
    · rename_i none_
      have none_ : broker.listeners = 0 := Nat.eq_zero_of_not_pos none_
      refine delay_sound 1_000
        (set_sound (·.at_ (.finished broker.listeners)) sound found pending opens rfl rfl ?_)
      rw [none_]
      exact called

/-- What was awaited is closed, and the attempt throws. -/
theorem abandoned_sound (sound : Sound broker)
    (found : broker.connections[number]? = some opened) (stage : opened.stage = .abandoning) :
    Sound ((broker.update number (·.at_ .ended)).threw opened.loop) := by
  have tracked := sound.each number opened found
  have pending : opened.stage.pending = true := by rw [stage, Stage.pending]
  have keeps : broker.Keeps number (opened.at_ .ended) :=
    late_keeps sound found stage ⟨Stage.noConfusion, Stage.noConfusion⟩ rfl id
  have called : opened.called = [] := by
    have tells := tracked.tells
    rw [stage] at tells
    exact tells
  obtain ⟨alone, unset, -⟩ := pending_alone sound.toSafe found pending
  have counted := update_pending (·.at_ .ended) found
  rw [pending] at counted
  refine threw_sound (update_safe sound.toSafe found ?_ ?_ ⟨keeps, called, ?_⟩) ?_ ?_
  · exact fun pends => Bool.noConfusion pends
  · intro became
    rw [stage] at became
    cases became
  · exact fun _ pends => Bool.noConfusion pends
  · have kept : (broker.update number (·.at_ .ended)).kept = 0 := by
      rw [Broker.kept, Broker.update, unset]
    simp only [if_true, Connection.at_, Stage.pending, Bool.false_eq_true, if_false] at counted
    simp only [Connection.at_] at kept ⊢
    omega
  · intro connected
    exact tracked.loop connected pending

/-- An attempt goes on that has not set its pair. -/
theorem goes_on {stage : Stage} (change : Connection → Connection) (sound : Sound broker)
    (found : broker.connections[number]? = some opened) (was : opened.stage = stage)
    (pends : stage.pending = true) (stays : (change opened).stage.pending = true)
    (calls : (change opened).called = opened.called)
    (loop : (change opened).loop = opened.loop)
    (keeps : broker.Keeps number (change opened)) : Sound (broker.update number change) := by
  subst was
  have tracked := sound.each number opened found
  refine update_sound sound found (stays.trans pends.symm) ?_ ⟨keeps, ?_, ?_⟩
  · intro became
    rw [pending_not_became pends] at became
    cases became
  · rw [tells_pending stays, calls]
    exact (tells_pending pends).mp tracked.tells
  · rw [loop]
    exact fun connected _ => tracked.loop connected pends

theorem attempt_gone {attempt : Nat} {waits : Attempt}
    (found : broker.attempts[attempt]? = some waits) :
    (broker.attempts.eraseIdx attempt).length + 1 = broker.attempts.length := by
  obtain ⟨within, -⟩ := List.getElem?_eq_some_iff.mp found
  rw [List.length_eraseIdx_of_lt within]
  omega

/-- An attempt ends that has no connection. -/
theorem gone_safe {attempt : Nat} {waits : Attempt} (safe : Safe broker)
    (found : broker.attempts[attempt]? = some waits) :
    Safe { broker with attempts := broker.attempts.eraseIdx attempt } ∧
      ({ broker with attempts := broker.attempts.eraseIdx attempt } : Broker).pending +
        broker.kept = 0 := by
  have shorter := attempt_gone found
  have one := safe.one
  rw [Broker.pending] at one
  have none_ : ({ broker with attempts := broker.attempts.eraseIdx attempt } : Broker).pending +
      broker.kept = 0 := by
    simp only [Broker.pending]
    omega
  refine ⟨⟨?_, ?_, ?_, safe.became, safe.connected, safe.closing⟩, none_⟩
  · intro number opened there
    have tracked := safe.each number opened there
    exact ⟨tracked.keeps, tracked.tells, tracked.loop⟩
  · intro connected other there
    exact safe.loops connected other (List.mem_of_mem_eraseIdx there)
  · exact Nat.le_trans (Nat.le_of_eq none_) (Nat.zero_le 1)

/-- An attempt has its connection. -/
theorem opened_sound {attempt : Nat} {loop : Bool} (sound : Sound broker)
    (found : broker.attempts[attempt]? = some (.opening loop)) :
    Sound
      { broker with
        attempts := broker.attempts.eraseIdx attempt
        connections := broker.connections ++ [⟨loop, .creating, false, []⟩] } := by
  have shorter := attempt_gone found
  have same : ({ broker with
      attempts := broker.attempts.eraseIdx attempt
      connections := broker.connections ++ [⟨loop, .creating, false, []⟩] } : Broker).pending =
        broker.pending := by
    simp only [Broker.pending, List.countP_append, List.countP_singleton, Stage.pending, if_true]
    omega
  have unset : broker.current = none := by
    have one := sound.one
    rw [Broker.pending] at one
    cases current : broker.current with
    | none => rfl
    | some number =>
        rw [Broker.kept, current] at one
        simp only at one
        omega
  refine ⟨⟨?_, ?_, same ▸ sound.one, ?_, sound.connected, sound.closing⟩, same ▸ sound.stays⟩
  · intro number opened there
    rcases Nat.lt_or_ge number broker.connections.length with before | past
    · have tracked := sound.each number opened ((List.getElem?_append_left before).symm.trans there)
      exact ⟨tracked.keeps, tracked.tells, tracked.loop⟩
    · have new := (List.getElem?_append_right past).symm.trans there
      cases List.mem_singleton.mp (List.mem_of_getElem? new)
      refine ⟨.inr (.inr (.inl rfl)), rfl, ?_⟩
      intro connected _
      exact sound.loops connected _ (List.mem_of_getElem? found)
  · intro connected other there
    exact sound.loops connected other (List.mem_of_mem_eraseIdx there)
  · intro number current
    have current : broker.current = some number := current
    rw [unset] at current
    cases current

/-- The delay of a loop is over. -/
theorem woke_sound {attempt : Nat} (sound : Sound broker) :
    Sound { broker with attempts := broker.attempts.set attempt (.opening true) } := by
  have same : ({ broker with attempts := broker.attempts.set attempt (.opening true) } :
      Broker).pending = broker.pending := by
    simp only [Broker.pending, List.length_set]
  refine ⟨⟨?_, ?_, same ▸ sound.one, sound.became, sound.connected, sound.closing⟩,
    same ▸ sound.stays⟩
  · intro number opened there
    have tracked := sound.each number opened there
    exact ⟨tracked.keeps, tracked.tells, tracked.loop⟩
  · intro connected other there
    rcases List.mem_or_eq_of_mem_set there with old | rfl
    · exact sound.loops connected other old
    · rfl

theorem begins_sound (sound : Sound broker) (first : broker.connected = false)
    (alone : broker.pending = 0) :
    Sound { broker with attempts := broker.attempts ++ [.opening false] } := by
  have unset : broker.current = none := by
    cases current : broker.current with
    | none => rfl
    | some number =>
        have connected := sound.connected number current
        rw [first] at connected
        cases connected
  have one : ({ broker with attempts := broker.attempts ++ [.opening false] } : Broker).pending +
      broker.kept ≤ 1 := by
    rw [Broker.pending] at alone
    simp only [Broker.pending, Broker.kept, unset, List.length_append, List.length_singleton]
    omega
  refine ⟨⟨?_, ?_, one, sound.became, sound.connected, sound.closing⟩, ?_⟩
  · intro number opened there
    have tracked := sound.each number opened there
    exact ⟨tracked.keeps, tracked.tells, tracked.loop⟩
  · intro connected
    exact absurd (first.symm.trans connected) (by decide)
  · intro connected
    exact absurd (first.symm.trans connected) (by decide)

theorem listener_sound (sound : Sound broker) :
    Sound { broker with listeners := broker.listeners + 1 } := by
  refine ⟨⟨?_, sound.loops, sound.one, sound.became, sound.connected, sound.closing⟩, sound.stays⟩
  intro number opened found
  have tracked := sound.each number opened found
  exact ⟨tracked.keeps, tracked.tells.more (Nat.le_succ _), tracked.loop⟩

/-- An attempt returns that has closed its connection. -/
theorem stopped_sound (sound : Sound broker)
    (found : broker.connections[number]? = some opened) (stage : opened.stage = .stopping) :
    Sound (broker.update number (·.at_ .ended)) := by
  have tracked := sound.each number opened found
  have tells := tracked.tells
  rw [stage] at tells
  refine update_sound sound found (by rw [stage]; rfl) ?_ ⟨?_, tells, ?_⟩
  · intro became
    rw [stage] at became
    cases became
  · exact late_keeps sound found stage ⟨Stage.noConfusion, Stage.noConfusion⟩ rfl id
  · exact fun _ pends => Bool.noConfusion pends

/-- A listener fails. -/
theorem failed_sound {index : Nat} (sound : Sound broker)
    (found : broker.connections[number]? = some opened) (stage : opened.stage = .listening index) :
    Sound (broker.update number (·.at_ (.failed index))) := by
  have tracked := sound.each number opened found
  have tells := tracked.tells
  rw [stage] at tells
  refine update_sound sound found (by rw [stage]; rfl) (fun _ => rfl) ⟨?_, tells.2, ?_⟩
  · exact late_keeps sound found stage ⟨Stage.noConfusion, Stage.noConfusion⟩ rfl id
  · exact fun _ pends => Bool.noConfusion pends

theorem turn_sound (state : Broker) (event : Event) (after : Broker) (sound : Sound state)
    (turned : turn state event = some after) : Sound after := by
  cases event with
  | onConnected =>
      cases Option.some.inj turned
      exact listener_sound sound
  | connect =>
      obtain ⟨⟨first, alone⟩, same⟩ := Option.ite_none_right_eq_some.mp turned
      cases same
      exact begins_sound sound first alone
  | woke attempt =>
      simp only [turn] at turned
      split at turned
      · rename_i found
        split at turned
        · rename_i closing
          cases Option.some.inj turned
          obtain ⟨safe, -⟩ := gone_safe sound.toSafe found
          refine delay_sound _ ⟨safe, ?_⟩
          intro _ opens
          exact absurd (closing.symm.trans opens) (by decide)
        · cases Option.some.inj turned
          exact delay_sound _ (woke_sound sound)
      · cases turned
  | opened attempt =>
      simp only [turn] at turned
      split at turned
      · rename_i loop found
        cases Option.some.inj turned
        exact opened_sound sound found
      · cases turned
  | openFailed attempt =>
      simp only [turn] at turned
      split at turned
      · rename_i loop found
        cases Option.some.inj turned
        obtain ⟨safe, none_⟩ := gone_safe sound.toSafe found
        refine threw_sound safe none_ ?_
        intro connected
        exact sound.loops connected _ (List.mem_of_getElem? found)
      · cases turned
  | resolved number =>
      simp only [turn] at turned
      split at turned
      · rename_i opened found
        split at turned
        · rename_i stage
          cases Option.some.inj turned
          exact goes_on (·.at_ .declaring) sound found stage rfl rfl rfl rfl
            (.inr (.inr (.inr (.inl rfl))))
        · rename_i stage
          cases Option.some.inj turned
          exact declared_sound sound found stage
        · rename_i stage
          cases Option.some.inj turned
          exact abandoned_sound sound found stage
        · rename_i stage
          cases Option.some.inj turned
          exact stopped_sound sound found stage
        · rename_i index stage
          cases Option.some.inj turned
          exact listen_sound sound found stage
        · cases turned
      · cases turned
  | rejected number =>
      simp only [turn] at turned
      split at turned
      · rename_i opened found
        split at turned
        · rename_i stage
          cases Option.some.inj turned
          exact goes_on (fun opened => opened.close.at_ .abandoning) sound found stage rfl rfl
            rfl rfl (.inr (.inl rfl))
        · rename_i stage
          cases Option.some.inj turned
          exact goes_on (fun opened => opened.close.at_ .abandoning) sound found stage rfl rfl
            rfl rfl (.inr (.inl rfl))
        · rename_i stage
          cases Option.some.inj turned
          exact abandoned_sound sound found stage
        · rename_i stage
          cases Option.some.inj turned
          exact stopped_sound sound found stage
        · rename_i index stage
          cases Option.some.inj turned
          exact lost_sound (.channel number) (failed_sound sound found stage)
        · cases turned
      · cases turned
  | emitted source =>
      cases Option.some.inj turned
      exact lost_sound source sound
  | close =>
      simp only [turn] at turned
      split at turned
      · rename_i number current
        cases Option.some.inj turned
        refine close_sound sound _ ?_
        rintro other (waits | held)
        · exact List.mem_append.mpr (.inl waits)
        · cases current.symm.trans held
          exact List.mem_append.mpr (.inr (List.mem_singleton.mpr rfl))
      · rename_i unset
        cases Option.some.inj turned
        have least : ∀ number, number ∈ state.closers ∨ state.current = some number →
            number ∈ state.closers := by
          intro number left
          refine left.resolve_right fun held => ?_
          exact Option.some_ne_none number (held.symm.trans unset)
        have closes := close_sound sound state.closers least
        rw [← unset] at closes
        exact closes
  | channelClosed closer =>
      simp only [turn] at turned
      split at turned
      · rename_i number waits
        cases Option.some.inj turned
        exact closed_sound sound waits
      · cases turned

/-- Once a pair was set, only loops have attempts pending. -/
theorem loops_pending (sound : Sound broker) (connected : broker.connected = true) :
    broker.loops = broker.pending := by
  have attempts : broker.attempts.countP Attempt.loop = broker.attempts.length :=
    List.countP_eq_length.mpr (sound.loops connected)
  have connections : (broker.connections.countP fun opened => opened.stage.pending && opened.loop) =
      broker.connections.countP fun opened => opened.stage.pending := by
    refine List.countP_congr fun opened there => ?_
    obtain ⟨number, found⟩ := List.mem_iff_getElem?.mp there
    have loop := (sound.each number opened found).loop connected
    rw [Bool.and_eq_true]
    exact ⟨And.left, fun pends => ⟨pends, loop pends⟩⟩
  rw [Broker.loops, Broker.pending, attempts, connections]

/-- Either a pair is set or one loop is going to set one. -/
theorem one_or_loop (sound : Sound broker) (connected : broker.connected = true)
    (opens : broker.closing = false) :
    (∃ number, broker.current = some number) ∧ broker.loops = 0 ∨
      broker.current = none ∧ broker.loops = 1 := by
  have stays := sound.stays connected opens
  rw [loops_pending sound connected]
  cases current : broker.current with
  | none =>
      rw [Broker.kept, current] at stays
      exact .inr ⟨rfl, stays⟩
  | some number =>
      rw [Broker.kept, current] at stays
      exact .inl ⟨⟨number, rfl⟩, Nat.succ.inj stays⟩

/-- An attempt that ended without setting its pair has closed its connection. -/
theorem ended_closed (sound : Sound broker) (found : broker.connections[number]? = some opened)
    (ended : opened.stage = .ended) : opened.closed = true := by
  rcases (sound.each number opened found).keeps with current | closed | first | second | ⟨was, -⟩
  · have was := sound.became number current opened found
    rw [ended] at was
    cases was
  · exact closed
  · rw [ended] at first
    cases first
  · rw [ended] at second
    cases second
  · rw [ended] at was
    cases was

end Steps

/-- The channel is lost while its listeners run, and the loop sets another pair. -/
def recovered : List Event :=
  [ .onConnected, .onConnected, .connect, .opened 0, .resolved 0, .resolved 0,
    .emitted (.channel 0), .emitted (.connection 0), .resolved 0, .woke 0, .opened 0, .resolved 1,
    .resolved 1 ]

end Foc.Platform.BrokerConnection
