import Mathlib
import Foc.Library.EventLoop
import Foc.Web.Sse

/-!
A tab's live stream (`LiveConnection` of `web-app/src/lib/live/connection.ts`), of a build with
the Order Service's address. Each stretch of code between two awaits is one event. What
`authed`, the stream and the body of a refusal answer is the world's, whether or not the
attempt has been aborted, and a timer that is set may go off at any time.
-/
namespace Foc.Web.Live
open Library Library.Utf16 Library.EventLoop

inductive LiveStatus where
  | connecting
  | live
  | reconnecting
  | polling
  deriving DecidableEq, Repr

def REFUSED_RETRY_MS : Nat := 60000

def MAX_DELAY_MS : Nat := 10000

/-- With rationals for doubles. -/
def reconnectDelay (failures : Nat) (random : Rat) : Nat :=
  let base : Nat := min (1000 * 2 ^ failures) MAX_DELAY_MS
  min MAX_DELAY_MS (base * (4 / 5 + 2 / 5 * random) + 1 / 2).floor.toNat

/-- Where a run of `connect` stands. -/
inductive Stage where
  | asking
  | reading (parser : Sse.SseParser)
  | refused (status : Nat)
  | finished

/-- One attempt, and the signal of its controller. -/
structure Attempt where
  stage : Stage
  aborted : Bool

/-- A timer that has neither gone off nor been cleared is waiting. -/
structure Timer where
  ms : Nat
  waiting : Bool

structure LiveConnection where
  status : LiveStatus
  failures : Nat
  running : Bool
  controller : Option Nat
  retry : Option Nat
  attempts : List Attempt
  timers : List Timer
  statuses : List LiveStatus
  events : List Sse.SseEvent

namespace LiveConnection

def initial : LiveConnection where
  status := .connecting
  failures := 0
  running := false
  controller := none
  retry := none
  attempts := []
  timers := []
  statuses := []
  events := []

def report (connection : LiveConnection) (status : LiveStatus) : LiveConnection :=
  if status = connection.status then connection
  else { connection with status, statuses := connection.statuses ++ [status] }

/-- `connect` up to its await. -/
def connect (connection : LiveConnection) : LiveConnection :=
  { connection with
    controller := some connection.attempts.length
    attempts := connection.attempts ++ [{ stage := .asking, aborted := false }] }

/-- `timer.clear(this.retry)`. -/
def clear (connection : LiveConnection) : LiveConnection :=
  match connection.retry with
  | some timer =>
      { connection with
        retry := none
        timers := connection.timers.modify timer fun timer => { timer with waiting := false } }
  | none => connection

def abort (connection : LiveConnection) : LiveConnection :=
  match connection.controller with
  | some attempt =>
      { connection with
        attempts := connection.attempts.modify attempt fun attempt =>
          { attempt with aborted := true } }
  | none => connection

def start (connection : LiveConnection) : LiveConnection :=
  if connection.running then connection
  else { connection with running := true, failures := 0 }.connect

def stop (connection : LiveConnection) : LiveConnection :=
  { connection with running := false }.clear.abort

def retryNow (connection : LiveConnection) : LiveConnection :=
  if connection.running = false ∨ connection.retry = none then connection
  else { connection.clear with failures := 0 }.connect

def later (connection : LiveConnection) (ms : Nat) : LiveConnection :=
  if connection.running then
    { connection with
      retry := some connection.timers.length
      timers := connection.timers ++ [{ ms, waiting := true }] }
  else connection

def failed (connection : LiveConnection) (random : Rat) : LiveConnection :=
  let failures := connection.failures + 1
  let counted := { connection with failures }
  let told := if 4 ≤ failures then counted.report .polling
    else if 2 ≤ failures then counted.report .reconnecting else counted
  told.later (reconnectDelay (failures - 1) random)

/-- An event of the stream, as the parser passes it on. -/
def received (connection : LiveConnection) (event : Sse.SseEvent) : LiveConnection :=
  let ready := if event.type = ofText "ready".toList then
    { connection with failures := 0 }.report .live else connection
  { ready with events := ready.events ++ [event] }

def setStage (connection : LiveConnection) (attempt : Nat) (stage : Stage) : LiveConnection :=
  { connection with
    attempts := connection.attempts.modify attempt fun attempt => { attempt with stage } }

/-- `toApiError(status, body).code`. -/
def errorCode (status : Nat) (code : Option String) : String :=
  code.getD (if 500 ≤ status then "INTERNAL" else "ERROR")

/-- The rest of `connect`, of a response that is no stream. -/
def refused (connection : LiveConnection) (status : Nat) (code : Option String) (random : Rat) :
    LiveConnection :=
  if status = 429 ∨ status = 503 ∧ errorCode status code = "LIVE_UNAVAILABLE" then
    (connection.report .polling).later REFUSED_RETRY_MS
  else connection.failed random

/-- `if (!controller.signal.aborted) this.failed()`. -/
def dropped (connection : LiveConnection) (aborted : Bool) (random : Rat) : LiveConnection :=
  if aborted then connection else connection.failed random

end LiveConnection

/-- What can happen: a call, an answer to one of the awaits of an attempt, a timer. Those of a
failure carry what `Math.random` gives. -/
inductive Event where
  | start
  | stop
  | retryNow
  | threw (attempt : Nat) (random : Rat)
  | answered (attempt : Nat) (status : Nat) (body : Bool)
  | chunk (attempt : Nat) (text : Units)
  | ended (attempt : Nat) (random : Rat)
  | explained (attempt : Nat) (code : Option String) (random : Rat)
  | fires (timer : Nat)

open LiveConnection

def turn (connection : LiveConnection) : Event → Option LiveConnection
  | .start => some connection.start
  | .stop => some connection.stop
  | .retryNow => some connection.retryNow
  | .threw attempt random =>
      match connection.attempts[attempt]? with
      | some ⟨.asking, aborted⟩ =>
          some ((connection.setStage attempt .finished).dropped aborted random)
      | _ => none
  | .answered attempt status body =>
      match connection.attempts[attempt]? with
      | some ⟨.asking, _⟩ =>
          if (200 ≤ status ∧ status ≤ 299) ∧ body then
            some (connection.setStage attempt (.reading .initial))
          else some (connection.setStage attempt (.refused status))
      | _ => none
  | .chunk attempt text =>
      match connection.attempts[attempt]? with
      | some ⟨.reading parser, _⟩ =>
          let fed := parser.feed text
          some ((fed.sent.drop parser.sent.length).foldl received
            (connection.setStage attempt (.reading fed)))
      | _ => none
  | .ended attempt random =>
      match connection.attempts[attempt]? with
      | some ⟨.reading _, aborted⟩ =>
          some ((connection.setStage attempt .finished).dropped aborted random)
      | _ => none
  | .explained attempt code random =>
      match connection.attempts[attempt]? with
      | some ⟨.refused status, _⟩ =>
          some ((connection.setStage attempt .finished).refused status code random)
      | _ => none
  | .fires timer =>
      match connection.timers[timer]? with
      | some ⟨_, true⟩ =>
          let fired := { connection with
            retry := none
            timers := connection.timers.modify timer fun timer => { timer with waiting := false } }
          some (if connection.running then fired.connect else fired)
      | _ => none

/-- The body of a refusal is read after `stop` and `start` again: nothing looks at the signal. -/
def steady (connection : LiveConnection) : Event → Bool
  | .explained attempt _ _ =>
      !(connection.running && connection.attempts[attempt]?.any (·.aborted))
  | _ => true

def steadyTurn (connection : LiveConnection) (event : Event) : Option LiveConnection :=
  if steady connection event then turn connection event else none

/-! ## At most one -/

def Stage.isFinished : Stage → Bool
  | .finished => true
  | _ => false

/-- An attempt that is neither over nor aborted. -/
def Attempt.isOpen (attempt : Attempt) : Bool := !attempt.aborted && !attempt.stage.isFinished

namespace LiveConnection

/-- Which attempts are open. -/
def openings (connection : LiveConnection) : List Bool := connection.attempts.map Attempt.isOpen

/-- Which timers are set. -/
def waits (connection : LiveConnection) : List Bool := connection.timers.map Timer.waiting

/-- The attempts that go on unaborted and the retries that are scheduled. -/
def streams (connection : LiveConnection) : Nat :=
  connection.attempts.countP Attempt.isOpen + connection.timers.countP Timer.waiting

end LiveConnection

section Marks

variable {marks : List Bool} {place : Nat} {mark : Bool}

def Bare (marks : List Bool) : Prop := true ∉ marks

/-- One place is marked, and no other. -/
def Only (marks : List Bool) (place : Nat) : Prop := ∀ other, marks[other]? = some true ↔ other = place

theorem bare_get (bare : Bare marks) (other : Nat) : marks[other]? ≠ some true :=
  fun marked => bare (List.mem_of_getElem? marked)

theorem only_append (bare : Bare marks) : Only (marks ++ [true]) marks.length := by
  intro other
  rw [List.getElem?_append]
  split
  next before =>
    constructor
    · intro marked
      exact absurd marked (bare_get bare other)
    · omega
  next past =>
    rw [List.getElem?_singleton]
    split
    · simp
      omega
    · simp
      omega

theorem bare_set (bare : Bare marks) : Bare (marks.set place false) := by
  intro marked
  rcases List.mem_or_eq_of_mem_set marked with before | now
  · exact bare before
  · cases now

theorem only_set (only : Only marks place) : Bare (marks.set place false) := by
  intro marked
  obtain ⟨other, at_⟩ := List.mem_iff_getElem?.mp marked
  by_cases same : place = other
  · subst same
    rw [List.getElem?_set] at at_
    simp at at_
  · rw [List.getElem?_set_ne same] at at_
    exact same ((only other).mp at_).symm

theorem set_same (at_ : marks[place]? = some mark) : marks.set place mark = marks := by
  obtain ⟨within, rfl⟩ := List.getElem?_eq_some_iff.mp at_
  exact List.set_getElem_self within

theorem count_only (only : Only marks place) : marks.count true = 1 := by
  have marked := (only place).mpr rfl
  obtain ⟨within, is⟩ := List.getElem?_eq_some_iff.mp marked
  have none_ := List.count_eq_zero.mpr (only_set only)
  rw [List.count_set within] at none_
  have some := List.count_pos_iff.mpr (List.mem_of_getElem? marked)
  simp [is] at none_
  omega

theorem map_modify {α : Type} {list : List α} {read : α → Bool} (change : α → α) {value : α}
    (at_ : list[place]? = some value) :
    (list.modify place change).map read = (list.map read).set place (read (change value)) := by
  apply List.ext_getElem?
  intro other
  rw [List.getElem?_map, List.getElem?_modify]
  by_cases same : place = other
  · subst same
    have within := (List.getElem?_eq_some_iff.mp at_).1
    rw [List.getElem?_set_self (by simpa using within), at_]
    simp
  · rw [List.getElem?_set_ne same, List.getElem?_map]
    simp [same]

end Marks

/-- Nothing goes on. -/
structure Still (connection : LiveConnection) : Prop where
  openings : Bare connection.openings
  waits : Bare connection.waits
  retry : connection.retry = none

/-- While the connection runs, one attempt is open, the controller's, or one retry is set. -/
inductive Sound (connection : LiveConnection) : Prop where
  | off (stopped : connection.running = false) (still : Still connection)
  | opened (attempt : Nat) (running : connection.running = true)
      (only : Only connection.openings attempt) (controller : connection.controller = some attempt)
      (waits : Bare connection.waits) (retry : connection.retry = none)
  | waits (timer : Nat) (running : connection.running = true) (openings : Bare connection.openings)
      (only : Only connection.waits timer) (retry : connection.retry = some timer)

section Sound

variable {connection next : LiveConnection} {attempt timer : Nat} {random : Rat}

theorem streams_eq :
    connection.streams = connection.openings.count true + connection.waits.count true := by
  simp [streams, openings, waits, List.count_eq_countP, List.countP_map, Function.comp_def]

theorem sound_streams (sound : Sound connection) :
    connection.streams = if connection.running then 1 else 0 := by
  rw [streams_eq]
  cases sound with
  | off stopped still =>
    rw [List.count_eq_zero.mpr still.openings, List.count_eq_zero.mpr still.waits, stopped]
    rfl
  | opened attempt running only controller waits retry =>
    rw [count_only only, List.count_eq_zero.mpr waits, running]
    rfl
  | waits timer running openings only retry =>
    rw [List.count_eq_zero.mpr openings, count_only only, running]
    rfl

/-- Two connections that differ in what is told alone. -/
structure Alike (connection next : LiveConnection) : Prop where
  running : next.running = connection.running
  controller : next.controller = connection.controller
  retry : next.retry = connection.retry
  openings : next.openings = connection.openings
  waits : next.waits = connection.waits

theorem Alike.still (alike : Alike connection next) (still : Still connection) : Still next where
  openings := alike.openings ▸ still.openings
  waits := alike.waits ▸ still.waits
  retry := alike.retry.trans still.retry

theorem Alike.sound (alike : Alike connection next) (sound : Sound connection) : Sound next := by
  cases sound with
  | off stopped still => exact .off (alike.running.trans stopped) (alike.still still)
  | opened attempt running only controller waits retry =>
    exact .opened attempt (alike.running.trans running) (alike.openings ▸ only)
      (alike.controller.trans controller) (alike.waits ▸ waits) (alike.retry.trans retry)
  | waits timer running openings only retry =>
    exact .waits timer (alike.running.trans running) (alike.openings ▸ openings)
      (alike.waits ▸ only) (alike.retry.trans retry)

theorem Alike.trans {last : LiveConnection} (first : Alike connection next)
    (second : Alike next last) : Alike connection last :=
  ⟨second.running.trans first.running, second.controller.trans first.controller,
    second.retry.trans first.retry, second.openings.trans first.openings,
    second.waits.trans first.waits⟩

theorem report_alike (status : LiveStatus) : Alike connection (connection.report status) := by
  unfold report
  split <;> exact ⟨rfl, rfl, rfl, rfl, rfl⟩

theorem received_alike (event : Sse.SseEvent) : Alike connection (connection.received event) := by
  unfold received
  dsimp only
  split
  · have ready : Alike connection { connection with failures := 0 } := ⟨rfl, rfl, rfl, rfl, rfl⟩
    have told := ready.trans (report_alike .live)
    exact ⟨told.running, told.controller, told.retry, told.openings, told.waits⟩
  · exact ⟨rfl, rfl, rfl, rfl, rfl⟩

theorem received_all (events : List Sse.SseEvent) :
    Alike connection (events.foldl received connection) := by
  induction events generalizing connection with
  | nil => exact ⟨rfl, rfl, rfl, rfl, rfl⟩
  | cons event rest ih => exact (received_alike event).trans ih

/-! ### One call -/

theorem connect_sound (running : connection.running = true) (still : Still connection) :
    Sound connection.connect := by
  have marks : connection.connect.openings = connection.openings ++ [true] := by
    simp [openings, connect, Attempt.isOpen, Stage.isFinished]
  refine .opened connection.openings.length running (marks ▸ only_append still.openings) ?_
    still.waits still.retry
  exact congrArg some (List.length_map _).symm

theorem later_sound (still : Still connection) (ms : Nat) : Sound (connection.later ms) := by
  unfold later
  split
  next running =>
    have only := only_append still.waits
    refine .waits connection.waits.length running still.openings ?_ ?_
    · simpa [waits] using only
    · exact congrArg some (List.length_map _).symm
  next stopped => exact .off (Bool.eq_false_iff.mpr stopped) still

theorem failed_sound (still : Still connection) : Sound (connection.failed random) := by
  have counted : Alike connection { connection with failures := connection.failures + 1 } :=
    ⟨rfl, rfl, rfl, rfl, rfl⟩
  unfold failed
  dsimp only
  split
  · exact later_sound ((counted.trans (report_alike _)).still still) _
  · split
    · exact later_sound ((counted.trans (report_alike _)).still still) _
    · exact later_sound (counted.still still) _

theorem refused_sound (still : Still connection) (status : Nat) (code : Option String) :
    Sound (connection.refused status code random) := by
  unfold refused
  split
  · exact later_sound ((report_alike _).still still) _
  · exact failed_sound still

theorem start_sound (sound : Sound connection) : Sound connection.start := by
  unfold start
  split
  next => exact sound
  next stopped =>
    cases sound with
    | off _ still =>
      exact connect_sound rfl ⟨still.openings, still.waits, still.retry⟩
    | opened attempt running only controller waits retry => exact absurd running stopped
    | waits timer running openings only retry => exact absurd running stopped

/-- The handle is that of the one timer that is set. -/
def Handled (connection : LiveConnection) : Prop :=
  connection.retry = none ∧ Bare connection.waits ∨
    ∃ timer, connection.retry = some timer ∧ Only connection.waits timer

/-- The controller is that of the one attempt that is open. -/
def Held (connection : LiveConnection) : Prop :=
  Bare connection.openings ∨
    ∃ attempt, connection.controller = some attempt ∧ Only connection.openings attempt

theorem Sound.handled (sound : Sound connection) : Handled connection := by
  cases sound with
  | off _ still => exact .inl ⟨still.retry, still.waits⟩
  | opened attempt running only controller waits retry => exact .inl ⟨retry, waits⟩
  | waits timer running openings only retry => exact .inr ⟨timer, retry, only⟩

theorem Sound.held (sound : Sound connection) : Held connection := by
  cases sound with
  | off _ still => exact .inl still.openings
  | opened attempt running only controller waits retry => exact .inr ⟨attempt, controller, only⟩
  | waits timer running openings only retry => exact .inl openings

theorem clear_bare (handled : Handled connection) :
    Bare connection.clear.waits ∧ connection.clear.retry = none := by
  unfold clear
  rcases handled with ⟨none_, bare⟩ | ⟨timer, retry, only⟩
  · rw [none_]
    exact ⟨bare, none_⟩
  · rw [retry]
    refine ⟨?_, rfl⟩
    have marked := (only timer).mpr rfl
    rw [waits, List.getElem?_map, Option.map_eq_some_iff] at marked
    obtain ⟨set, at_, -⟩ := marked
    have cleared := only_set only
    rw [waits, ← map_modify (fun timer => { timer with waiting := false }) at_] at cleared
    exact cleared

theorem clear_rest : connection.clear.openings = connection.openings ∧
    connection.clear.running = connection.running ∧
    connection.clear.controller = connection.controller := by
  unfold clear
  split <;> exact ⟨rfl, rfl, rfl⟩

theorem retry_sound (sound : Sound connection) : Sound connection.retryNow := by
  unfold retryNow
  split
  next => exact sound
  next due =>
    have cleared := clear_bare sound.handled
    have rest := @clear_rest connection
    cases sound with
    | off stopped still => exact absurd (.inl stopped) due
    | opened attempt running only controller waits retry => exact absurd (.inr retry) due
    | waits timer running openings only retry =>
      exact connect_sound (rest.2.1.trans running) ⟨rest.1 ▸ openings, cleared.1, cleared.2⟩

theorem abort_bare (held : Held connection) : Bare connection.abort.openings := by
  unfold abort
  split
  next attempt controller =>
    cases at_ : connection.attempts[attempt]? with
    | none =>
      have past := List.getElem?_eq_none_iff.mp at_
      rw [List.modify_eq_self past]
      rcases held with bare | ⟨other, mine, only⟩
      · exact bare
      · rw [controller] at mine
        cases mine
        have marked := (only attempt).mpr rfl
        rw [openings, List.getElem?_map, at_] at marked
        cases marked
    | some before =>
      have marks : ({ connection with attempts := connection.attempts.modify attempt fun attempt =>
          { attempt with aborted := true } } : LiveConnection).openings =
            connection.openings.set attempt false := map_modify _ at_
      rw [marks]
      rcases held with bare | ⟨other, mine, only⟩
      · exact bare_set bare
      · rw [controller] at mine
        cases mine
        exact only_set only
  next none_ =>
    rcases held with bare | ⟨other, mine, only⟩
    · exact bare
    · rw [none_] at mine
      cases mine

theorem abort_rest : connection.abort.waits = connection.waits ∧
    connection.abort.retry = connection.retry ∧
    connection.abort.running = connection.running := by
  unfold abort
  split <;> exact ⟨rfl, rfl, rfl⟩

theorem stop_still (sound : Sound connection) :
    connection.stop.running = false ∧ Still connection.stop := by
  have handled : Handled { connection with running := false } := sound.handled
  have held : Held { connection with running := false } := sound.held
  have cleared := clear_bare handled
  obtain ⟨openings, running, controller⟩ := @clear_rest { connection with running := false }
  have still : Held ({ connection with running := false } : LiveConnection).clear := by
    rw [Held, openings, controller]
    exact held
  obtain ⟨waits, retry, stopped⟩ :=
    @abort_rest ({ connection with running := false } : LiveConnection).clear
  exact ⟨stopped.trans running, abort_bare still, by rw [stop, waits]; exact cleared.1,
    retry.trans cleared.2⟩

/-! ### One event -/

theorem stage_marks {attempt : Nat} {before : Attempt} {stage : Stage}
    (at_ : connection.attempts[attempt]? = some before) :
    (connection.setStage attempt stage).openings =
      connection.openings.set attempt (!before.aborted && !stage.isFinished) := map_modify _ at_

theorem marked {attempt : Nat} {before : Attempt}
    (at_ : connection.attempts[attempt]? = some before) :
    connection.openings[attempt]? = some before.isOpen := by
  rw [openings, List.getElem?_map, at_]
  rfl

/-- An attempt that goes on is open as it was. -/
theorem stage_alike {attempt : Nat} {before : Attempt} (stage : Stage)
    (at_ : connection.attempts[attempt]? = some before)
    (same : (!before.aborted && !stage.isFinished) = before.isOpen) :
    Alike connection (connection.setStage attempt stage) := by
  refine ⟨rfl, rfl, rfl, ?_, rfl⟩
  rw [stage_marks at_, same]
  exact set_same (marked at_)

/-- When the one attempt that is open is over, nothing goes on. -/
theorem over_still {attempt : Nat} {before : Attempt} (sound : Sound connection)
    (at_ : connection.attempts[attempt]? = some before) (current : before.isOpen = true) :
    Still (connection.setStage attempt .finished) := by
  have here := marked at_
  rw [current] at here
  cases sound with
  | off _ still => exact absurd here (bare_get still.openings attempt)
  | opened other running only controller waits retry =>
    obtain rfl := (only attempt).mp here
    refine ⟨?_, waits, retry⟩
    rw [stage_marks at_]
    simpa [Stage.isFinished] using only_set only
  | waits timer running openings only retry => exact absurd here (bare_get openings attempt)

theorem over_sound {attempt : Nat} {stage : Stage} {aborted : Bool} (sound : Sound connection)
    (at_ : connection.attempts[attempt]? = some ⟨stage, aborted⟩) (goes : stage.isFinished = false) :
    Sound ((connection.setStage attempt .finished).dropped aborted random) := by
  unfold dropped
  cases aborted with
  | true => exact (stage_alike .finished at_ rfl).sound sound
  | false => exact failed_sound (over_still sound at_ (by simp [Attempt.isOpen, goes]))

theorem explained_sound {attempt status : Nat} {aborted : Bool} {code : Option String}
    (sound : Sound connection) (at_ : connection.attempts[attempt]? = some ⟨.refused status, aborted⟩)
    (keeps : steady connection (.explained attempt code random) = true) :
    Sound ((connection.setStage attempt .finished).refused status code random) := by
  cases aborted with
  | false => exact refused_sound (over_still sound at_ rfl) status code
  | true =>
    have alike : Alike connection (connection.setStage attempt .finished) := stage_alike .finished at_ rfl
    have stopped : connection.running = false := by simpa [steady, at_] using keeps
    cases sound with
    | off _ still => exact refused_sound (alike.still still) status code
    | opened other running => exact absurd running (by rw [stopped]; decide)
    | waits timer running => exact absurd running (by rw [stopped]; decide)

theorem fires_sound {ms : Nat} (sound : Sound connection)
    (at_ : connection.timers[timer]? = some ⟨ms, true⟩) :
    connection.running = true ∧ Still { connection with
      retry := none
      timers := connection.timers.modify timer fun timer => { timer with waiting := false } } := by
  have here : connection.waits[timer]? = some true := by
    rw [waits, List.getElem?_map, at_]
    rfl
  cases sound with
  | off _ still => exact absurd here (bare_get still.waits timer)
  | opened attempt running only controller waits retry => exact absurd here (bare_get waits timer)
  | waits other running openings only retry =>
    obtain rfl := (only timer).mp here
    refine ⟨running, openings, ?_, rfl⟩
    have cleared := only_set only
    rw [waits, ← map_modify (fun timer => { timer with waiting := false }) at_] at cleared
    exact cleared

theorem turn_sound {event : Event} (sound : Sound connection) (keeps : steady connection event = true)
    (turned : turn connection event = some next) : Sound next := by
  cases event with
  | start =>
    cases turned
    exact start_sound sound
  | stop =>
    cases turned
    exact .off (stop_still sound).1 (stop_still sound).2
  | retryNow =>
    cases turned
    exact retry_sound sound
  | threw attempt random =>
    simp only [turn] at turned
    split at turned
    next aborted at_ =>
      cases turned
      exact over_sound sound at_ rfl
    next => cases turned
  | answered attempt status body =>
    simp only [turn] at turned
    split at turned
    next aborted at_ =>
      split at turned
      · cases turned
        exact (stage_alike (.reading .initial) at_ rfl).sound sound
      · cases turned
        exact (stage_alike (.refused status) at_ rfl).sound sound
    next => cases turned
  | chunk attempt text =>
    simp only [turn] at turned
    split at turned
    next parser aborted at_ =>
      cases turned
      exact ((stage_alike (.reading (parser.feed text)) at_ rfl).trans (received_all _)).sound sound
    next => cases turned
  | ended attempt random =>
    simp only [turn] at turned
    split at turned
    next parser aborted at_ =>
      cases turned
      exact over_sound sound at_ rfl
    next => cases turned
  | explained attempt code random =>
    simp only [turn] at turned
    split at turned
    next status aborted at_ =>
      cases turned
      exact explained_sound sound at_ keeps
    next => cases turned
  | fires timer =>
    simp only [turn] at turned
    split at turned
    next ms at_ =>
      obtain ⟨running, still⟩ := fires_sound sound at_
      rw [if_pos running] at turned
      cases turned
      exact connect_sound running still
    next => cases turned

end Sound

theorem steady_turned {connection next : LiveConnection} {event : Event}
    (turned : steadyTurn connection event = some next) :
    steady connection event = true ∧ turn connection event = some next := by
  unfold steadyTurn at turned
  split at turned
  next keeps => exact ⟨keeps, turned⟩
  next => cases turned

theorem initial_sound : Sound initial :=
  .off rfl ⟨List.not_mem_nil, List.not_mem_nil, rfl⟩

theorem run_sound {connection : LiveConnection} (run : Run steadyTurn initial connection) :
    Sound connection := by
  refine run_keeps ?_ initial_sound run
  intro state event after sound turned
  obtain ⟨keeps, turned⟩ := steady_turned turned
  exact turn_sound sound keeps turned

/-! ## Until it is started again -/

def unstarted (connection : LiveConnection) : Event → Option LiveConnection
  | .start => none
  | event => turn connection event

/-- It stays stopped, and no attempt and no timer is added. -/
structure Rests (connection next : LiveConnection) : Prop where
  stopped : next.running = false
  attempts : next.openings.length = connection.openings.length
  timers : next.waits.length = connection.waits.length

section Rests

variable {connection next : LiveConnection} {random : Rat}

theorem Alike.rests (alike : Alike connection next) (stopped : connection.running = false) :
    Rests connection next :=
  ⟨alike.running.trans stopped, congrArg List.length alike.openings,
    congrArg List.length alike.waits⟩

theorem Rests.trans {last : LiveConnection} (first : Rests connection next)
    (second : Rests next last) : Rests connection last :=
  ⟨second.stopped, second.attempts.trans first.attempts, second.timers.trans first.timers⟩

theorem later_rests (stopped : connection.running = false) (ms : Nat) :
    Rests connection (connection.later ms) := by
  unfold later
  rw [if_neg (by rw [stopped]; decide)]
  exact ⟨stopped, rfl, rfl⟩

theorem failed_rests (stopped : connection.running = false) :
    Rests connection (connection.failed random) := by
  have counted : Alike connection { connection with failures := connection.failures + 1 } :=
    ⟨rfl, rfl, rfl, rfl, rfl⟩
  have told : ∀ status, Rests connection
      ({ connection with failures := connection.failures + 1 }.report status) :=
    fun status => (counted.trans (report_alike status)).rests stopped
  unfold failed
  dsimp only
  split
  · exact (told _).trans (later_rests (told _).stopped _)
  · split
    · exact (told _).trans (later_rests (told _).stopped _)
    · have rests := counted.rests stopped
      exact rests.trans (later_rests rests.stopped _)

theorem refused_rests (stopped : connection.running = false) (status : Nat) (code : Option String) :
    Rests connection (connection.refused status code random) := by
  unfold refused
  split
  · have told := (@report_alike connection .polling).rests stopped
    exact told.trans (later_rests told.stopped _)
  · exact failed_rests stopped

theorem stage_rests (attempt : Nat) (stage : Stage) (stopped : connection.running = false) :
    Rests connection (connection.setStage attempt stage) :=
  ⟨stopped, by simp [openings, setStage], rfl⟩

theorem dropped_rests (stopped : connection.running = false) (aborted : Bool) :
    Rests connection (connection.dropped aborted random) := by
  unfold dropped
  split
  · exact ⟨stopped, rfl, rfl⟩
  · exact failed_rests stopped

theorem stop_rests : Rests connection connection.stop := by
  have lengths : connection.stop.running = false ∧
      connection.stop.attempts.length = connection.attempts.length ∧
      connection.stop.timers.length = connection.timers.length := by
    unfold stop abort clear
    dsimp only
    split <;> split <;> simp_all
  exact ⟨lengths.1, by simpa [openings] using lengths.2.1, by simpa [waits] using lengths.2.2⟩

theorem unstarted_rests {event : Event} (stopped : connection.running = false)
    (turned : unstarted connection event = some next) : Rests connection next := by
  cases event with
  | start => cases turned
  | stop =>
    cases turned
    exact stop_rests
  | retryNow =>
    cases turned
    unfold retryNow
    rw [if_pos (.inl stopped)]
    exact ⟨stopped, rfl, rfl⟩
  | threw attempt random =>
    simp only [unstarted, turn] at turned
    split at turned
    · cases turned
      have rested := stage_rests attempt .finished stopped
      exact rested.trans (dropped_rests rested.stopped _)
    · cases turned
  | answered attempt status body =>
    simp only [unstarted, turn] at turned
    split at turned
    · split at turned
      · cases turned
        exact stage_rests attempt _ stopped
      · cases turned
        exact stage_rests attempt _ stopped
    · cases turned
  | chunk attempt text =>
    simp only [unstarted, turn] at turned
    split at turned
    · cases turned
      exact (stage_rests attempt _ stopped).trans ((received_all _).rests stopped)
    · cases turned
  | ended attempt random =>
    simp only [unstarted, turn] at turned
    split at turned
    · cases turned
      have rested := stage_rests attempt .finished stopped
      exact rested.trans (dropped_rests rested.stopped _)
    · cases turned
  | explained attempt code random =>
    simp only [unstarted, turn] at turned
    split at turned
    · cases turned
      have rested := stage_rests attempt .finished stopped
      exact rested.trans (refused_rests rested.stopped _ _)
    · cases turned
  | fires timer =>
    simp only [unstarted, turn] at turned
    split at turned
    · rw [if_neg (by rw [stopped]; decide)] at turned
      cases turned
      exact ⟨stopped, rfl, by simp [waits]⟩
    · cases turned

theorem unstarted_turned {event : Event} (turned : unstarted connection event = some next) :
    turn connection event = some next := by
  cases event with
  | start => cases turned
  | _ => exact turned

/-- Stopped, it meets the condition at every event. -/
theorem stopped_steady (stopped : connection.running = false) (event : Event) :
    steady connection event = true := by
  cases event with
  | explained attempt code random => simp [steady, stopped]
  | _ => rfl

theorem unstarted_run (sound : Sound connection) (stopped : connection.running = false)
    (run : Run unstarted connection next) : Sound next ∧ Rests connection next := by
  induction run with
  | refl => exact ⟨sound, stopped, rfl, rfl⟩
  | next event run turned ih =>
    obtain ⟨sound, rests⟩ := ih
    exact ⟨turn_sound sound (stopped_steady rests.stopped event) (unstarted_turned turned),
      rests.trans (unstarted_rests rests.stopped turned)⟩

end Rests

/-! ## A refusal that is read too late -/
section Unsteady

variable {connection next : LiveConnection} {random : Rat}

theorem Alike.streams (alike : Alike connection next) : next.streams = connection.streams := by
  rw [streams_eq, streams_eq, alike.openings, alike.waits]

theorem later_streams (running : connection.running = true) (ms : Nat) :
    (connection.later ms).streams = connection.streams + 1 := by
  unfold later
  rw [if_pos running]
  simp [LiveConnection.streams]
  omega

theorem failed_streams (running : connection.running = true) :
    (connection.failed random).streams = connection.streams + 1 := by
  have counted : Alike connection { connection with failures := connection.failures + 1 } :=
    ⟨rfl, rfl, rfl, rfl, rfl⟩
  have told : ∀ ms status,
      (({ connection with failures := connection.failures + 1 }.report status).later ms).streams =
        connection.streams + 1 := by
    intro ms status
    have alike := counted.trans (report_alike status)
    rw [later_streams (alike.running.trans running), alike.streams]
  unfold failed
  dsimp only
  split
  · exact told _ _
  · split
    · exact told _ _
    · rw [later_streams (counted.running.trans running), counted.streams]

theorem refused_streams (running : connection.running = true) (status : Nat)
    (code : Option String) :
    (connection.refused status code random).streams = connection.streams + 1 := by
  unfold refused
  split
  · have alike := @report_alike connection .polling
    rw [later_streams (alike.running.trans running), alike.streams]
  · exact failed_streams running

/-- The body of an aborted attempt's refusal schedules a retry beside what goes on already. -/
theorem unsteady_streams {event : Event} (sound : Sound connection)
    (turned : turn connection event = some next) (unsteady : steady connection event = false) :
    next.streams = 2 := by
  have one := sound_streams sound
  cases event with
  | explained attempt code random =>
    simp only [turn] at turned
    split at turned
    next status aborted at_ =>
      have both : connection.running = true ∧ aborted = true := by simpa [steady, at_] using unsteady
      obtain ⟨running, rfl⟩ := both
      cases turned
      have alike : Alike connection (connection.setStage attempt .finished) := stage_alike .finished at_ rfl
      rw [refused_streams (alike.running.trans running), alike.streams, one, running]
      rfl
    next => cases turned
  | _ => cases unsteady

end Unsteady

/-- While no aborted attempt's refusal is read by a connection that runs again, one attempt or
one retry goes on while it runs, and none once it is stopped, until it is started. Such a
refusal makes them two. -/
theorem one_stream (connection : LiveConnection) (run : Run steadyTurn initial connection) :
    connection.streams = (if connection.running then 1 else 0) ∧
    (∀ stopped later, turn connection .stop = some stopped → Run unstarted stopped later →
      later.attempts.length = connection.attempts.length ∧
      later.timers.length = connection.timers.length ∧ later.streams = 0) ∧
    ∀ event next, turn connection event = some next → steady connection event = false →
      next.streams = 2 := by
  have sound := run_sound run
  refine ⟨sound_streams sound, ?_, fun event next turned unsteady => unsteady_streams sound turned unsteady⟩
  intro stopped later stops onward
  cases stops
  have still := stop_still sound
  obtain ⟨lastly, rests⟩ := unstarted_run (.off still.1 still.2) still.1 onward
  have rested := stop_rests.trans rests
  refine ⟨by simpa [openings] using rested.attempts, by simpa [waits] using rested.timers, ?_⟩
  rw [sound_streams lastly, rests.stopped]
  rfl

/-- A refusal, a minute's wait, and the network's return. -/
theorem retried_early : ∃ connection, Run steadyTurn initial connection ∧
    connection.statuses = [.polling] ∧ connection.running = true ∧ connection.streams = 1 := by
  have ran : (turns steadyTurn initial [.start, .answered 0 429 true, .explained 0 none 0,
      .retryNow]).map (fun connection => (connection.statuses, connection.running)) =
        some ([.polling], true) := by rfl
  obtain ⟨connection, reached, both⟩ := Option.map_eq_some_iff.mp ran
  obtain ⟨statuses, running⟩ := Prod.mk.inj both
  have run := run_turns .refl _ reached
  exact ⟨connection, run, statuses, running, (one_stream connection run).1.trans (if_pos running)⟩

/-- Stopped and started again while the body of a refusal is read: once it has been, a retry is
set while the new attempt is open. -/
theorem late_refusal_doubles : ∃ connection, Run turn initial connection ∧
    connection.attempts.map Attempt.isOpen = [false, true] ∧
    connection.timers.map Timer.waiting = [true] ∧ connection.streams = 2 := by
  have ran : (turns turn initial [.start, .answered 0 503 true, .stop, .start,
      .explained 0 (some "OVERLOADED") 0]).map
        (fun connection => (connection.attempts.map Attempt.isOpen,
          connection.timers.map Timer.waiting, connection.streams)) =
        some ([false, true], [true], 2) := by rfl
  obtain ⟨connection, reached, all⟩ := Option.map_eq_some_iff.mp ran
  obtain ⟨attempts, rest⟩ := Prod.mk.inj all
  obtain ⟨timers, streams⟩ := Prod.mk.inj rest
  exact ⟨connection, run_turns .refl _ reached, attempts, timers, streams⟩

end Foc.Web.Live
