import Mathlib
import Foc.Library.EventLoop
import Foc.Library.TimerTable
import Foc.Library.Json
import Foc.Order.StateMachine

/-!
The live streams of one instance (`orders/live/live-hub.ts`): opening and releasing them, the
nudge of an errand to its participants once they are read, and the board, sent to every stream
at most once an interval. The sinks do not throw; a read of the participants answers or fails
in any order; a stream is known by its number.
-/
namespace Foc.Order.Live
open Library Library.EventLoop Library.TimerTable

abbrev StreamId := Nat

structure LiveOptions where
  enabled : Bool
  maxStreamMs : Nat
  perUser : Nat
  perInstance : Nat
  keepAliveMs : Nat
  boardIntervalMs : Nat
  deriving DecidableEq, Repr

inductive LiveRefusal where
  | tooManyStreams | liveUnavailable
  deriving DecidableEq, Repr

structure Participants where
  requesterId : String
  courierId : Option String
  deriving DecidableEq, Repr

/-- `OrderStatusChangedPayload`, as far as the hub reads it. -/
structure StatusChanged where
  orderId : String
  previousStatus : Option OrderStatus
  newStatus : OrderStatus
  orderVersion : Option Nat
  deriving DecidableEq, Repr

/-- Whether an errand joins or leaves the open list. -/
def StatusChanged.onBoard (change : StatusChanged) : Prop :=
  change.previousStatus = some .opened ∨ change.newStatus = .opened

instance (change : StatusChanged) : Decidable change.onBoard :=
  inferInstanceAs (Decidable (_ ∨ _))

inductive Frame where
  | ready
  | board
  | keepAlive
  | errand (orderId : String) (version : Option Nat)
  deriving DecidableEq, Repr

/-- What a stream's sink is given. -/
def Frame.text : Frame → String
  | .ready => "event: ready\ndata: \x7b\x7d\n\n"
  | .board => "event: board\ndata: \x7b\x7d\n\n"
  | .keepAlive => ": keep-alive\n\n"
  | .errand orderId version =>
      let entries := ("orderId", Json.Tree.string orderId) ::
        version.toList.map fun version => ("version", Json.Tree.number version)
      "event: errand\ndata: " ++ String.ofList (Json.text (.object (Json.ofEntries entries))) ++ "\n\n"

/-- What a timer does when it fires. -/
inductive Task where
  | lifetime (stream : StreamId)
  | keepAlive
  | board
  deriving DecidableEq, Repr

structure Stream where
  userId : String
  lifetime : Nat
  deriving DecidableEq, Repr

/-- How a read of an errand's participants ends. -/
inductive Read where
  | failed (reason : String)
  | row (who : Option Participants)
  deriving DecidableEq, Repr

structure Hub where
  now : Int
  /-- Every stream that was opened, by its number. -/
  opened : List Stream
  streams : List StreamId
  byUser : String → List StreamId
  errandNudges : Nat
  boardNudges : Nat
  refusals : List LiveRefusal
  warnings : List (String × String)
  keepAlive : Option Nat
  /-- None as long as no board was sent: -∞. -/
  lastBoardAt : Option Int
  pendingBoard : Option Nat
  stopping : Bool
  timers : Timers Task
  calls : Calls StatusChanged Read
  written : List (StreamId × Frame)
  ended : List StreamId
  /-- When a board was sent, to however many streams. -/
  boards : List Int

namespace Hub

def initial (now : Int) : Hub where
  now := now
  opened := []
  streams := []
  byUser := fun _ => []
  errandNudges := 0
  boardNudges := 0
  refusals := []
  warnings := []
  keepAlive := none
  lastBoardAt := none
  pendingBoard := none
  stopping := false
  timers := Timers.initial
  calls := []
  written := []
  ended := []
  boards := []

def refusal (options : LiveOptions) (hub : Hub) (userId : String) : Option LiveRefusal :=
  if options.enabled = false ∨ hub.stopping = true ∨ options.perInstance ≤ hub.streams.length then
    some .liveUnavailable
  else if options.perUser ≤ (hub.byUser userId).length then some .tooManyStreams
  else none

def write (hub : Hub) (stream : StreamId) (frame : Frame) : Hub :=
  { hub with written := hub.written ++ [(stream, frame)] }

def writeAll (hub : Hub) (frame : Frame) : Hub :=
  { hub with written := hub.written ++ hub.streams.map (·, frame) }

/-- The new stream, its lifetime and its place among the streams. -/
def enter (options : LiveOptions) (hub : Hub) (userId : String) : Hub :=
  { hub with
    opened := hub.opened ++ [⟨userId, hub.timers.next⟩]
    timers := hub.timers.setTimeout hub.now options.maxStreamMs (.lifetime hub.opened.length)
    streams := hub.streams ++ [hub.opened.length]
    byUser := Function.update hub.byUser userId (hub.byUser userId ++ [hub.opened.length]) }

def startKeepAlive (options : LiveOptions) (hub : Hub) : Hub :=
  match hub.keepAlive with
  | some _ => hub
  | none => { hub with
      keepAlive := some hub.timers.next
      timers := hub.timers.setTimeout hub.now options.keepAliveMs .keepAlive }

/-- `open`. -/
def openStream (options : LiveOptions) (hub : Hub) (userId : String) : Hub :=
  match hub.refusal options userId with
  | some refused => { hub with refusals := hub.refusals ++ [refused] }
  | none => ((hub.enter options userId).startKeepAlive options).write hub.opened.length .ready

/-- A stream that is gone is in no set; with the last one the keep-alive stops. -/
def forget (hub : Hub) (stream : StreamId) (userId : String) : Hub :=
  let gone := { hub with
    streams := hub.streams.filter (· ≠ stream)
    byUser := Function.update hub.byUser userId ((hub.byUser userId).filter (· ≠ stream)) }
  if gone.streams = [] then
    match gone.keepAlive with
    | some timer => { gone with keepAlive := none, timers := gone.timers.clearTimeout timer }
    | none => gone
  else gone

def release (hub : Hub) (stream : StreamId) (ends : Bool) : Hub :=
  match hub.opened[stream]? with
  | none => hub
  | some found =>
      if stream ∈ hub.streams then
        let gone := { hub with timers := hub.timers.clearTimeout found.lifetime }.forget stream
          found.userId
        if ends then { gone with ended := gone.ended ++ [stream] } else gone
      else hub

def sendBoard (hub : Hub) : Hub :=
  { hub.writeAll .board with
    lastBoardAt := some hub.now
    boardNudges := hub.boardNudges + hub.streams.length
    boards := hub.boards ++ [hub.now] }

/-- At once, unless one went out within the interval; then once at its end. -/
def board (options : LiveOptions) (hub : Hub) : Hub :=
  match hub.pendingBoard, hub.lastBoardAt with
  | some _, _ => hub
  | none, none => hub.sendBoard
  | none, some last =>
      let wait := last + options.boardIntervalMs - hub.now
      if wait ≤ 0 then hub.sendBoard
      else { hub with
        pendingBoard := some hub.timers.next
        timers := hub.timers.setTimeout hub.now wait .board }

/-- `changed` up to its `await`. -/
def changed (options : LiveOptions) (hub : Hub) (change : StatusChanged) : Hub :=
  if hub.streams = [] then hub
  else
    let boarded := if change.onBoard then hub.board options else hub
    { boarded with calls := ask boarded.calls change }

/-- The streams of the users named, each user once. -/
def streamsOf (hub : Hub) (who : Participants) : List StreamId :=
  ([some who.requesterId, who.courierId].eraseDups.reduceOption.filter (· ≠ "")).flatMap hub.byUser

/-- `changed` after its `await`. -/
def nudge (hub : Hub) (change : StatusChanged) : Read → Hub
  | .failed reason => { hub with warnings := hub.warnings ++ [(change.orderId, reason)] }
  | .row none => hub
  | .row (some who) =>
      let reached := hub.streamsOf who
      { hub with
        written := hub.written ++ reached.map (·, .errand change.orderId change.orderVersion)
        errandNudges := hub.errandNudges + reached.length }

/-- The answer of a read reaches the change that awaits it. -/
def read (hub : Hub) (call : Nat) (change : StatusChanged) (given : Read) : Hub :=
  { hub with calls := answer hub.calls call given }.nudge change given

def releaseAll (hub : Hub) (streams : List StreamId) : Hub :=
  streams.foldl (fun hub stream => hub.release stream true) hub

def forgetBoard (hub : Hub) : Hub :=
  match hub.pendingBoard with
  | some timer => { hub with pendingBoard := none, timers := hub.timers.clearTimeout timer }
  | none => hub

def onModuleDestroy (hub : Hub) : Hub :=
  ({ hub with stopping := true }.releaseAll hub.streams).forgetBoard

/-- A timer fires: an interval is set again, any other is gone. -/
def fired (options : LiveOptions) (hub : Hub) (handle : Nat) : Task → Hub
  | .lifetime stream =>
      { hub with timers := hub.timers.clearTimeout handle }.release stream true
  | .keepAlive =>
      { hub with timers := hub.timers.again handle hub.now options.keepAliveMs }.writeAll .keepAlive
  | .board =>
      { hub with timers := hub.timers.clearTimeout handle, pendingBoard := none }.sendBoard

/-- The board's timer fires when it is due: time does not pass it. -/
def punctual (hub : Hub) (time : Int) : Bool :=
  match hub.pendingBoard.bind hub.timers.armed with
  | some timer => time ≤ timer.due
  | none => true

end Hub

inductive Event where
  | openStream (userId : String)
  | close (stream : StreamId)
  | changed (change : StatusChanged)
  | read (call : Nat) (given : Read)
  | fired (handle : Nat)
  | onModuleDestroy
  | passes (ms : Nat)

/-- One event at the hub. A read answers once, and a timer fires when it is due or later. -/
def turn (options : LiveOptions) (hub : Hub) : Event → Option Hub
  | .openStream userId => some (hub.openStream options userId)
  | .close stream => some (hub.release stream false)
  | .changed change => some (hub.changed options change)
  | .read call given => (waiting hub.calls call).map fun change => hub.read call change given
  | .fired handle =>
      match hub.timers.armed handle with
      | some timer => if timer.due ≤ hub.now then some (hub.fired options handle timer.task) else none
      | none => none
  | .onModuleDestroy => some hub.onModuleDestroy
  | .passes ms => if hub.punctual (hub.now + ms) then some { hub with now := hub.now + ms } else none

end Foc.Order.Live
