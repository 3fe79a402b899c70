import Foc.Library.EventLoop
import Mathlib.Logic.Function.Basic

/-!
The chat sockets of one instance (`chat/socket/socket-hub.ts`): connecting, the
auth frame and the wait for `authenticate`, rechecks, timers, identity changes,
pings and the shutdown. `authenticate` answers or fails in any order; a socket,
a timer and a call are known by numbers.
-/
namespace Foc.Chat
open Library.EventLoop

abbrev SocketId := Nat
abbrev TimerId := Nat
abbrev UserId := String
abbrev Token := String
abbrev Millis := Int

structure SocketOptions where
  authTimeoutMs : Nat
  recheckMs : Nat
  pingMs : Nat
  perUser : Nat
  perInstance : Nat
  pendingPerInstance : Nat
  deriving DecidableEq, Repr

inductive Inbound where
  | auth (token : Token)
  | malformed
  deriving DecidableEq, Repr

structure Nudge where
  orderId : String
  latestSeq : Nat
  deriving DecidableEq, Repr

inductive CloseReason where
  | authTimeout | unauthenticated | identityUnavailable | identityChanged | tooMany
  | tooManyPending | badFrame | shutdown
  deriving DecidableEq, Repr

/-- `CLOSE_REASONS`. -/
def CloseReason.told : CloseReason → Nat × String
  | .authTimeout => (4408, "No auth frame in time.")
  | .unauthenticated => (4401, "Not signed in, or the session has ended.")
  | .identityUnavailable => (4503, "Could not verify your identity. Try again shortly.")
  | .identityChanged => (4401, "The account changed. Sign in again.")
  | .tooMany => (4429, "Too many chat sockets are open.")
  | .tooManyPending => (4429, "Too many chat sockets are waiting to sign in.")
  | .badFrame => (4400, "Only one auth frame is accepted.")
  | .shutdown => (1001, "The service is stopping.")

inductive Ending where
  | closed (reason : CloseReason)
  | clientClosed
  | noPong
  deriving DecidableEq, Repr

/-- What `authenticate` throws. -/
inductive AuthError where
  | api (code : String)
  | other
  deriving DecidableEq, Repr

def refusal (err : AuthError) : CloseReason :=
  if err = .api "IDENTITY_UNAVAILABLE" then .identityUnavailable else .unauthenticated

inductive SocketState where
  | awaitingAuth (authTimer : TimerId)
  | authenticating (authTimer : TimerId)
  | openFor (userId : UserId) (token : Token) (recheckTimer : TimerId)
      (expiryTimer : Option TimerId)
  | closed
  deriving DecidableEq, Repr

structure ChatSocket where
  state : SocketState
  alive : Bool
  deriving DecidableEq, Repr

/-- What a timer does when it fires. -/
inductive Task where
  | authTimeout (socket : SocketId)
  | recheck (socket : SocketId)
  | expiry (socket : SocketId)
  | beat
  deriving DecidableEq, Repr

structure Timer where
  due : Millis
  task : Task
  deriving DecidableEq, Repr

/-- What a peer was sent. -/
inductive Sent where
  | ready
  | messages (nudge : Nudge)
  | ping
  | close (code : Nat) (reason : String)
  | terminate
  deriving DecidableEq, Repr

/-- Which function awaits the answer. -/
inductive Purpose where
  | received | scheduleRecheck
  deriving DecidableEq, Repr

structure Ask where
  socket : SocketId
  token : Token
  purpose : Purpose
  deriving DecidableEq, Repr

/-- The answer of `authenticate`, and when it came. -/
structure Reply where
  answer : Except AuthError UserId
  time : Millis

structure Hub where
  now : Millis
  /-- Every socket the gateway holds, by its number. -/
  objects : List ChatSocket
  sockets : List SocketId
  pending : List SocketId
  byUser : UserId → List SocketId
  heartbeat : Option TimerId
  stopping : Bool
  timers : TimerId → Option Timer
  handles : TimerId
  calls : Calls Ask Reply
  told : List (SocketId × Sent)
  nudges : Nat
  closes : List Ending

namespace Hub

def initial (now : Millis) : Hub where
  now := now
  objects := []
  sockets := []
  pending := []
  byUser := fun _ => []
  heartbeat := none
  stopping := false
  timers := fun _ => none
  handles := 0
  calls := []
  told := []
  nudges := 0
  closes := []

def stateOf (hub : Hub) (socket : SocketId) : Option SocketState :=
  hub.objects[socket]?.map (·.state)

/-- `setTimeout` and `setInterval`: the timer and its handle. -/
def setTimeout (hub : Hub) (delay : Nat) (task : Task) : Hub :=
  { hub with
    timers := Function.update hub.timers hub.handles (some ⟨hub.now + delay, task⟩)
    handles := hub.handles + 1 }

def clearTimeout (hub : Hub) (timer : TimerId) : Hub :=
  { hub with timers := Function.update hub.timers timer none }

def setState (hub : Hub) (socket : SocketId) (state : SocketState) : Hub :=
  { hub with objects := hub.objects.modify socket fun object => { object with state } }

def setAlive (hub : Hub) (socket : SocketId) (alive : Bool) : Hub :=
  { hub with objects := hub.objects.modify socket fun object => { object with alive } }

def tell (hub : Hub) (socket : SocketId) (sent : Sent) : Hub :=
  { hub with told := hub.told ++ [(socket, sent)] }

/-- `delete` on the user's set; an empty set is no entry. -/
def unlist (hub : Hub) (userId : UserId) (socket : SocketId) : Hub :=
  { hub with
    byUser := Function.update hub.byUser userId ((hub.byUser userId).filter (· ≠ socket)) }

/-- What an ended socket gives back: its timers, and its place among its user's. -/
def release (hub : Hub) (socket : SocketId) : SocketState → Hub
  | .openFor userId _ recheckTimer expiryTimer =>
      ((match expiryTimer with
        | some expiryTimer => (hub.clearTimeout recheckTimer).clearTimeout expiryTimer
        | none => hub.clearTimeout recheckTimer) : Hub).unlist userId socket
  | .awaitingAuth authTimer => hub.clearTimeout authTimer
  | .authenticating authTimer => hub.clearTimeout authTimer
  | .closed => hub

def stopHeart (hub : Hub) : Hub :=
  match hub.heartbeat with
  | some timer => { hub.clearTimeout timer with heartbeat := none }
  | none => hub

/-- A socket that is gone is in no set; with the last one the pings stop. -/
def forget (hub : Hub) (socket : SocketId) : Hub :=
  let gone := { hub with
    sockets := hub.sockets.filter (· ≠ socket)
    pending := hub.pending.filter (· ≠ socket) }
  if gone.sockets = [] then gone.stopHeart else gone

/-- The ending is counted, and the peer told of it unless it is gone itself. -/
def farewell (hub : Hub) (socket : SocketId) (ending : Ending) : Hub :=
  let counted := { hub with closes := hub.closes ++ [ending] }
  match ending with
  | .noPong => counted.tell socket .terminate
  | .clientClosed => counted
  | .closed reason => counted.tell socket (.close reason.told.1 reason.told.2)

/-- `end`. -/
def endSocket (hub : Hub) (socket : SocketId) (ending : Ending) : Hub :=
  match hub.stateOf socket with
  | none => hub
  | some .closed => hub
  | some state =>
      (((hub.setState socket .closed).release socket state).forget socket).farewell socket ending

def endAll (hub : Hub) (ending : Ending) (sockets : List SocketId) : Hub :=
  sockets.foldl (fun hub socket => hub.endSocket socket ending) hub

def isAwaiting (hub : Hub) (socket : SocketId) : Bool :=
  match hub.stateOf socket with
  | some (.awaitingAuth _) => true
  | _ => false

def makeRoomToWait (options : SocketOptions) (hub : Hub) : Hub × Option CloseReason :=
  if hub.pending.length < options.pendingPerInstance then (hub, none)
  else
    match hub.pending.find? hub.isAwaiting with
    | some oldest => (hub.endSocket oldest (.closed .tooManyPending), none)
    | none => (hub, some .tooManyPending)

/-- The new socket and its auth timer. -/
def accept (options : SocketOptions) (hub : Hub) : Hub :=
  { hub.setTimeout options.authTimeoutMs (.authTimeout hub.objects.length) with
    objects := hub.objects ++ [⟨.awaitingAuth hub.handles, true⟩] }

/-- Whether the instance refuses one more socket, and what it closed for it. -/
def accommodate (options : SocketOptions) (hub : Hub) : Hub × Option CloseReason :=
  if hub.stopping then (hub, some .shutdown)
  else if options.perInstance ≤ hub.sockets.length then (hub, some .tooMany)
  else hub.makeRoomToWait options

def startHeart (options : SocketOptions) (hub : Hub) : Hub :=
  match hub.heartbeat with
  | some _ => hub
  | none => { hub.setTimeout options.pingMs .beat with heartbeat := some hub.handles }

def connect (options : SocketOptions) (hub : Hub) : Hub :=
  let socket := hub.objects.length
  let (room, refused) := (hub.accept options).accommodate options
  let held := { room with
    sockets := room.sockets ++ [socket]
    pending := room.pending ++ [socket] }
  match refused with
  | some reason => held.endSocket socket (.closed reason)
  | none => held.startHeart options

/-- `received` up to its `await`. -/
def received (hub : Hub) (socket : SocketId) (frame : Inbound) : Hub :=
  match hub.stateOf socket, frame with
  | some (.awaitingAuth authTimer), .auth token =>
      let asking := hub.setState socket (.authenticating authTimer)
      { asking with calls := ask asking.calls ⟨socket, token, .received⟩ }
  | some _, _ => hub.endSocket socket (.closed .badFrame)
  | none, _ => hub

def maxTimerMs : Int := 2147483647

section Answers

variable (options : SocketOptions) (tokenExpiry : Token → Option Millis)

/-- The timer of the token's expiry, where it has one within reach. -/
def scheduleExpiry (hub : Hub) (socket : SocketId) (untilExpiry : Option Int) :
    Hub × Option TimerId :=
  match untilExpiry with
  | none => (hub, none)
  | some delay =>
      if delay > maxTimerMs then (hub, none)
      else (hub.setTimeout delay.toNat (.expiry socket), some hub.handles)

/-- `open`. -/
def openSocket (hub : Hub) (socket : SocketId) (authTimer : TimerId) (userId : UserId)
    (token : Token) : Hub :=
  let cleared := hub.clearTimeout authTimer
  let left := { cleared with pending := cleared.pending.filter (· ≠ socket) }
  if options.perUser ≤ (left.byUser userId).length then left.endSocket socket (.closed .tooMany)
  else
    let untilExpiry := (tokenExpiry token).map (· - left.now)
    if untilExpiry.any (· ≤ 0) then left.endSocket socket (.closed .unauthenticated)
    else
      let (expiring, expiryTimer) := left.scheduleExpiry socket untilExpiry
      let opened := (expiring.setTimeout options.recheckMs (.recheck socket)).setState socket
        (.openFor userId token expiring.handles expiryTimer)
      { opened with
        byUser := Function.update opened.byUser userId (opened.byUser userId ++ [socket]) }.tell
          socket .ready

/-- `received` after its `await`: nothing, when the socket was closed meanwhile. A socket
starts signing in once, so one that is doing so is in the state it asked in. -/
def authenticated (hub : Hub) (socket : SocketId) (token : Token)
    (answer : Except AuthError UserId) : Hub :=
  match hub.stateOf socket, answer with
  | some (.authenticating _), .error err => hub.endSocket socket (.closed (refusal err))
  | some (.authenticating authTimer), .ok userId =>
      hub.openSocket options tokenExpiry socket authTimer userId token
  | _, _ => hub

/-- The recheck's callback after its `await`. A socket opens once, so one that is open
is in the state the check began with. -/
def rechecked (hub : Hub) (socket : SocketId) (answer : Except AuthError UserId) : Hub :=
  match hub.stateOf socket, answer with
  | some (.openFor _ _ _ _), .error err => hub.endSocket socket (.closed (refusal err))
  | some (.openFor userId token _ expiryTimer), .ok _ =>
      (hub.setTimeout options.recheckMs (.recheck socket)).setState socket
        (.openFor userId token hub.handles expiryTimer)
  | _, _ => hub

/-- An answer of `authenticate` reaches the function that awaits it. -/
def answered (hub : Hub) (call : Nat) (asked : Ask) (given : Except AuthError UserId) : Hub :=
  let known := { hub with calls := answer hub.calls call ⟨given, hub.now⟩ }
  match asked.purpose with
  | .received => known.authenticated options tokenExpiry asked.socket asked.token given
  | .scheduleRecheck => known.rechecked options asked.socket given

end Answers

/-- The recheck's callback up to its `await`. -/
def recheckDue (hub : Hub) (socket : SocketId) : Hub :=
  match hub.stateOf socket with
  | some (.openFor _ token _ _) =>
      { hub with calls := ask hub.calls ⟨socket, token, .scheduleRecheck⟩ }
  | _ => hub

def beatOne (hub : Hub) (socket : SocketId) : Hub :=
  match hub.objects[socket]? with
  | some ⟨_, true⟩ => (hub.setAlive socket false).tell socket .ping
  | some ⟨_, false⟩ => hub.endSocket socket .noPong
  | none => hub

def beat (hub : Hub) : Hub := hub.sockets.foldl beatOne hub

/-- A timer fires: an interval is set again, any other is gone. -/
def fired (options : SocketOptions) (hub : Hub) (handle : TimerId) (timer : Timer) : Hub :=
  match timer.task with
  | .authTimeout socket => (hub.clearTimeout handle).endSocket socket (.closed .authTimeout)
  | .expiry socket => (hub.clearTimeout handle).endSocket socket (.closed .unauthenticated)
  | .recheck socket => (hub.clearTimeout handle).recheckDue socket
  | .beat => { hub with
      timers := Function.update hub.timers handle
        (some ⟨hub.now + options.pingMs, .beat⟩) }.beat

def disconnected (hub : Hub) (socket : SocketId) : Hub := hub.endSocket socket .clientClosed

/-- The sockets of the users named, each user once; a socket that cannot be written to
is skipped. -/
def notify (hub : Hub) (userIds : List (Option UserId)) (nudge : Nudge)
    (broken : SocketId → Bool) : Hub :=
  let named := userIds.eraseDups.reduceOption.filter (· ≠ "")
  let reached := (named.flatMap hub.byUser).filter (!broken ·)
  { hub with
    told := hub.told ++ reached.map (·, .messages nudge)
    nudges := hub.nudges + reached.length }

def identityChanged (hub : Hub) (userId : UserId) : Hub :=
  hub.endAll (.closed .identityChanged) (hub.byUser userId)

def onModuleDestroy (hub : Hub) : Hub :=
  { hub with stopping := true }.endAll (.closed .shutdown) hub.sockets

end Hub

inductive Event where
  | connect
  | received (socket : SocketId) (frame : Inbound)
  | answered (call : Nat) (given : Except AuthError UserId)
  | fired (timer : TimerId)
  | pong (socket : SocketId)
  | disconnected (socket : SocketId)
  | notify (userIds : List (Option UserId)) (nudge : Nudge) (broken : SocketId → Bool)
  | identityChanged (userId : UserId)
  | onModuleDestroy
  | passes (ms : Nat)

section Turns

variable (options : SocketOptions) (tokenExpiry : Token → Option Millis)

/-- One event at the hub. A call answers once, and a timer fires when it is due or later. -/
def turn (hub : Hub) : Event → Option Hub
  | .connect => some (hub.connect options)
  | .received socket frame => some (hub.received socket frame)
  | .answered call given =>
      (waiting hub.calls call).map fun asked => hub.answered options tokenExpiry call asked given
  | .fired timer =>
      match hub.timers timer with
      | some found => if found.due ≤ hub.now then some (hub.fired options timer found) else none
      | none => none
  | .pong socket => some (hub.setAlive socket true)
  | .disconnected socket => some (hub.disconnected socket)
  | .notify userIds nudge broken => some (hub.notify userIds nudge broken)
  | .identityChanged userId => some (hub.identityChanged userId)
  | .onModuleDestroy => some hub.onModuleDestroy
  | .passes ms => some { hub with now := hub.now + ms }

end Turns

end Foc.Chat
