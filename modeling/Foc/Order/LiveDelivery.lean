import Mathlib
import Foc.Order.LiveHub

/-! What the live hub keeps over every run: its index of the open streams, when the board is
sent, and whom an errand's frame is for. -/
namespace Foc.Order.Live
open Library Library.EventLoop Library.TimerTable

/-! ## Invariants -/

def Hub.userOf (hub : Hub) (stream : StreamId) : Option String :=
  hub.opened[stream]?.map (·.userId)

/-- The open streams, their index and those that were ended. -/
structure Indexed (options : LiveOptions) (hub : Hub) : Prop where
  known : ∀ stream ∈ hub.streams, stream < hub.opened.length
  once : hub.streams.Nodup
  listed : ∀ userId stream, stream ∈ hub.byUser userId ↔
    stream ∈ hub.streams ∧ hub.userOf stream = some userId
  lists : ∀ userId, (hub.byUser userId).Nodup
  perInstance : hub.streams.length ≤ options.perInstance
  perUser : ∀ userId, (hub.byUser userId).length ≤ options.perUser
  endedOnce : hub.ended.Nodup
  gone : ∀ stream ∈ hub.ended, stream < hub.opened.length ∧ stream ∉ hub.streams
  stopped : hub.stopping = true → hub.streams = []

/-- Whose timer each handle is for, and when the board is sent and was. -/
structure Throttled (options : LiveOptions) (hub : Hub) : Prop where
  lifetimes : ∀ stream found, hub.opened[stream]? = some found →
    hub.timers.Held found.lifetime (.lifetime stream)
  keepAlive : ∀ handle, hub.keepAlive = some handle → hub.timers.Held handle .keepAlive
  pending : ∀ handle, hub.pendingBoard = some handle → ∃ last, hub.lastBoardAt = some last ∧
    hub.timers.armed handle = some ⟨last + options.boardIntervalMs, .board⟩ ∧
    hub.now ≤ last + options.boardIntervalMs
  awaited : ∀ handle timer, hub.timers.armed handle = some timer → timer.task = .board →
    hub.pendingBoard = some handle
  last : ∀ last, hub.lastBoardAt = some last → last ≤ hub.now
  latest : ∀ sent ∈ hub.boards, ∃ last, hub.lastBoardAt = some last ∧ sent ≤ last
  apart : hub.boards.Pairwise fun earlier later : Int => earlier + options.boardIntervalMs ≤ later

/-- Errand frames go to participants as they were read. -/
def Addressed (hub : Hub) : Prop :=
  ∀ stream orderId version, (stream, Frame.errand orderId version) ∈ hub.written →
    ∃ call change who userId, Answered hub.calls call change (.row (some who)) ∧
      change.orderId = orderId ∧ change.orderVersion = version ∧ hub.userOf stream = some userId ∧
      (userId = who.requesterId ∨ some userId = who.courierId)


section Delivery

variable {options : LiveOptions} {hub after : Hub} {stream other : StreamId} {handle : Nat}

/-! ## Releasing -/

/-- What releasing an open stream changes, and all of it. -/
structure Released (hub : Hub) (stream : StreamId) (ends : Bool) (after : Hub) : Prop where
  streams : after.streams = hub.streams.filter (· ≠ stream)
  byUser : ∀ userId, after.byUser userId = if hub.userOf stream = some userId
    then (hub.byUser userId).filter (· ≠ stream) else hub.byUser userId
  ended : after.ended = hub.ended ++ if ends then [stream] else []
  opened : after.opened = hub.opened
  now : after.now = hub.now
  lastBoardAt : after.lastBoardAt = hub.lastBoardAt
  pendingBoard : after.pendingBoard = hub.pendingBoard
  stopping : after.stopping = hub.stopping
  calls : after.calls = hub.calls
  written : after.written = hub.written
  boards : after.boards = hub.boards
  keepAlive : after.keepAlive = hub.keepAlive ∨ after.keepAlive = none
  next : after.timers.next = hub.timers.next
  timers : ∀ handle, after.timers.armed handle = hub.timers.armed handle ∨
    after.timers.armed handle = none ∧ (hub.keepAlive = some handle ∨
      ∃ found, hub.opened[stream]? = some found ∧ handle = found.lifetime)

theorem release_closed (closed : stream ∉ hub.streams) (ends : Bool) :
    hub.release stream ends = hub := by
  unfold Hub.release
  split
  · rfl
  · exact if_neg closed

theorem forget_released {found : Stream} (known : hub.opened[stream]? = some found) :
    Released hub stream false ({ hub with
      timers := hub.timers.clearTimeout found.lifetime }.forget stream found.userId) := by
  have owner : hub.userOf stream = some found.userId := by
    rw [Hub.userOf, known]
    rfl
  have byUser : ∀ userId, Function.update hub.byUser found.userId
      ((hub.byUser found.userId).filter (· ≠ stream)) userId =
        if hub.userOf stream = some userId then (hub.byUser userId).filter (· ≠ stream)
        else hub.byUser userId := by
    intro userId
    rw [Function.update_apply, owner]
    by_cases same : userId = found.userId
    · simp [same]
    · simp [same, Ne.symm same]
  have timers : ∀ handle, (hub.timers.clearTimeout found.lifetime).armed handle =
      hub.timers.armed handle ∨ (hub.timers.clearTimeout found.lifetime).armed handle = none ∧
        handle = found.lifetime := by
    intro handle
    rw [Timers.clear_armed]
    split
    · exact .inr ⟨rfl, ‹_›⟩
    · exact .inl rfl
  have mine : ∀ handle, (hub.timers.clearTimeout found.lifetime).armed handle =
      hub.timers.armed handle ∨ (hub.timers.clearTimeout found.lifetime).armed handle = none ∧
        (hub.keepAlive = some handle ∨
          ∃ found, hub.opened[stream]? = some found ∧ handle = found.lifetime) := by
    intro handle
    rcases timers handle with same | ⟨cleared, is⟩
    · exact .inl same
    · exact .inr ⟨cleared, .inr ⟨found, known, is⟩⟩
  unfold Hub.forget
  dsimp only
  split
  · split
    · rename_i timer beats
      refine ⟨rfl, byUser, (List.append_nil _).symm, rfl, rfl, rfl, rfl, rfl, rfl, rfl, rfl,
        .inr rfl, rfl, ?_⟩
      intro handle
      dsimp only
      rw [Timers.clear_armed]
      split
      · rename_i same
        exact .inr ⟨rfl, .inl (same ▸ beats)⟩
      · exact mine handle
    · exact ⟨rfl, byUser, (List.append_nil _).symm, rfl, rfl, rfl, rfl, rfl, rfl, rfl, rfl,
        .inl rfl, rfl, mine⟩
  · exact ⟨rfl, byUser, (List.append_nil _).symm, rfl, rfl, rfl, rfl, rfl, rfl, rfl, rfl,
      .inl rfl, rfl, mine⟩

theorem release_released (held : stream ∈ hub.streams) (known : stream < hub.opened.length)
    (ends : Bool) : Released hub stream ends (hub.release stream ends) := by
  have found : hub.opened[stream]? = some hub.opened[stream] := List.getElem?_eq_getElem known
  have forgot := forget_released found
  unfold Hub.release
  rw [found]
  dsimp only
  rw [if_pos held]
  cases ends with
  | false => exact forgot
  | true =>
    have ended := forgot.ended.trans (List.append_nil _)
    exact { forgot with ended := congrArg (· ++ [stream]) ended }

theorem Released.indexed {ends : Bool} (released : Released hub stream ends after)
    (held : stream ∈ hub.streams) (indexed : Indexed options hub) : Indexed options after := by
  have users : ∀ other, after.userOf other = hub.userOf other := by
    intro other
    rw [Hub.userOf, released.opened]
    rfl
  have open_ : ∀ other, other ∈ after.streams ↔ other ∈ hub.streams ∧ other ≠ stream := by
    intro other
    rw [released.streams, List.mem_filter, decide_eq_true_eq]
  refine ⟨?_, ?_, ?_, ?_, ?_, ?_, ?_, ?_, ?_⟩
  · intro other member
    rw [released.opened]
    exact indexed.known other ((open_ other).mp member).1
  · rw [released.streams]
    exact indexed.once.filter _
  · intro userId other
    rw [released.byUser, open_, users]
    split
    · rw [List.mem_filter, decide_eq_true_eq, indexed.listed]
      tauto
    · rename_i another
      rw [indexed.listed]
      constructor
      · rintro ⟨member, owner⟩
        refine ⟨⟨member, ?_⟩, owner⟩
        rintro rfl
        exact another owner
      · rintro ⟨⟨member, -⟩, owner⟩
        exact ⟨member, owner⟩
  · intro userId
    rw [released.byUser]
    split
    · exact (indexed.lists userId).filter _
    · exact indexed.lists userId
  · rw [released.streams]
    exact (List.length_filter_le _ _).trans indexed.perInstance
  · intro userId
    rw [released.byUser]
    split
    · exact (List.length_filter_le _ _).trans (indexed.perUser userId)
    · exact indexed.perUser userId
  · rw [released.ended]
    split
    · rw [List.nodup_append]
      refine ⟨indexed.endedOnce, List.nodup_singleton _, ?_⟩
      rintro other before last member rfl
      rw [List.mem_singleton.mp member] at before
      exact (indexed.gone stream before).2 held
    · rw [List.append_nil]
      exact indexed.endedOnce
  · intro other member
    rw [released.ended, List.mem_append] at member
    rw [released.opened, open_]
    rcases member with before | now
    · obtain ⟨known, out⟩ := indexed.gone other before
      exact ⟨known, fun within => out within.1⟩
    · split at now
      · rw [List.mem_singleton.mp now]
        exact ⟨indexed.known stream held, fun within => within.2 rfl⟩
      · cases now
  · intro stopping
    rw [released.stopping] at stopping
    rw [released.streams, indexed.stopped stopping]
    rfl

/-- A timer that is no stream's lifetime and not the keep-alive's outlives a release. -/
theorem Released.spares {ends : Bool} {timer : Timer Task} (released : Released hub stream ends after)
    (throttled : Throttled options hub) (set : hub.timers.armed handle = some timer)
    (board : timer.task = .board) : after.timers.armed handle = some timer := by
  rcases released.timers handle with same | ⟨-, beats | ⟨found, known, is⟩⟩
  · exact same.trans set
  · have kept := (throttled.keepAlive handle beats).only timer set
    cases board.symm.trans kept
  · have mine := (throttled.lifetimes stream found known).only timer (is ▸ set)
    cases board.symm.trans mine

theorem Released.less {ends : Bool} {timer : Timer Task} (released : Released hub stream ends after)
    (set : after.timers.armed handle = some timer) : hub.timers.armed handle = some timer := by
  rcases released.timers handle with same | ⟨cleared, -⟩
  · exact same.symm.trans set
  · cases cleared.symm.trans set

theorem Released.held {ends : Bool} {task : Task} (released : Released hub stream ends after)
    (held : hub.timers.Held handle task) : after.timers.Held handle task where
  old := released.next.symm ▸ held.old
  only := fun timer set => held.only timer (released.less set)

theorem Released.throttled {ends : Bool} (released : Released hub stream ends after)
    (throttled : Throttled options hub) : Throttled options after where
  lifetimes := by
    intro other found known
    rw [released.opened] at known
    exact released.held (throttled.lifetimes other found known)
  keepAlive := by
    intro handle beats
    rcases released.keepAlive with same | none_
    · exact released.held (throttled.keepAlive handle (same.symm.trans beats))
    · cases none_.symm.trans beats
  pending := by
    intro handle waits
    rw [released.pendingBoard] at waits
    obtain ⟨last, sent, set, now⟩ := throttled.pending handle waits
    exact ⟨last, released.lastBoardAt.trans sent, released.spares throttled set rfl,
      released.now.symm ▸ now⟩
  awaited := by
    intro handle timer set board
    rw [released.pendingBoard]
    exact throttled.awaited handle timer (released.less set) board
  last := by
    rw [released.lastBoardAt, released.now]
    exact throttled.last
  latest := by
    rw [released.boards, released.lastBoardAt]
    exact throttled.latest
  apart := by
    rw [released.boards]
    exact throttled.apart

theorem Released.addressed {ends : Bool} (released : Released hub stream ends after)
    (addressed : Addressed hub) : Addressed after := by
  intro other orderId version sent
  rw [released.written] at sent
  rw [released.calls, Hub.userOf, released.opened]
  exact addressed other orderId version sent

/-- The invariants of the hub, in one. -/
structure Sound (options : LiveOptions) (hub : Hub) : Prop where
  indexed : Indexed options hub
  throttled : Throttled options hub
  addressed : Addressed hub

theorem release_sound (sound : Sound options hub) (ends : Bool) :
    Sound options (hub.release stream ends) := by
  by_cases held : stream ∈ hub.streams
  · have released := release_released held (sound.indexed.known stream held) ends
    exact ⟨released.indexed held sound.indexed, released.throttled sound.throttled,
      released.addressed sound.addressed⟩
  · rw [release_closed held]
    exact sound

/-! ## Opening -/

/-- What the index is read from is as it was. -/
theorem Indexed.same (indexed : Indexed options hub) (opened : after.opened = hub.opened)
    (streams : after.streams = hub.streams) (byUser : after.byUser = hub.byUser)
    (ended : after.ended = hub.ended) (stopping : after.stopping = hub.stopping) :
    Indexed options after := by
  have users : after.userOf = hub.userOf := by
    funext stream
    rw [Hub.userOf, opened]
    rfl
  refine ⟨?_, streams ▸ indexed.once, ?_, byUser ▸ indexed.lists, streams ▸ indexed.perInstance,
    byUser ▸ indexed.perUser, ended ▸ indexed.endedOnce, ?_, ?_⟩
  · rw [streams, opened]
    exact indexed.known
  · rw [streams, byUser, users]
    exact indexed.listed
  · rw [ended, streams, opened]
    exact indexed.gone
  · rw [stopping, streams]
    exact indexed.stopped

/-- Frames that are no errand's are for anyone. -/
theorem Addressed.more {frames : List (StreamId × Frame)} (addressed : Addressed hub)
    (opened : after.opened = hub.opened) (calls : after.calls = hub.calls)
    (written : after.written = hub.written ++ frames)
    (plain : ∀ stream orderId version, (stream, Frame.errand orderId version) ∉ frames) :
    Addressed after := by
  intro stream orderId version sent
  rw [written, List.mem_append] at sent
  rw [calls, Hub.userOf, opened]
  rcases sent with before | now
  · exact addressed stream orderId version before
  · exact absurd now (plain stream orderId version)

/-- A new timer that is not the board's leaves the board's waiting as it was. -/
theorem Throttled.sets {task : Task} {ms : Int} (throttled : Throttled options hub)
    (plain : task ≠ .board) :
    Throttled options { hub with timers := hub.timers.setTimeout hub.now ms task } where
  lifetimes := fun stream found known => (throttled.lifetimes stream found known).set
  keepAlive := fun handle beats => (throttled.keepAlive handle beats).set
  pending := by
    intro handle waits
    obtain ⟨last, sent, set, now⟩ := throttled.pending handle waits
    refine ⟨last, sent, ?_, now⟩
    rw [Timers.set_armed, if_neg (Nat.ne_of_lt (Timers.armed_old set))]
    exact set
  awaited := by
    intro handle timer set board
    rw [Timers.set_armed] at set
    split at set
    · cases set
      exact absurd board plain
    · exact throttled.awaited handle timer set board
  last := throttled.last
  latest := throttled.latest
  apart := throttled.apart

theorem unrefused {userId : String} (taken : hub.refusal options userId = none) :
    hub.stopping = false ∧ hub.streams.length < options.perInstance ∧
      (hub.byUser userId).length < options.perUser := by
  unfold Hub.refusal at taken
  split at taken
  · cases taken
  · rename_i takes
    split at taken
    · cases taken
    · rename_i space
      simp only [not_or, Bool.not_eq_true, not_le] at takes
      exact ⟨takes.2.1, takes.2.2, Nat.lt_of_not_le space⟩

theorem nodup_append_new {streams : List StreamId} (once : streams.Nodup) (new : stream ∉ streams) :
    (streams ++ [stream]).Nodup := by
  rw [List.nodup_append]
  refine ⟨once, List.nodup_singleton _, ?_⟩
  rintro other before last member rfl
  rw [List.mem_singleton.mp member] at before
  exact new before

theorem enter_user {userId : String} : (hub.enter options userId).userOf stream =
    if stream = hub.opened.length then some userId else hub.userOf stream := by
  unfold Hub.userOf Hub.enter
  by_cases new : stream = hub.opened.length
  · simp [new]
  · rw [if_neg new]
    rcases Nat.lt_or_ge stream hub.opened.length with before | past
    · rw [List.getElem?_append_left before]
    · have beyond : hub.opened.length + 1 ≤ stream := Nat.lt_of_le_of_ne past (Ne.symm new)
      rw [List.getElem?_eq_none past, List.getElem?_eq_none (by simpa using beyond)]

theorem enter_indexed {userId : String} (indexed : Indexed options hub)
    (taken : hub.refusal options userId = none) : Indexed options (hub.enter options userId) := by
  obtain ⟨going, space, own⟩ := unrefused taken
  have new : hub.opened.length ∉ hub.streams := by
    intro member
    exact Nat.lt_irrefl _ (indexed.known _ member)
  have unlisted : hub.opened.length ∉ hub.byUser userId := by
    intro member
    exact new ((indexed.listed userId _).mp member).1
  have longer : (hub.enter options userId).opened.length = hub.opened.length + 1 :=
    List.length_append
  have streams : ∀ other, other ∈ (hub.enter options userId).streams ↔
      other ∈ hub.streams ∨ other = hub.opened.length := by
    intro other
    rw [Hub.enter, List.mem_append, List.mem_singleton]
  have byUser : ∀ owner, (hub.enter options userId).byUser owner = if owner = userId
      then hub.byUser userId ++ [hub.opened.length] else hub.byUser owner :=
    fun owner => Function.update_apply ..
  refine ⟨?_, nodup_append_new indexed.once new, ?_, ?_, ?_, ?_, indexed.endedOnce, ?_, ?_⟩
  · intro other member
    rw [longer]
    rcases (streams other).mp member with before | rfl
    · exact Nat.lt_succ_of_lt (indexed.known other before)
    · exact Nat.lt_succ_self _
  · intro owner other
    rw [byUser, streams, enter_user]
    by_cases is : other = hub.opened.length
    · subst is
      by_cases mine : owner = userId
      · simp [mine]
      · rw [if_neg mine, if_pos rfl]
        constructor
        · intro member
          exact absurd ((indexed.listed owner _).mp member).1 new
        · rintro ⟨-, same⟩
          exact absurd (Option.some.inj same).symm mine
    · rw [if_neg is]
      split
      · rename_i mine
        rw [mine, List.mem_append, List.mem_singleton, indexed.listed]
        tauto
      · rw [indexed.listed]
        tauto
  · intro owner
    rw [byUser]
    split
    · exact nodup_append_new (indexed.lists userId) unlisted
    · exact indexed.lists owner
  · rw [Hub.enter, List.length_append]
    exact space
  · intro owner
    rw [byUser]
    split
    · rw [List.length_append]
      exact own
    · exact indexed.perUser owner
  · intro other member
    obtain ⟨known, out⟩ := indexed.gone other member
    rw [longer, streams]
    refine ⟨Nat.lt_succ_of_lt known, ?_⟩
    rintro (before | rfl)
    · exact out before
    · exact Nat.lt_irrefl _ known
  · intro stopping
    rw [Hub.enter, going] at stopping
    cases stopping

theorem enter_throttled {userId : String} (throttled : Throttled options hub) :
    Throttled options (hub.enter options userId) := by
  have sets := @Throttled.sets options hub (.lifetime hub.opened.length) options.maxStreamMs
    throttled (by simp)
  refine ⟨?_, sets.keepAlive, sets.pending, sets.awaited, sets.last, sets.latest, sets.apart⟩
  intro other found known
  by_cases new : other = hub.opened.length
  · subst new
    have is : some (Stream.mk userId hub.timers.next) = some found := by
      rw [← known]
      simp [Hub.enter]
    cases is
    exact Timers.held_new
  · have before : hub.opened[other]? = some found := by
      rw [← known, Hub.enter]
      rcases Nat.lt_or_ge other hub.opened.length with old | past
      · rw [List.getElem?_append_left old]
      · have beyond : hub.opened.length + 1 ≤ other := Nat.lt_of_le_of_ne past (Ne.symm new)
        rw [List.getElem?_eq_none past, List.getElem?_eq_none (by simpa using beyond)]
    exact sets.lifetimes other found before

theorem enter_addressed {userId : String} (addressed : Addressed hub) :
    Addressed (hub.enter options userId) := by
  intro other orderId version sent
  obtain ⟨call, change, who, owner, answered, order, versioned, user, participant⟩ :=
    addressed other orderId version sent
  refine ⟨call, change, who, owner, answered, order, versioned, ?_, participant⟩
  rw [enter_user, if_neg, user]
  rintro rfl
  simp [Hub.userOf] at user

theorem beats_throttled (throttled : Throttled options hub) :
    Throttled options (hub.startKeepAlive options) := by
  unfold Hub.startKeepAlive
  split
  · exact throttled
  · have sets := @Throttled.sets options hub .keepAlive options.keepAliveMs throttled (by simp)
    refine ⟨sets.lifetimes, ?_, sets.pending, sets.awaited, sets.last, sets.latest, sets.apart⟩
    intro handle beats
    cases beats
    exact Timers.held_new

theorem beats_same : (hub.startKeepAlive options).opened = hub.opened ∧
    (hub.startKeepAlive options).streams = hub.streams ∧
    (hub.startKeepAlive options).byUser = hub.byUser ∧
    (hub.startKeepAlive options).ended = hub.ended ∧
    (hub.startKeepAlive options).stopping = hub.stopping ∧
    (hub.startKeepAlive options).calls = hub.calls ∧
    (hub.startKeepAlive options).written = hub.written := by
  unfold Hub.startKeepAlive
  split <;> exact ⟨rfl, rfl, rfl, rfl, rfl, rfl, rfl⟩

theorem open_sound {userId : String} (sound : Sound options hub) :
    Sound options (hub.openStream options userId) := by
  unfold Hub.openStream
  split
  · obtain ⟨indexed, throttled, addressed⟩ := sound
    exact ⟨indexed.same rfl rfl rfl rfl rfl, ⟨throttled.lifetimes, throttled.keepAlive,
      throttled.pending, throttled.awaited, throttled.last, throttled.latest, throttled.apart⟩,
      addressed⟩
  · rename_i taken
    have indexed := enter_indexed sound.indexed taken
    have throttled := beats_throttled (@enter_throttled options hub userId sound.throttled)
    have addressed := @enter_addressed options hub userId sound.addressed
    obtain ⟨opened, streams, byUser, ended, stopping, calls, written⟩ :=
      @beats_same options (hub.enter options userId)
    refine ⟨indexed.same opened streams byUser ended stopping, ⟨throttled.lifetimes,
      throttled.keepAlive, throttled.pending, throttled.awaited, throttled.last, throttled.latest,
      throttled.apart⟩, ?_⟩
    have frames : (((hub.enter options userId).startKeepAlive options).write hub.opened.length
        .ready).written = (hub.enter options userId).written ++ [(hub.opened.length, .ready)] :=
      congrArg (· ++ [(hub.opened.length, Frame.ready)]) written
    exact addressed.more opened calls frames (by simp)

/-! ## The board -/

/-- A board frame on every open stream. -/
structure Boards (hub after : Hub) : Prop where
  streams : after.streams = hub.streams
  written : after.written = hub.written ++ hub.streams.map (·, .board)
  boards : after.boards = hub.boards ++ [hub.now]

theorem board_frames (streams : List StreamId) (frame : Frame)
    (plain : ∀ orderId version, frame ≠ .errand orderId version) (stream : StreamId)
    (orderId : String) (version : Option Nat) :
    (stream, Frame.errand orderId version) ∉ streams.map (·, frame) := by
  intro member
  obtain ⟨other, -, same⟩ := List.mem_map.mp member
  exact plain orderId version (congrArg Prod.snd same)

/-- The board may be sent once no timer waits to, an interval after it was. -/
theorem send_sound (sound : Sound options hub) (idle : hub.pendingBoard = none)
    (rested : ∀ last, hub.lastBoardAt = some last → last + options.boardIntervalMs ≤ hub.now) :
    Sound options hub.sendBoard := by
  obtain ⟨indexed, throttled, addressed⟩ := sound
  refine ⟨indexed.same rfl rfl rfl rfl rfl, ⟨throttled.lifetimes, throttled.keepAlive, ?_,
    throttled.awaited, ?_, ?_, ?_⟩, ?_⟩
  · intro handle waits
    cases idle.symm.trans waits
  · intro last sent
    cases sent
    exact Int.le_refl _
  · intro sent member
    refine ⟨hub.now, rfl, ?_⟩
    rcases List.mem_append.mp member with before | now
    · obtain ⟨last, is, le⟩ := throttled.latest sent before
      exact le.trans (throttled.last last is)
    · exact le_of_eq (List.mem_singleton.mp now)
  · have grown : hub.sendBoard.boards = hub.boards ++ [hub.now] := rfl
    rw [grown, List.pairwise_append]
    refine ⟨throttled.apart, List.pairwise_singleton _ _, ?_⟩
    intro sent before now member
    rw [List.mem_singleton.mp member]
    obtain ⟨last, is, le⟩ := throttled.latest sent before
    have rest := rested last is
    omega
  · exact addressed.more rfl rfl rfl (board_frames hub.streams .board (by simp))

/-- The timer for the board is for the end of the interval that runs. -/
theorem board_sound (short : options.boardIntervalMs ≤ Timers.maxDelay) (sound : Sound options hub) :
    Sound options (hub.board options) := by
  unfold Hub.board
  split
  · exact sound
  · rename_i idle unsent
    refine send_sound sound idle ?_
    intro last sent
    cases unsent.symm.trans sent
  · rename_i last idle sent
    dsimp only
    split
    · rename_i rested
      refine send_sound sound idle ?_
      intro other is
      cases sent.symm.trans is
      omega
    · rename_i waits
      obtain ⟨indexed, throttled, addressed⟩ := sound
      have before := throttled.last last sent
      have delay : Timers.delayOf (last + options.boardIntervalMs - hub.now) =
          last + options.boardIntervalMs - hub.now := Timers.delay_within (by omega) (by omega)
      refine ⟨indexed.same rfl rfl rfl rfl rfl, ⟨?_, ?_, ?_, ?_, throttled.last, throttled.latest,
        throttled.apart⟩, addressed⟩
      · exact fun stream found known => (throttled.lifetimes stream found known).set
      · exact fun handle beats => (throttled.keepAlive handle beats).set
      · intro handle waiting
        cases waiting
        refine ⟨last, sent, ?_, by dsimp only; omega⟩
        rw [Timers.set_armed, if_pos rfl, delay]
        congr 2
        omega
      · intro handle timer set board
        dsimp only at set
        rw [Timers.set_armed] at set
        split at set
        · rename_i is
          rw [is]
        · cases idle.symm.trans (throttled.awaited handle timer set board)

/-- What follows a change of the open list: the board is sent at once, or waits for the end of
an interval that began before. -/
theorem board_follows : Boards hub (hub.board options) ∨
    (hub.board options).streams = hub.streams ∧
      ∃ handle, (hub.board options).pendingBoard = some handle := by
  unfold Hub.board
  split
  · rename_i handle waits
    exact .inr ⟨rfl, handle, waits⟩
  · exact .inl ⟨rfl, rfl, rfl⟩
  · dsimp only
    split
    · exact .inl ⟨rfl, rfl, rfl⟩
    · exact .inr ⟨rfl, _, rfl⟩

theorem ask_sound {change : StatusChanged} (sound : Sound options hub) :
    Sound options { hub with calls := ask hub.calls change } := by
  obtain ⟨indexed, throttled, addressed⟩ := sound
  refine ⟨indexed.same rfl rfl rfl rfl rfl, ⟨throttled.lifetimes, throttled.keepAlive,
    throttled.pending, throttled.awaited, throttled.last, throttled.latest, throttled.apart⟩, ?_⟩
  intro stream orderId version sent
  obtain ⟨call, asked, who, userId, answered, rest⟩ := addressed stream orderId version sent
  exact ⟨call, asked, who, userId, answered_ask.mpr answered, rest⟩

theorem changed_sound {change : StatusChanged} (short : options.boardIntervalMs ≤ Timers.maxDelay)
    (sound : Sound options hub) : Sound options (hub.changed options change) := by
  unfold Hub.changed
  split
  · exact sound
  · dsimp only
    split
    · exact ask_sound (board_sound short sound)
    · exact ask_sound sound

/-! ## Nudges -/

theorem streams_of (indexed : Indexed options hub) {who : Participants}
    (member : stream ∈ hub.streamsOf who) : ∃ userId, hub.userOf stream = some userId ∧
      (userId = who.requesterId ∨ some userId = who.courierId) := by
  obtain ⟨userId, named, listed⟩ := List.mem_flatMap.mp member
  refine ⟨userId, ((indexed.listed userId stream).mp listed).2, ?_⟩
  have named := List.mem_of_mem_filter named
  rw [List.reduceOption_mem_iff, List.mem_eraseDups] at named
  rcases List.mem_cons.mp named with requester | courier
  · exact .inl (Option.some.inj requester)
  · exact .inr (List.mem_singleton.mp courier)

theorem read_sound {call : Nat} {change : StatusChanged} {given : Read} (sound : Sound options hub)
    (waits : waiting hub.calls call = some change) : Sound options (hub.read call change given) := by
  have answered : Sound options { hub with calls := answer hub.calls call given } := by
    obtain ⟨indexed, throttled, addressed⟩ := sound
    refine ⟨indexed.same rfl rfl rfl rfl rfl, ⟨throttled.lifetimes, throttled.keepAlive,
      throttled.pending, throttled.awaited, throttled.last, throttled.latest, throttled.apart⟩, ?_⟩
    intro stream orderId version sent
    obtain ⟨other, asked, who, userId, before, rest⟩ := addressed stream orderId version sent
    exact ⟨other, asked, who, userId, (answered_answer waits).mpr (.inl before), rest⟩
  obtain ⟨indexed, throttled, addressed⟩ := answered
  unfold Hub.read Hub.nudge
  split
  · exact ⟨indexed.same rfl rfl rfl rfl rfl, ⟨throttled.lifetimes, throttled.keepAlive,
      throttled.pending, throttled.awaited, throttled.last, throttled.latest, throttled.apart⟩,
      addressed⟩
  · exact ⟨indexed, throttled, addressed⟩
  · rename_i who
    refine ⟨indexed.same rfl rfl rfl rfl rfl, ⟨throttled.lifetimes, throttled.keepAlive,
      throttled.pending, throttled.awaited, throttled.last, throttled.latest, throttled.apart⟩, ?_⟩
    intro stream orderId version sent
    rcases List.mem_append.mp sent with before | now
    · exact addressed stream orderId version before
    · obtain ⟨reached, member, same⟩ := List.mem_map.mp now
      cases same
      obtain ⟨userId, user, participant⟩ := streams_of indexed member
      exact ⟨call, change, who, userId, (answered_answer waits).mpr (.inr ⟨rfl, rfl, rfl⟩), rfl,
        rfl, user, participant⟩

/-! ## Timers -/

theorem cleared_sound (sound : Sound options hub) (plain : hub.pendingBoard ≠ some handle) :
    Sound options { hub with timers := hub.timers.clearTimeout handle } := by
  obtain ⟨indexed, throttled, addressed⟩ := sound
  refine ⟨indexed.same rfl rfl rfl rfl rfl, ⟨?_, ?_, ?_, ?_, throttled.last, throttled.latest,
    throttled.apart⟩, addressed⟩
  · exact fun stream found known => (throttled.lifetimes stream found known).clear
  · exact fun other beats => (throttled.keepAlive other beats).clear
  · intro other waits
    obtain ⟨last, sent, set, now⟩ := throttled.pending other waits
    refine ⟨last, sent, ?_, now⟩
    rw [Timers.clear_armed, if_neg, set]
    rintro rfl
    exact plain waits
  · intro other timer set board
    dsimp only at set
    rw [Timers.clear_armed] at set
    exact throttled.awaited other timer (Option.ite_none_left_eq_some.mp set).2 board

/-- The board's timer is gone, and nothing waits for it. -/
theorem unawaited_sound (sound : Sound options hub) (waits : hub.pendingBoard = some handle) :
    Sound options { hub with
      timers := hub.timers.clearTimeout handle, pendingBoard := none } := by
  obtain ⟨indexed, throttled, addressed⟩ := sound
  refine ⟨indexed.same rfl rfl rfl rfl rfl, ⟨?_, ?_, ?_, ?_, throttled.last, throttled.latest,
    throttled.apart⟩, addressed⟩
  · exact fun stream found known => (throttled.lifetimes stream found known).clear
  · exact fun other beats => (throttled.keepAlive other beats).clear
  · intro other waits
    cases waits
  · intro other timer set board
    dsimp only at set
    rw [Timers.clear_armed] at set
    obtain ⟨apart, set⟩ := Option.ite_none_left_eq_some.mp set
    cases waits.symm.trans (throttled.awaited other timer set board)
    exact absurd rfl apart

theorem fired_sound {timer : Timer Task} (sound : Sound options hub)
    (set : hub.timers.armed handle = some timer) (due : timer.due ≤ hub.now) :
    Sound options (hub.fired options handle timer.task) := by
  have plain : timer.task ≠ .board → hub.pendingBoard ≠ some handle := by
    intro other waits
    obtain ⟨last, -, board, -⟩ := sound.throttled.pending handle waits
    cases set.symm.trans board
    exact other rfl
  unfold Hub.fired
  cases task : timer.task with
  | lifetime stream => exact release_sound (cleared_sound sound (plain (by simp [task]))) true
  | keepAlive =>
    obtain ⟨indexed, throttled, addressed⟩ := sound
    refine ⟨indexed.same rfl rfl rfl rfl rfl, ⟨?_, ?_, ?_, ?_, throttled.last, throttled.latest,
      throttled.apart⟩, addressed.more rfl rfl rfl (board_frames hub.streams .keepAlive (by simp))⟩
    · exact fun stream found known => (throttled.lifetimes stream found known).again
    · exact fun other beats => (throttled.keepAlive other beats).again
    · intro other waits
      obtain ⟨last, sent, armed, now⟩ := throttled.pending other waits
      refine ⟨last, sent, ?_, now⟩
      have apart : other ≠ handle := by
        rintro rfl
        exact plain (by simp [task]) waits
      exact (Timers.again_armed.trans (if_neg apart)).trans armed
    · intro other again armed board
      have armed := Timers.again_armed.symm.trans armed
      split at armed
      · rw [set] at armed
        cases armed
        cases task.symm.trans board
      · exact throttled.awaited other again armed board
  | board =>
    have waits := sound.throttled.awaited handle timer set task
    obtain ⟨last, sent, armed, -⟩ := sound.throttled.pending handle waits
    refine send_sound (unawaited_sound sound waits) rfl ?_
    intro other is
    cases sent.symm.trans is
    cases set.symm.trans armed
    exact due

/-! ## Shutdown -/

theorem forget_stopping (userId : String) (stopping : Bool) :
    { hub with stopping := stopping }.forget stream userId =
      { hub.forget stream userId with stopping := stopping } := by
  unfold Hub.forget
  dsimp only
  by_cases last : hub.streams.filter (· ≠ stream) = []
  · rw [if_pos last, if_pos last]
    cases hub.keepAlive <;> rfl
  · rw [if_neg last, if_neg last]

theorem release_stopping (ends stopping : Bool) :
    { hub with stopping := stopping }.release stream ends =
      { hub.release stream ends with stopping := stopping } := by
  unfold Hub.release
  cases hub.opened[stream]? with
  | none => rfl
  | some found =>
    dsimp only
    by_cases held : stream ∈ hub.streams
    · rw [if_pos held, if_pos held]
      have forgot := @forget_stopping { hub with timers := hub.timers.clearTimeout found.lifetime }
        stream found.userId stopping
      dsimp only at forgot
      rw [forgot]
      cases ends <;> rfl
    · rw [if_neg held, if_neg held]

theorem release_all_stopping (streams : List StreamId) (stopping : Bool) :
    { hub with stopping := stopping }.releaseAll streams =
      { hub.releaseAll streams with stopping := stopping } := by
  induction streams generalizing hub with
  | nil => rfl
  | cons stream rest ih =>
    have one := @release_stopping hub stream true stopping
    rw [Hub.releaseAll, List.foldl_cons, one]
    exact ih

theorem release_all_sound (sound : Sound options hub) (streams : List StreamId) :
    Sound options (hub.releaseAll streams) ∧
      ∀ stream, stream ∈ (hub.releaseAll streams).streams ↔ stream ∈ hub.streams ∧ stream ∉ streams := by
  induction streams generalizing hub with
  | nil => exact ⟨sound, fun stream => by simp [Hub.releaseAll]⟩
  | cons first rest ih =>
    have released : Sound options (hub.release first true) := release_sound sound true
    obtain ⟨kept, remain⟩ := ih released
    refine ⟨kept, ?_⟩
    intro stream
    refine (remain stream).trans ?_
    by_cases held : first ∈ hub.streams
    · have released := release_released held (sound.indexed.known first held) true
      rw [released.streams, List.mem_filter, decide_eq_true_eq, List.mem_cons, not_or]
      tauto
    · rw [release_closed held, List.mem_cons, not_or]
      constructor
      · rintro ⟨within, out⟩
        refine ⟨within, ?_, out⟩
        rintro rfl
        exact held within
      · rintro ⟨within, -, out⟩
        exact ⟨within, out⟩

theorem forget_board_sound (sound : Sound options hub) : Sound options hub.forgetBoard := by
  unfold Hub.forgetBoard
  split
  · exact unawaited_sound sound ‹_›
  · exact sound

theorem destroy_sound (sound : Sound options hub) :
    Sound options hub.onModuleDestroy ∧ hub.onModuleDestroy.streams = [] := by
  obtain ⟨released, remain⟩ := release_all_sound sound hub.streams
  have none_ : (hub.releaseAll hub.streams).streams = [] := by
    apply List.eq_nil_iff_forall_not_mem.mpr
    intro stream member
    obtain ⟨within, out⟩ := (remain stream).mp member
    exact out within
  have stopped : Sound options { hub.releaseAll hub.streams with stopping := true } := by
    obtain ⟨indexed, throttled, addressed⟩ := released
    exact ⟨⟨indexed.known, indexed.once, indexed.listed, indexed.lists, indexed.perInstance,
      indexed.perUser, indexed.endedOnce, indexed.gone, fun _ => none_⟩, ⟨throttled.lifetimes,
      throttled.keepAlive, throttled.pending, throttled.awaited, throttled.last, throttled.latest,
      throttled.apart⟩, addressed⟩
  unfold Hub.onModuleDestroy
  rw [release_all_stopping]
  refine ⟨forget_board_sound stopped, ?_⟩
  unfold Hub.forgetBoard
  split <;> exact none_

/-! ## Every run -/

theorem turn_sound (short : options.boardIntervalMs ≤ Timers.maxDelay) (hub : Hub) (event : Event)
    (after : Hub) (sound : Sound options hub) (turned : turn options hub event = some after) :
    Sound options after := by
  cases event with
  | openStream userId =>
    cases turned
    exact open_sound sound
  | close stream =>
    cases turned
    exact release_sound sound false
  | changed change =>
    cases turned
    exact changed_sound short sound
  | read call given =>
    obtain ⟨change, waits, rfl⟩ := Option.map_eq_some_iff.mp turned
    exact read_sound sound waits
  | fired handle =>
    simp only [turn] at turned
    split at turned
    · rename_i timer set
      split at turned
      · rename_i due
        cases turned
        exact fired_sound sound set due
      · cases turned
    · cases turned
  | onModuleDestroy =>
    cases turned
    exact (destroy_sound sound).1
  | passes ms =>
    simp only [turn] at turned
    split at turned
    · rename_i punctual
      cases turned
      obtain ⟨indexed, throttled, addressed⟩ := sound
      refine ⟨indexed.same rfl rfl rfl rfl rfl, ⟨throttled.lifetimes, throttled.keepAlive, ?_,
        throttled.awaited, ?_, throttled.latest, throttled.apart⟩, addressed⟩
      · intro handle waits
        obtain ⟨last, sent, set, -⟩ := throttled.pending handle waits
        refine ⟨last, sent, set, ?_⟩
        simpa [Hub.punctual, show hub.pendingBoard = some handle from waits, set] using punctual
      · intro last sent
        exact (throttled.last last sent).trans (by dsimp only; omega)
    · cases turned

theorem initial_sound (now : Int) : Sound options (Hub.initial now) := by
  refine ⟨⟨?_, List.nodup_nil, ?_, fun _ => List.nodup_nil, Nat.zero_le _, fun _ => Nat.zero_le _,
    List.nodup_nil, ?_, fun _ => rfl⟩, ⟨?_, ?_, ?_, ?_, ?_, ?_, List.Pairwise.nil⟩, ?_⟩
  · intro stream member
    cases member
  · intro userId stream
    simp [Hub.initial]
  · intro stream member
    cases member
  · intro stream found known
    simp [Hub.initial] at known
  · intro handle beats
    cases beats
  · intro handle waits
    cases waits
  · intro handle timer set
    cases set
  · intro last sent
    cases sent
  · intro sent member
    cases member
  · intro stream orderId version sent
    cases sent

theorem run_sound {now : Int} (short : options.boardIntervalMs ≤ Timers.maxDelay)
    (run : Run (turn options) (Hub.initial now) hub) : Sound options hub :=
  run_keeps (turn_sound short) (initial_sound now) run

/-! ## Delivery -/

theorem release_waits {ends : Bool} (sound : Sound options hub)
    (waits : hub.pendingBoard = some handle) :
    (hub.release stream ends).pendingBoard = some handle ∧
      (hub.release stream ends).timers.armed handle = hub.timers.armed handle := by
  by_cases held : stream ∈ hub.streams
  · have released := release_released held (sound.indexed.known stream held) ends
    obtain ⟨last, -, set, -⟩ := sound.throttled.pending handle waits
    refine ⟨released.pendingBoard.trans waits, ?_⟩
    rw [set]
    exact released.spares sound.throttled set rfl
  · rw [release_closed held]
    exact ⟨waits, rfl⟩

/-- A board that waits is not given up: it waits on, or is sent, or the hub shuts down. -/
theorem turn_waits {event : Event} (sound : Sound options hub)
    (waits : hub.pendingBoard = some handle) (turned : turn options hub event = some after) :
    after.pendingBoard = some handle ∧ after.timers.armed handle = hub.timers.armed handle ∨
      Boards hub after ∨ event = .onModuleDestroy ∧ after.streams = [] := by
  obtain ⟨last, sent, armed, -⟩ := sound.throttled.pending handle waits
  have old : handle ≠ hub.timers.next := Nat.ne_of_lt (Timers.armed_old armed)
  cases event with
  | openStream userId =>
    cases turned
    refine .inl ?_
    unfold Hub.openStream
    split
    · exact ⟨waits, rfl⟩
    · have entered : (hub.enter options userId).timers.armed handle = hub.timers.armed handle :=
        Timers.set_armed.trans (if_neg old)
      unfold Hub.startKeepAlive
      split
      · exact ⟨waits, entered⟩
      · refine ⟨waits, Timers.set_armed.trans ((if_neg ?_).trans entered)⟩
        exact Nat.ne_of_lt (Nat.lt_succ_of_lt (Timers.armed_old armed))
  | close stream =>
    cases turned
    exact .inl (release_waits sound waits)
  | changed change =>
    cases turned
    refine .inl ?_
    have same : hub.board options = hub := by
      unfold Hub.board
      rw [waits]
    unfold Hub.changed
    rw [same, ite_self]
    split
    · exact ⟨waits, rfl⟩
    · exact ⟨waits, rfl⟩
  | read call given =>
    obtain ⟨change, -, rfl⟩ := Option.map_eq_some_iff.mp turned
    refine .inl ?_
    unfold Hub.read Hub.nudge
    split <;> exact ⟨waits, rfl⟩
  | fired other =>
    simp only [turn] at turned
    split at turned
    · rename_i timer set
      split at turned
      · cases turned
        have apart : timer.task ≠ .board → handle ≠ other := by
          rintro plain rfl
          cases set.symm.trans armed
          exact plain rfl
        unfold Hub.fired
        cases task : timer.task with
        | lifetime stream =>
          have plain := apart (by simp [task])
          have cleared : Sound options { hub with timers := hub.timers.clearTimeout other } := by
            refine cleared_sound sound ?_
            intro also
            exact plain (Option.some.inj (waits.symm.trans also))
          obtain ⟨still, same⟩ := @release_waits options _ stream handle true cleared waits
          exact .inl ⟨still, same.trans (Timers.clear_armed.trans (if_neg plain))⟩
        | keepAlive =>
          have plain := apart (by simp [task])
          exact .inl ⟨waits, Timers.again_armed.trans (if_neg plain)⟩
        | board => exact .inr (.inl ⟨rfl, rfl, rfl⟩)
      · cases turned
    · cases turned
  | onModuleDestroy =>
    cases turned
    exact .inr (.inr ⟨rfl, (destroy_sound sound).2⟩)
  | passes ms =>
    simp only [turn] at turned
    split at turned
    · cases turned
      exact .inl ⟨waits, rfl⟩
    · cases turned

/-- In a run, no later than a time, an event sent the board to every stream open then, or the
hub shut down. -/
def Sent (options : LiveOptions) (start : Hub) (deadline : Int) (hub : Hub) : Prop :=
  ∃ before event after, Run (turn options) start before ∧ before.now ≤ deadline ∧
    turn options before event = some after ∧ Run (turn options) after hub ∧
    (Boards before after ∨ event = .onModuleDestroy ∧ after.streams = [])

/-- A board that waits is sent by the time its timer is due. -/
theorem waits_sent {start : Hub} {timer : Timer Task} {first : Int}
    (short : options.boardIntervalMs ≤ Timers.maxDelay)
    (reached : Run (turn options) (Hub.initial first) start)
    (waits : start.pendingBoard = some handle) (set : start.timers.armed handle = some timer)
    (run : Run (turn options) start hub) :
    Sent options start timer.due hub ∨
      hub.pendingBoard = some handle ∧ hub.timers.armed handle = some timer := by
  induction run with
  | refl => exact .inr ⟨waits, set⟩
  | @next hub after event run turned ih =>
    rcases ih with ⟨before, other, next, reaches, early, turned', rest, sent⟩ | ⟨still, armed⟩
    · exact .inl ⟨before, other, next, reaches, early, turned', rest.next event turned, sent⟩
    · have sound : Sound options hub := run_sound short (run_append reached run)
      have punctual : hub.now ≤ timer.due := by
        obtain ⟨last, -, is, now⟩ := sound.throttled.pending handle still
        cases armed.symm.trans is
        exact now
      rcases turn_waits sound still turned with ⟨waits, same⟩ | sent
      · exact .inr ⟨waits, same.trans armed⟩
      · exact .inl ⟨hub, event, after, run, punctual, turned, .refl, sent⟩

/-- A change of the open list is followed by the board at once, or by a timer for it. -/
theorem changed_follows {change : StatusChanged} (short : options.boardIntervalMs ≤ Timers.maxDelay)
    (sound : Sound options hub) (joins : change.onBoard) (watched : hub.streams ≠ []) :
    Boards hub (hub.changed options change) ∨
      ∃ handle timer, (hub.changed options change).pendingBoard = some handle ∧
        (hub.changed options change).timers.armed handle = some timer ∧
        timer.due ≤ hub.now + options.boardIntervalMs := by
  have is : hub.changed options change =
      { hub.board options with calls := ask (hub.board options).calls change } := by
    unfold Hub.changed
    rw [if_neg watched, if_pos joins]
  rw [is]
  rcases @board_follows options hub with sent | ⟨-, handle, waits⟩
  · exact .inl ⟨sent.streams, sent.written, sent.boards⟩
  · have boarded : Sound options (hub.board options) := board_sound short sound
    obtain ⟨last, at_, set, -⟩ := boarded.throttled.pending handle waits
    have same : (hub.board options).now = hub.now := by
      unfold Hub.board
      split
      · rfl
      · rfl
      · dsimp only
        split <;> rfl
    have before := boarded.throttled.last last at_
    rw [same] at before
    refine .inr ⟨handle, _, waits, set, ?_⟩
    dsimp only
    omega

theorem turn_passes {ms : Nat} (free : hub.punctual (hub.now + ms) = true) :
    turn options hub (.passes ms) = some { hub with now := hub.now + ms } :=
  if_pos free

/-- Time is never stopped by a board that waits: it is sent, and time passes on. -/
theorem time_passes (sound : Sound options hub) (ms : Nat) :
    ∃ after, Run (turn options) hub after ∧ hub.now + ms ≤ after.now := by
  cases waits : hub.pendingBoard with
  | none =>
    have free : hub.punctual (hub.now + ms) = true := by
      simp [Hub.punctual, waits]
    exact ⟨_, Run.refl.next (.passes ms) (turn_passes free), Int.le_refl _⟩
  | some handle =>
    obtain ⟨last, sent, set, now⟩ := sound.throttled.pending handle waits
    -- The clock runs to the timer, which fires; none waits then, and it runs on.
    let early : Hub := { hub with
      now := hub.now + (last + options.boardIntervalMs - hub.now).toNat }
    have due : early.now = last + options.boardIntervalMs := by
      have is : early.now = hub.now + (last + options.boardIntervalMs - hub.now).toNat := rfl
      omega
    have first : turn options hub (.passes (last + options.boardIntervalMs - hub.now).toNat) =
        some early := by
      apply turn_passes
      simp only [Hub.punctual, waits, Option.bind_some, set, decide_eq_true_eq]
      omega
    have second : turn options early (.fired handle) = some (early.fired options handle .board) := by
      have armed : early.timers.armed handle = some ⟨last + options.boardIntervalMs, .board⟩ := set
      unfold turn
      dsimp only
      rw [armed]
      exact if_pos (le_of_eq due.symm)
    have free : (early.fired options handle .board).punctual (early.now + ms) = true := rfl
    have third := @turn_passes options (early.fired options handle .board) ms free
    have now_ : (early.fired options handle .board).now = early.now := rfl
    refine ⟨_, ((Run.refl.next _ first).next _ second).next _ third, ?_⟩
    dsimp only
    omega

/-- An errand's frame goes to its requester and courier as they were read. Each change of the
open list that open streams see is followed within the interval by the board on every stream
open then, unless the hub has shut down; and boards are an interval apart. The open streams are
within the bounds, indexed by their users, and ended at most once, with none left open. -/
theorem live_hub_delivers (options : LiveOptions)
    (short : options.boardIntervalMs ≤ Timers.maxDelay) (now : Int) (hub : Hub)
    (run : Run (turn options) (Hub.initial now) hub) :
    (∀ stream orderId version, (stream, Frame.errand orderId version) ∈ hub.written →
      ∃ call change who userId, Answered hub.calls call change (.row (some who)) ∧
        change.orderId = orderId ∧ change.orderVersion = version ∧
        hub.userOf stream = some userId ∧
        (userId = who.requesterId ∨ some userId = who.courierId)) ∧
    (∀ change after last, change.onBoard → hub.streams ≠ [] →
      turn options hub (.changed change) = some after → Run (turn options) after last →
      hub.now + options.boardIntervalMs < last.now →
        Boards hub after ∨ Sent options after (hub.now + options.boardIntervalMs) last) ∧
    (hub.boards.Pairwise fun earlier later : Int => earlier + options.boardIntervalMs ≤ later) ∧
    (hub.streams.Nodup ∧ hub.streams.length ≤ options.perInstance) ∧
    (∀ userId, (hub.byUser userId).Nodup ∧ (hub.byUser userId).length ≤ options.perUser) ∧
    (∀ userId stream, stream ∈ hub.byUser userId ↔
      stream ∈ hub.streams ∧ hub.userOf stream = some userId) ∧
    (hub.ended.Nodup ∧ ∀ stream ∈ hub.ended, stream ∉ hub.streams) := by
  have sound : Sound options hub := run_sound short run
  obtain ⟨indexed, throttled, addressed⟩ := sound
  refine ⟨addressed, ?_, throttled.apart, ⟨indexed.once, indexed.perInstance⟩,
    fun userId => ⟨indexed.lists userId, indexed.perUser userId⟩, indexed.listed,
    indexed.endedOnce, fun stream ended => (indexed.gone stream ended).2⟩
  intro change after last joins watched turned later past
  cases turned
  have sound : Sound options hub := ⟨indexed, throttled, addressed⟩
  rcases changed_follows short sound joins watched with sent | ⟨handle, timer, waits, set, due⟩
  · exact .inl sent
  · have reached := run.next (.changed change) rfl
    refine .inr ?_
    rcases waits_sent short reached waits set later with
      ⟨before, event, next, reaches, early, sent⟩ | ⟨still, armed⟩
    · exact ⟨before, event, next, reaches, early.trans due, sent⟩
    · have last_ : Sound options last := run_sound short (run_append reached later)
      obtain ⟨at_, -, is, punctual⟩ := last_.throttled.pending handle still
      cases armed.symm.trans is
      exact absurd (punctual.trans due) (not_le.mpr past)

/-- The limits of the design. -/
def liveOptions : LiveOptions where
  enabled := true
  maxStreamMs := 300000
  perUser := 5
  perInstance := 1000
  keepAliveMs := 20000
  boardIntervalMs := 1000

/-- Two errands join the open list at once: the second is sent when the interval has passed. -/
theorem burst_delivered : ∃ hub after last, hub.streams = [0] ∧
    turn liveOptions hub (.changed ⟨"o2", some .pendingCredit, .opened, none⟩) = some after ∧
    (Boards hub after ∨ Sent liveOptions after 1000 last) := by
  have ran : ((turns (turn liveOptions) (Hub.initial 0)
      [.openStream "u1", .changed ⟨"o1", some .pendingCredit, .opened, none⟩]).bind fun hub =>
        (turn liveOptions hub (.changed ⟨"o2", some .pendingCredit, .opened, none⟩)).bind
          fun after => (turns (turn liveOptions) after [.passes 1000, .fired 2, .passes 1]).map
            fun last => (hub.streams, hub.now, last.now)) = some ([0], 0, 1001) := by rfl
  obtain ⟨hub, reached, ran⟩ := Option.bind_eq_some_iff.mp ran
  obtain ⟨after, turned, ran⟩ := Option.bind_eq_some_iff.mp ran
  obtain ⟨last, later, ends⟩ := Option.map_eq_some_iff.mp ran
  obtain ⟨streams, times⟩ := Prod.mk.inj ends
  obtain ⟨now, past⟩ := Prod.mk.inj times
  have delivers := (live_hub_delivers liveOptions (by decide) 0 hub (run_turns .refl _ reached)).2.1
  have sent := delivers _ after last (.inr rfl) (by rw [streams]; simp) turned
    (run_turns .refl _ later) (by rw [now, past]; decide)
  rw [now] at sent
  exact ⟨hub, after, last, streams, turned, sent⟩

end Delivery

end Foc.Order.Live
