import Foc.Chat.Endings

/-! What a socket's state says of the calls made for it: which call it stands on, and
which check it awaits. An identity change closes the open sockets of the user; one
that is still signing in is found by its first check. -/
namespace Foc.Chat
open Library.EventLoop

/-! ## Calls -/

/-- The first check after a socket opened: its timer is set, or it has been asked. -/
def FirstCheck (options : SocketOptions) (hub : Hub) (socket : SocketId) (token : Token)
    (recheckTimer : TimerId) (openedAt : Millis) : Prop :=
  hub.timers recheckTimer = some ⟨openedAt + options.recheckMs, .recheck socket⟩ ∨
    ∃ check, Asked hub.calls check ⟨socket, token, .scheduleRecheck⟩

/-- The one call a socket signs in with, and the checks of an open socket, none refused. -/
structure Signed (options : SocketOptions) (hub : Hub) (socket : SocketId) : Prop where
  progress : ∀ call token, Asked hub.calls call ⟨socket, token, .received⟩ →
    (∃ authTimer, hub.stateOf socket = some (.authenticating authTimer) ∧
      ∀ reply, ¬ Answered hub.calls call ⟨socket, token, .received⟩ reply) ∨
    (∃ userId recheckTimer expiryTimer reply,
      hub.stateOf socket = some (.openFor userId token recheckTimer expiryTimer) ∧
      Answered hub.calls call ⟨socket, token, .received⟩ reply ∧ reply.answer = .ok userId ∧
      FirstCheck options hub socket token recheckTimer reply.time) ∨
    hub.stateOf socket = some .closed
  once : ∀ call other token another, Asked hub.calls call ⟨socket, token, .received⟩ →
    Asked hub.calls other ⟨socket, another, .received⟩ → call = other
  opened : ∀ userId token recheckTimer expiryTimer,
    hub.stateOf socket = some (.openFor userId token recheckTimer expiryTimer) →
    ∃ call, Asked hub.calls call ⟨socket, token, .received⟩
  checked : ∀ check token, Asked hub.calls check ⟨socket, token, .scheduleRecheck⟩ →
    (∃ userId recheckTimer expiryTimer,
      hub.stateOf socket = some (.openFor userId token recheckTimer expiryTimer) ∧
      ∀ err time, ¬ Answered hub.calls check ⟨socket, token, .scheduleRecheck⟩ ⟨.error err, time⟩) ∨
    hub.stateOf socket = some .closed

structure Coherent (options : SocketOptions) (hub : Hub) : Prop where
  timed : Timed hub
  signed : ∀ socket, Signed options hub socket

section Steps

variable {options : SocketOptions} {hub after : Hub} {socket other : SocketId}
  {token : Token}

/-- What a socket's calls say depends on its state, its timer and its calls alone. -/
theorem signed_frame (signed : Signed options hub socket)
    (state : after.stateOf socket = hub.stateOf socket)
    (timer : ∀ userId token recheckTimer expiryTimer,
      hub.stateOf socket = some (.openFor userId token recheckTimer expiryTimer) →
      after.timers recheckTimer = hub.timers recheckTimer)
    (asked : ∀ call token purpose, Asked after.calls call ⟨socket, token, purpose⟩ ↔
      Asked hub.calls call ⟨socket, token, purpose⟩)
    (answered : ∀ call token purpose reply,
      Answered after.calls call ⟨socket, token, purpose⟩ reply ↔
        Answered hub.calls call ⟨socket, token, purpose⟩ reply) :
    Signed options after socket := by
  constructor
  · intro call token called
    simp only [state, answered]
    rcases signed.progress call token ((asked call token _).mp called) with waits | opened | closed
    · exact .inl waits
    · refine .inr (.inl ?_)
      obtain ⟨userId, recheckTimer, expiryTimer, reply, opened, given, ok, first⟩ := opened
      refine ⟨userId, recheckTimer, expiryTimer, reply, opened, given, ok, ?_⟩
      rcases first with set | ⟨check, checked⟩
      · exact .inl ((timer userId token recheckTimer expiryTimer opened).trans set)
      · exact .inr ⟨check, (asked check token _).mpr checked⟩
    · exact .inr (.inr closed)
  · intro call other token another one two
    exact signed.once call other token another ((asked call token _).mp one)
      ((asked other another _).mp two)
  · intro userId token recheckTimer expiryTimer found
    obtain ⟨call, called⟩ :=
      signed.opened userId token recheckTimer expiryTimer (state.symm.trans found)
    exact ⟨call, (asked call token _).mpr called⟩
  · intro check token checked
    simp only [state, answered]
    exact signed.checked check token ((asked check token _).mp checked)

/-- Of a closed socket it only matters that it signed in once. -/
theorem signed_closed (closed : hub.stateOf socket = some .closed)
    (once : ∀ call other token another, Asked hub.calls call ⟨socket, token, .received⟩ →
      Asked hub.calls other ⟨socket, another, .received⟩ → call = other) :
    Signed options hub socket where
  progress _ _ _ := .inr (.inr closed)
  once := once
  opened userId token recheckTimer expiryTimer found := by
    rw [closed] at found
    cases found
  checked _ _ _ := .inr closed

theorem closes_signed (closes : Closes hub after) (signed : Signed options hub socket) :
    Signed options after socket := by
  rcases closes.states socket with same | ⟨_, closed⟩
  · apply signed_frame signed same
    · intro userId token recheckTimer expiryTimer found
      exact closes.checks socket userId token recheckTimer expiryTimer (same.trans found)
    · intro call token purpose
      rw [closes.calls]
    · intro call token purpose reply
      rw [closes.calls]
  · apply signed_closed closed
    rw [closes.calls]
    exact signed.once

theorem closes_coherent (closes : Closes hub after) (coherent : Coherent options hub) :
    Coherent options after where
  timed := closes.timed coherent.timed
  signed socket := closes_signed closes (coherent.signed socket)

theorem unasked (signed : Signed options hub socket) (idle : hub.stateOf socket = none ∨
      ∃ authTimer, hub.stateOf socket = some (.awaitingAuth authTimer)) (call : Nat)
    (purpose : Purpose) : ¬ Asked hub.calls call ⟨socket, token, purpose⟩ := by
  intro asked
  cases purpose with
  | received =>
      rcases signed.progress call token asked with ⟨_, state, _⟩ | ⟨_, _, _, _, state, _⟩ | state
      all_goals
        rcases idle with none | ⟨_, awaits⟩
        · rw [none] at state
          cases state
        · rw [awaits] at state
          cases state
  | scheduleRecheck =>
      rcases signed.checked call token asked with ⟨_, _, _, state, _⟩ | state
      all_goals
        rcases idle with none | ⟨_, awaits⟩
        · rw [none] at state
          cases state
        · rw [awaits] at state
          cases state

theorem signed_unasked (unasked : ∀ call token purpose, ¬ Asked hub.calls call ⟨socket, token, purpose⟩)
    (shut : ∀ userId token recheckTimer expiryTimer,
      hub.stateOf socket ≠ some (.openFor userId token recheckTimer expiryTimer)) :
    Signed options hub socket where
  progress call token asked := absurd asked (unasked call token _)
  once call _ token _ asked := absurd asked (unasked call token _)
  opened userId token recheckTimer expiryTimer found :=
    absurd found (shut userId token recheckTimer expiryTimer)
  checked check token asked := absurd asked (unasked check token _)

/-- A new timer is nobody's recheck yet. -/
theorem set_signed (timed : Timed hub) (signed : Signed options hub socket) (delay : Nat)
    (task : Task) : Signed options (hub.setTimeout delay task) socket := by
  refine signed_frame signed ?_ ?_ ?_ ?_
  · rfl
  · intro userId token recheckTimer expiryTimer found
    have old := (timed.held socket _ found).1.old
    simp [Hub.setTimeout, Nat.ne_of_lt old]
  · intro call token purpose
    rfl
  · intro call token purpose reply
    rfl

/-! ### Connecting -/

theorem accept_state : (hub.accept options).stateOf other =
    if other = hub.objects.length then some (.awaitingAuth hub.handles) else hub.stateOf other := by
  unfold Hub.accept Hub.stateOf
  by_cases new : other = hub.objects.length
  · simp [new]
  · simp only [if_neg new]
    rcases Nat.lt_or_ge other hub.objects.length with before | past
    · rw [List.getElem?_append_left before]
    · have beyond : hub.objects.length < other := Nat.lt_of_le_of_ne past (Ne.symm new)
      rw [List.getElem?_eq_none past, List.getElem?_eq_none (by simp; omega)]

theorem new_unknown : hub.stateOf hub.objects.length = none := by
  simp [Hub.stateOf]

theorem accept_coherent (coherent : Coherent options hub) : Coherent options (hub.accept options) := by
  have rearms := set_rearms coherent.timed options.authTimeoutMs (.authTimeout hub.objects.length)
  have rearms : Rearms hub (hub.accept options) := ⟨rearms.handles, rearms.same, rearms.fresh⟩
  constructor
  · refine ⟨?_, ?_, ?_, rearms.fresh⟩
    · intro userId socket
      rw [accept_state]
      by_cases new : socket = hub.objects.length
      · subst new
        have listed := coherent.timed.listed userId hub.objects.length
        rw [new_unknown] at listed
        rw [if_pos rfl]
        constructor
        · intro member
          obtain ⟨_, _, _, found⟩ := listed.mp member
          cases found
        · rintro ⟨_, _, _, found⟩
          cases found
      · rw [if_neg new]
        exact coherent.timed.listed userId socket
    · intro socket state found
      rw [accept_state] at found
      by_cases new : socket = hub.objects.length
      · rw [if_pos new, Option.some.injEq] at found
        subst found new
        have held : Held (hub.setTimeout options.authTimeoutMs (.authTimeout hub.objects.length))
            hub.handles (.authTimeout hub.objects.length) := set_held _ _
        exact ⟨held.old, held.only⟩
      · rw [if_neg new] at found
        exact (coherent.timed.held socket state found).rearmed rearms
    · intro handle is
      exact (coherent.timed.beating handle is).rearmed rearms
  · intro socket
    by_cases new : socket = hub.objects.length
    · subst new
      apply signed_unasked
      · intro call token purpose
        exact unasked (coherent.signed _) (.inl new_unknown) call purpose
      · intro userId token recheckTimer expiryTimer
        simp [accept_state]
    · apply signed_frame (coherent.signed socket)
      · rw [accept_state, if_neg new]
      · intro userId token recheckTimer expiryTimer found
        have old := (coherent.timed.held socket _ found).1.old
        simp [Hub.accept, Hub.setTimeout, Nat.ne_of_lt old]
      · intro call token purpose
        rfl
      · intro call token purpose reply
        rfl

theorem room_closes (timed : Timed hub) : Closes hub (hub.makeRoomToWait options).1 := by
  unfold Hub.makeRoomToWait
  split
  · exact Closes.refl timed
  · split
    · exact end_closes timed
    · exact Closes.refl timed

theorem accommodate_closes (timed : Timed hub) : Closes hub (hub.accommodate options).1 := by
  unfold Hub.accommodate
  split
  · exact Closes.refl timed
  · split
    · exact Closes.refl timed
    · exact room_closes timed

theorem heart_coherent (coherent : Coherent options hub) :
    Coherent options (hub.startHeart options) := by
  unfold Hub.startHeart
  split
  · exact coherent
  · have rearms := set_rearms coherent.timed options.pingMs .beat
    have rearms : Rearms hub { hub.setTimeout options.pingMs .beat with
        heartbeat := some hub.handles } := ⟨rearms.handles, rearms.same, rearms.fresh⟩
    constructor
    · refine ⟨coherent.timed.listed, ?_, ?_, rearms.fresh⟩
      · intro socket state found
        exact (coherent.timed.held socket state found).rearmed rearms
      · intro handle is
        have new : hub.handles = handle := Option.some.inj is
        subst new
        have held : Held (hub.setTimeout options.pingMs .beat) hub.handles .beat := set_held _ _
        exact ⟨held.old, held.only⟩
    · intro socket
      have signed := set_signed coherent.timed (coherent.signed socket) options.pingMs .beat
      exact ⟨signed.progress, signed.once, signed.opened, signed.checked⟩

/-- A connection is accepted, may be closed at once, and may start the pings. -/
theorem connect_cases (timed : Timed (hub.accept options)) :
    ∃ held, Closes (hub.accept options) held ∧
      (hub.connect options = held ∨ hub.connect options = held.startHeart options) := by
  have room := @accommodate_closes options _ timed
  unfold Hub.connect
  generalize (hub.accept options).accommodate options = admitted at room
  obtain ⟨room', refused⟩ := admitted
  have listed : Closes room' { room' with
      sockets := room'.sockets ++ [hub.objects.length]
      pending := room'.pending ++ [hub.objects.length] } :=
    same_closes (room.timed timed) rfl (fun _ => rfl) rfl rfl rfl rfl
  have held := room.trans listed
  cases refused with
  | some reason => exact ⟨_, held.trans (end_closes (held.timed timed)), .inl rfl⟩
  | none => exact ⟨_, held, .inr rfl⟩

theorem connect_coherent (coherent : Coherent options hub) :
    Coherent options (hub.connect options) := by
  have accepted := accept_coherent coherent
  obtain ⟨held, closes, same | same⟩ := connect_cases accepted.timed
  · rw [same]
    exact closes_coherent closes accepted
  · rw [same]
    exact heart_coherent (closes_coherent closes accepted)

/-! ### Signing in -/

theorem received_coherent (coherent : Coherent options hub) (frame : Inbound) :
    Coherent options (hub.received socket frame) := by
  unfold Hub.received
  split
  · rename_i authTimer token found
    have held : HeldBy hub socket (.awaitingAuth authTimer) := coherent.timed.held socket _ found
    have held : HeldBy hub socket (.authenticating authTimer) := held
    have changed : Timed { hub.setState socket (.authenticating authTimer) with
        byUser := hub.byUser } := by
      apply change_timed coherent.timed found held
      intro userId other
      constructor
      · intro member
        refine .inl ⟨?_, member⟩
        rintro rfl
        obtain ⟨_, _, _, opened⟩ := (coherent.timed.listed userId other).mp member
        rw [found] at opened
        cases opened
      · rintro (⟨_, member⟩ | ⟨_, _, _, _, absurd⟩)
        · exact member
        · cases absurd
    have idle := @unasked _ _ _ token (coherent.signed socket) (.inr ⟨authTimer, found⟩)
    constructor
    · exact same_timed changed (fun _ => rfl) rfl rfl rfl rfl
    · intro other
      by_cases same : other = socket
      · subst same
        have state : Hub.stateOf { hub.setState other (.authenticating authTimer) with
            calls := ask (hub.setState other (.authenticating authTimer)).calls
              ⟨other, token, .received⟩ } other = some (.authenticating authTimer) := by
          have is : (hub.setState other (.authenticating authTimer)).stateOf other =
              some (.authenticating authTimer) := by
            rw [Hub.stateOf_setState, if_pos rfl, found]
            rfl
          exact is
        have only : ∀ call another purpose,
            Asked (ask hub.calls ⟨other, token, .received⟩) call ⟨other, another, purpose⟩ →
              call = hub.calls.length ∧ another = token ∧ purpose = .received := by
          intro call another purpose asked
          rcases asked_ask.mp asked with before | ⟨last, same⟩
          · exact absurd before (unasked (coherent.signed other) (.inr ⟨authTimer, found⟩) call purpose)
          · cases same
            exact ⟨last, rfl, rfl⟩
        constructor
        · intro call another asked
          refine .inl ⟨authTimer, state, ?_⟩
          intro reply answered
          have before := answered_ask.mp answered
          exact unasked (coherent.signed other) (.inr ⟨authTimer, found⟩) call .received
            before.asked
        · intro call second token another one two
          exact (only call token _ one).1.trans (only second another _ two).1.symm
        · intro userId another recheckTimer expiryTimer opened
          rw [state] at opened
          cases opened
        · intro check another asked
          have absurd := (only check another _ asked).2.2
          cases absurd
      · refine signed_frame (coherent.signed other) ?_ ?_ ?_ ?_
        · have is : (hub.setState socket (.authenticating authTimer)).stateOf other =
              hub.stateOf other := by
            rw [Hub.stateOf_setState, if_neg (Ne.symm same)]
          exact is
        · intro userId token recheckTimer expiryTimer _
          rfl
        · intro call another purpose
          refine asked_ask.trans ?_
          constructor
          · rintro (before | ⟨_, is⟩)
            · exact before
            · cases is
              exact absurd rfl same
          · exact .inl
        · intro call another purpose reply
          exact answered_ask
  · exact closes_coherent (end_closes coherent.timed) coherent
  · exact coherent

/-- The answer is known, and nothing done with it yet. -/
def Hub.known (hub : Hub) (call : Nat) (reply : Reply) : Hub :=
  { hub with calls := answer hub.calls call reply }

theorem known_timed (timed : Timed hub) (call : Nat) (reply : Reply) :
    Timed (hub.known call reply) :=
  same_timed timed (fun _ => rfl) rfl rfl rfl rfl

/-- An answer is news to the socket that asked alone. -/
theorem known_signed {call : Nat} {reply : Reply} {asked : Ask} (signed : Signed options hub other)
    (waits : waiting hub.calls call = some asked) (apart : asked.socket ≠ other) :
    Signed options (hub.known call reply) other := by
  refine signed_frame signed rfl ?_ ?_ ?_
  · intro userId token recheckTimer expiryTimer _
    rfl
  · intro _ token purpose
    exact asked_answer
  · intro _ token purpose _
    refine (answered_answer waits).trans ?_
    constructor
    · rintro (before | ⟨_, is, _⟩)
      · exact before
      · exact absurd (congrArg Ask.socket is).symm apart
    · exact .inl

theorem known_once {call : Nat} {reply : Reply} (signed : Signed options hub socket) :
    ∀ one two token another, Asked (hub.known call reply).calls one ⟨socket, token, .received⟩ →
      Asked (hub.known call reply).calls two ⟨socket, another, .received⟩ → one = two := by
  intro one two token another first second
  exact signed.once one two token another (asked_answer.mp first) (asked_answer.mp second)

/-- What the others keep, and that the socket itself was closed. -/
theorem closed_coherent {asked : Ask} {call : Nat} {reply : Reply} (coherent : Coherent options hub)
    (waits : waiting hub.calls call = some asked) (closes : Closes (hub.known call reply) after)
    (closed : after.stateOf asked.socket = some .closed) : Coherent options after := by
  refine ⟨closes.timed (known_timed coherent.timed call reply), ?_⟩
  intro other
  by_cases same : asked.socket = other
  · subst same
    apply signed_closed closed
    rw [closes.calls]
    exact known_once (coherent.signed asked.socket)
  · exact closes_signed closes (known_signed (coherent.signed other) waits same)

/-! ### Opening -/

theorem expiry_timed (timed : Timed hub) (untilExpiry : Option Int) :
    Timed (hub.scheduleExpiry socket untilExpiry).1 := by
  unfold Hub.scheduleExpiry
  split
  · exact timed
  · split
    · exact timed
    · exact set_timed timed _ _

theorem expiry_held (untilExpiry : Option Int) (handle : TimerId)
    (is : (hub.scheduleExpiry socket untilExpiry).2 = some handle) :
    Held (hub.scheduleExpiry socket untilExpiry).1 handle (.expiry socket) := by
  unfold Hub.scheduleExpiry at is ⊢
  split at is
  · cases is
  · split at is
    · cases is
    · rename_i delay within
      have same : hub.handles = handle := Option.some.inj is
      subst same
      simp only [if_neg within]
      exact set_held _ _

theorem expiry_signed (timed : Timed hub) (signed : Signed options hub other)
    (untilExpiry : Option Int) : Signed options (hub.scheduleExpiry socket untilExpiry).1 other := by
  unfold Hub.scheduleExpiry
  split
  · exact signed
  · split
    · exact signed
    · exact set_signed timed signed _ _

/-- What scheduling the expiry leaves alone. -/
theorem expiry_same (untilExpiry : Option Int) :
    (hub.scheduleExpiry socket untilExpiry).1.calls = hub.calls ∧
      (hub.scheduleExpiry socket untilExpiry).1.now = hub.now ∧
      (hub.scheduleExpiry socket untilExpiry).1.byUser = hub.byUser ∧
      ∀ other, (hub.scheduleExpiry socket untilExpiry).1.stateOf other = hub.stateOf other := by
  unfold Hub.scheduleExpiry
  split
  · exact ⟨rfl, rfl, rfl, fun _ => rfl⟩
  · split <;> exact ⟨rfl, rfl, rfl, fun _ => rfl⟩

/-- A socket opens: its check is set, and it is listed for its user. -/
def Hub.opens (options : SocketOptions) (hub : Hub) (socket : SocketId) (userId : UserId)
    (token : Token) (expiryTimer : Option TimerId) : Hub :=
  let opened := (hub.setTimeout options.recheckMs (.recheck socket)).setState socket
    (.openFor userId token hub.handles expiryTimer)
  { opened with
    byUser := Function.update opened.byUser userId (opened.byUser userId ++ [socket]) }

theorem opens_state {userId : UserId} {expiryTimer : Option TimerId}
    (known : hub.stateOf socket ≠ none) :
    (hub.opens options socket userId token expiryTimer).stateOf other =
      if socket = other then some (.openFor userId token hub.handles expiryTimer)
      else hub.stateOf other := by
  have is : (hub.opens options socket userId token expiryTimer).stateOf other =
      ((hub.setTimeout options.recheckMs (.recheck socket)).setState socket
        (.openFor userId token hub.handles expiryTimer)).stateOf other := rfl
  rw [is, Hub.stateOf_setState]
  by_cases same : socket = other
  · subst same
    cases found : hub.stateOf socket with
    | none => exact absurd found known
    | some state => simp [found]
  · simp [same]

theorem opens_timed {userId : UserId} {expiryTimer : Option TimerId} {authTimer : TimerId}
    (timed : Timed hub) (found : hub.stateOf socket = some (.authenticating authTimer))
    (expires : ∀ handle, expiryTimer = some handle → Held hub handle (.expiry socket)) :
    Timed (hub.opens options socket userId token expiryTimer) := by
  have rearms := set_rearms timed options.recheckMs (.recheck socket)
  have mine : HeldBy (hub.setTimeout options.recheckMs (.recheck socket)) socket
      (.openFor userId token hub.handles expiryTimer) :=
    ⟨set_held _ _, fun handle is => (expires handle is).rearmed rearms⟩
  apply change_timed (set_timed timed options.recheckMs (.recheck socket)) found mine
  intro owner other
  by_cases same : owner = userId
  · subst same
    have apart : socket ∉ hub.byUser owner := by
      intro member
      obtain ⟨_, _, _, opened⟩ := (timed.listed owner socket).mp member
      rw [found] at opened
      cases opened
    simp only [Hub.setState, Hub.setTimeout, Function.update_self, List.mem_append,
      List.mem_singleton]
    constructor
    · rintro (member | rfl)
      · refine .inl ⟨?_, member⟩
        rintro rfl
        exact apart member
      · exact .inr ⟨rfl, _, _, _, rfl⟩
    · rintro (⟨_, member⟩ | ⟨same, _⟩)
      · exact .inl member
      · exact .inr same
  · have apart : other ∈ hub.byUser owner → other ≠ socket := by
      rintro member rfl
      obtain ⟨_, _, _, opened⟩ := (timed.listed owner other).mp member
      rw [found] at opened
      cases opened
    simp only [Hub.setState, Hub.setTimeout, Function.update_of_ne same]
    constructor
    · intro member
      exact .inl ⟨apart member, member⟩
    · rintro (⟨_, member⟩ | ⟨_, _, _, _, is⟩)
      · exact member
      · exact absurd (SocketState.openFor.inj is).1.symm same

theorem opens_signed {userId : UserId} {expiryTimer : Option TimerId} (timed : Timed hub)
    (known : hub.stateOf socket ≠ none) (signed : Signed options hub other)
    (apart : socket ≠ other) :
    Signed options (hub.opens options socket userId token expiryTimer) other := by
  have set := set_signed timed signed options.recheckMs (.recheck socket)
  refine signed_frame set ?_ ?_ ?_ ?_
  · rw [opens_state known, if_neg apart]
    rfl
  · intro _ _ _ _ _
    rfl
  · intro _ _ _
    rfl
  · intro _ _ _ _
    rfl

/-- A hub that differs from another in nothing a socket's sign-in is read from. -/
structure Readied (options : SocketOptions) (hub base : Hub) : Prop where
  timed : Timed base
  signed : ∀ other, Signed options hub other → Signed options base other
  calls : base.calls = hub.calls
  now : base.now = hub.now
  states : ∀ other, base.stateOf other = hub.stateOf other

/-- `open` closes the socket, or lists it with its check set. -/
theorem open_cases {tokenExpiry : Token → Option Millis} {authTimer : TimerId} {userId : UserId}
    (timed : Timed hub) (found : hub.stateOf socket = some (.authenticating authTimer)) :
    (Closes hub (hub.openSocket options tokenExpiry socket authTimer userId token) ∧
      (hub.openSocket options tokenExpiry socket authTimer userId token).stateOf socket =
        some .closed) ∨
    ∃ base expiryTimer, Readied options hub base ∧
      (∀ handle, expiryTimer = some handle → Held base handle (.expiry socket)) ∧
      hub.openSocket options tokenExpiry socket authTimer userId token =
        (base.opens options socket userId token expiryTimer).tell socket .ready := by
  have held : HeldBy hub socket (.authenticating authTimer) := timed.held socket _ found
  have held : Held hub authTimer (.authTimeout socket) := held
  have cleared : Closes hub (hub.clearTimeout authTimer) := clear_closes timed held (by simp)
  have left : Closes hub { hub.clearTimeout authTimer with
      pending := (hub.clearTimeout authTimer).pending.filter (· ≠ socket) } :=
    cleared.trans (same_closes (cleared.timed timed) rfl (fun _ => rfl) rfl rfl rfl rfl)
  have known : Hub.stateOf { hub.clearTimeout authTimer with
      pending := (hub.clearTimeout authTimer).pending.filter (· ≠ socket) } socket ≠ none := by
    have is : (hub.clearTimeout authTimer).stateOf socket ≠ none := by simp [found]
    exact is
  unfold Hub.openSocket
  dsimp only
  split
  · exact .inl ⟨left.trans (end_closes (left.timed timed)), end_ended known⟩
  · split
    · exact .inl ⟨left.trans (end_closes (left.timed timed)), end_ended known⟩
    · refine .inr ⟨_, _, ?_, ?_, rfl⟩
      · have same := @expiry_same { hub.clearTimeout authTimer with
          pending := (hub.clearTimeout authTimer).pending.filter (· ≠ socket) } socket
          ((tokenExpiry token).map (· - hub.now))
        refine ⟨expiry_timed (left.timed timed) _, ?_, same.1, same.2.1, same.2.2.2⟩
        intro other signed
        exact expiry_signed (left.timed timed) (closes_signed left signed) _
      · exact expiry_held _

/-! ### Answers -/

theorem authenticated_coherent {tokenExpiry : Token → Option Millis} {call : Nat}
    {given : Except AuthError UserId} (coherent : Coherent options hub)
    (waits : waiting hub.calls call = some ⟨socket, token, .received⟩) :
    Coherent options ((hub.known call ⟨given, hub.now⟩).authenticated options tokenExpiry socket token
      given) := by
  have asked : Asked hub.calls call ⟨socket, token, .received⟩ := ⟨none, waiting_iff.mp waits⟩
  have timed := known_timed coherent.timed call ⟨given, hub.now⟩
  rcases (coherent.signed socket).progress call token asked with
    ⟨authTimer, state, _⟩ | ⟨_, _, _, reply, _, answered, _⟩ | state
  · have found : (hub.known call ⟨given, hub.now⟩).stateOf socket =
        some (.authenticating authTimer) := state
    have known : (hub.known call ⟨given, hub.now⟩).stateOf socket ≠ none := by simp [found]
    unfold Hub.authenticated
    rw [found]
    cases given with
    | error err => exact closed_coherent coherent waits (end_closes timed) (end_ended known)
    | ok userId =>
        rcases open_cases timed found with ⟨closes, closed⟩ | ⟨base, expiryTimer, readied, held, is⟩
        · exact closed_coherent coherent waits closes closed
        · dsimp only
          rw [is]
          have based : base.stateOf socket = some (.authenticating authTimer) :=
            (readied.states socket).trans found
          have reached : base.stateOf socket ≠ none := by simp [based]
          have opened : ∀ other, ((base.opens options socket userId token expiryTimer).tell socket
              .ready).stateOf other =
                if socket = other then some (.openFor userId token base.handles expiryTimer)
                else base.stateOf other := fun _ => opens_state reached
          refine ⟨same_timed (opens_timed readied.timed based held) (fun _ => rfl) rfl rfl rfl rfl,
            ?_⟩
          intro other
          by_cases same : socket = other
          · subst same
            have calls : ((base.opens options socket userId token expiryTimer).tell socket
                .ready).calls = (hub.known call ⟨.ok userId, hub.now⟩).calls := readied.calls
            have mine : ∀ one another,
                Asked (hub.known call ⟨.ok userId, hub.now⟩).calls one ⟨socket, another, .received⟩ →
                  one = call ∧ another = token := by
              intro one another called
              have before := asked_answer.mp called
              have only := (coherent.signed socket).once one call another token before asked
              subst only
              obtain ⟨_, first⟩ := before
              rw [waiting_iff.mp waits] at first
              cases first
              exact ⟨rfl, rfl⟩
            constructor
            · intro one another called
              rw [calls] at called
              obtain ⟨rfl, rfl⟩ := mine one another called
              refine .inr (.inl ⟨userId, base.handles, expiryTimer, ⟨.ok userId, hub.now⟩, ?_, ?_,
                rfl, .inl ?_⟩)
              · rw [opened, if_pos rfl]
              · rw [calls]
                exact (answered_answer waits).mpr (.inr ⟨rfl, rfl, rfl⟩)
              · have now : base.now = hub.now := readied.now
                simp [Hub.opens, Hub.tell, Hub.setState, Hub.setTimeout, now]
            · rw [calls]
              exact known_once (coherent.signed socket)
            · intro owner another recheckTimer expiry found
              rw [opened, if_pos rfl] at found
              cases found
              exact ⟨call, by rw [calls]; exact asked_answer.mpr asked⟩
            · intro check another checked
              rw [calls] at checked
              rcases (coherent.signed socket).checked check another (asked_answer.mp checked) with
                ⟨_, _, _, absurd, _⟩ | absurd
              · rw [state] at absurd
                cases absurd
              · rw [state] at absurd
                cases absurd
          · have before : Signed options (hub.known call ⟨.ok userId, hub.now⟩) other :=
              known_signed (coherent.signed other) waits same
            have signed : Signed options (base.opens options socket userId token expiryTimer) other :=
              opens_signed readied.timed reached (readied.signed other before) same
            exact ⟨signed.progress, signed.once, signed.opened, signed.checked⟩
  · rw [Answered, waiting_iff.mp waits] at answered
    cases answered
  · have closed : (hub.known call ⟨given, hub.now⟩).stateOf socket = some .closed := state
    unfold Hub.authenticated
    rw [closed]
    exact closed_coherent coherent waits (Closes.refl timed) closed

/-- An open socket's next check is set. -/
def Hub.checksAgain (options : SocketOptions) (hub : Hub) (socket : SocketId) (userId : UserId)
    (token : Token) (expiryTimer : Option TimerId) : Hub :=
  (hub.setTimeout options.recheckMs (.recheck socket)).setState socket
    (.openFor userId token hub.handles expiryTimer)

theorem again_state {userId : UserId} {expiryTimer : Option TimerId}
    (known : hub.stateOf socket ≠ none) :
    (hub.checksAgain options socket userId token expiryTimer).stateOf other =
      if socket = other then some (.openFor userId token hub.handles expiryTimer)
      else hub.stateOf other :=
  opens_state known

theorem again_timed {userId : UserId} {expiryTimer : Option TimerId} {recheckTimer : TimerId}
    (timed : Timed hub)
    (found : hub.stateOf socket = some (.openFor userId token recheckTimer expiryTimer)) :
    Timed (hub.checksAgain options socket userId token expiryTimer) := by
  have rearms := set_rearms timed options.recheckMs (.recheck socket)
  have held : HeldBy hub socket (.openFor userId token recheckTimer expiryTimer) :=
    timed.held socket _ found
  have mine : HeldBy (hub.setTimeout options.recheckMs (.recheck socket)) socket
      (.openFor userId token hub.handles expiryTimer) :=
    ⟨set_held _ _, fun handle is => (held.2 handle is).rearmed rearms⟩
  apply change_timed (set_timed timed options.recheckMs (.recheck socket)) found mine
  intro owner other
  have listed : other ∈ hub.byUser owner ↔ _ := timed.listed owner other
  by_cases same : other = socket
  · subst same
    rw [found] at listed
    simp only [Hub.setTimeout, listed]
    simp
  · simp [Hub.setTimeout, same]

theorem rechecked_coherent {call : Nat} {given : Except AuthError UserId}
    (coherent : Coherent options hub)
    (waits : waiting hub.calls call = some ⟨socket, token, .scheduleRecheck⟩) :
    Coherent options ((hub.known call ⟨given, hub.now⟩).rechecked options socket given) := by
  have asked : Asked hub.calls call ⟨socket, token, .scheduleRecheck⟩ :=
    ⟨none, waiting_iff.mp waits⟩
  have timed := known_timed coherent.timed call ⟨given, hub.now⟩
  have signed := coherent.signed socket
  rcases signed.checked call token asked with ⟨userId, recheckTimer, expiryTimer, state, _⟩ | state
  · have found : (hub.known call ⟨given, hub.now⟩).stateOf socket =
        some (.openFor userId token recheckTimer expiryTimer) := state
    have known : (hub.known call ⟨given, hub.now⟩).stateOf socket ≠ none := by simp [found]
    unfold Hub.rechecked
    rw [found]
    cases given with
    | error err => exact closed_coherent coherent waits (end_closes timed) (end_ended known)
    | ok answered =>
        refine ⟨again_timed timed found, ?_⟩
        intro other
        have states : ((hub.known call ⟨.ok answered, hub.now⟩).checksAgain options socket userId
            token expiryTimer).stateOf other =
              if socket = other then some (.openFor userId token hub.handles expiryTimer)
              else hub.stateOf other := again_state known
        by_cases same : socket = other
        · subst same
          rw [if_pos rfl] at states
          constructor
          · intro one another called
            have before := asked_answer.mp called
            rcases signed.progress one another before with
              ⟨_, absurd, _⟩ | ⟨owner, timer, expiry, reply, opened, first, ok, _⟩ | absurd
            · rw [state] at absurd
              cases absurd
            · rw [state] at opened
              cases opened
              refine .inr (.inl ⟨userId, hub.handles, expiryTimer, reply, states,
                (answered_answer waits).mpr (.inl first), ok, .inr ⟨call, asked_answer.mpr asked⟩⟩)
            · rw [state] at absurd
              cases absurd
          · exact known_once signed
          · intro owner another timer expiry opened
            have is := states.symm.trans opened
            cases is
            obtain ⟨one, called⟩ := signed.opened userId token recheckTimer expiryTimer state
            exact ⟨one, asked_answer.mpr called⟩
          · intro check another checked
            rcases signed.checked check another (asked_answer.mp checked) with
              ⟨owner, timer, expiry, opened, unrefused⟩ | absurd
            · rw [state] at opened
              cases opened
              refine .inl ⟨userId, hub.handles, expiryTimer, states, ?_⟩
              intro err time refused
              rcases (answered_answer waits).mp refused with before | ⟨_, _, absurd⟩
              · exact unrefused err time before
              · cases absurd
            · rw [state] at absurd
              cases absurd
        · have before : Signed options (hub.known call ⟨.ok answered, hub.now⟩) other :=
            known_signed (coherent.signed other) waits same
          rw [if_neg same] at states
          refine signed_frame (set_signed timed before options.recheckMs (.recheck socket)) ?_ ?_ ?_ ?_
          · exact states
          · intro _ _ _ _ _
            rfl
          · intro _ _ _
            rfl
          · intro _ _ _ _
            rfl
  · have closed : (hub.known call ⟨given, hub.now⟩).stateOf socket = some .closed := state
    unfold Hub.rechecked
    rw [closed]
    exact closed_coherent coherent waits (Closes.refl timed) closed

/-! ### Timers firing -/

theorem due_coherent {handle : TimerId} (coherent : Coherent options hub)
    (held : Held hub handle (.recheck socket)) (set : hub.timers handle ≠ none) :
    Coherent options ((hub.clearTimeout handle).recheckDue socket) := by
  have timed : Timed (hub.clearTimeout handle) := clear_timed coherent.timed
  have apart : ∀ other, other ≠ socket → ∀ userId token recheckTimer expiryTimer,
      hub.stateOf other = some (.openFor userId token recheckTimer expiryTimer) →
        recheckTimer ≠ handle := by
    rintro other different userId token recheckTimer expiryTimer opened rfl
    obtain ⟨timer, found⟩ := Option.ne_none_iff_exists'.mp set
    have checks := (coherent.timed.held other _ opened).1.only timer found
    rw [held.only timer found] at checks
    exact different (Task.recheck.inj checks).symm
  unfold Hub.recheckDue
  split
  · rename_i userId token recheckTimer expiryTimer opened
    refine ⟨same_timed timed (fun _ => rfl) rfl rfl rfl rfl, ?_⟩
    intro other
    by_cases same : other = socket
    · subst same
      have signed := coherent.signed other
      constructor
      · intro call another called
        rcases asked_ask.mp called with before | ⟨_, is⟩
        · rcases signed.progress call another before with
            ⟨_, absurd, _⟩ | ⟨owner, timer, expiry, reply, state, first, ok, _⟩ | absurd
          · rw [show hub.stateOf other = _ from opened] at absurd
            cases absurd
          · have is : some (SocketState.openFor owner another timer expiry) =
                some (.openFor userId token recheckTimer expiryTimer) := state.symm.trans opened
            cases is
            exact .inr (.inl ⟨_, _, _, reply, opened, answered_ask.mpr first, ok,
              .inr ⟨_, asked_ask.mpr (.inr ⟨rfl, rfl⟩)⟩⟩)
          · rw [show hub.stateOf other = _ from opened] at absurd
            cases absurd
        · cases is
      · intro one two first second called again
        rcases asked_ask.mp called with called | ⟨_, is⟩
        · rcases asked_ask.mp again with again | ⟨_, is⟩
          · exact signed.once one two first second called again
          · cases is
        · cases is
      · intro owner another timer expiry found
        obtain ⟨call, called⟩ := signed.opened owner another timer expiry found
        exact ⟨call, asked_ask.mpr (.inl called)⟩
      · intro check another checked
        rcases asked_ask.mp checked with before | ⟨last, is⟩
        · rcases signed.checked check another before with
            ⟨owner, timer, expiry, state, unrefused⟩ | closed
          · exact .inl ⟨owner, timer, expiry, state,
              fun err time refused => unrefused err time (answered_ask.mp refused)⟩
          · exact .inr closed
        · cases is
          refine .inl ⟨userId, recheckTimer, expiryTimer, opened, ?_⟩
          intro err time refused
          have early := asked_lt (answered_ask.mp refused).asked
          exact absurd last (Nat.ne_of_lt early)
    · refine signed_frame (coherent.signed other) rfl ?_ ?_ ?_
      · intro owner another timer expiry found
        exact clear_timers.trans (if_neg (apart other same owner another timer expiry found))
      · intro call another purpose
        refine asked_ask.trans ?_
        constructor
        · rintro (before | ⟨_, is⟩)
          · exact before
          · cases is
            exact absurd rfl same
        · exact .inl
      · intro call another purpose reply
        exact answered_ask
  · rename_i shut
    refine ⟨timed, ?_⟩
    intro other
    refine signed_frame (coherent.signed other) rfl ?_ (fun _ _ _ => Iff.rfl) fun _ _ _ _ => Iff.rfl
    intro owner another timer expiry found
    refine clear_timers.trans (if_neg ?_)
    by_cases same : other = socket
    · subst same
      exact absurd found (shut owner another timer expiry)
    · exact apart other same owner another timer expiry found

theorem fired_coherent {handle : TimerId} {timer : Timer} (coherent : Coherent options hub)
    (found : hub.timers handle = some timer) : Coherent options (hub.fired options handle timer) := by
  have held := timer_held coherent.timed found
  unfold Hub.fired
  cases task : timer.task with
  | authTimeout socket =>
      have cleared := clear_closes coherent.timed held (by simp [task])
      exact closes_coherent (cleared.trans (end_closes (cleared.timed coherent.timed))) coherent
  | expiry socket =>
      have cleared := clear_closes coherent.timed held (by simp [task])
      exact closes_coherent (cleared.trans (end_closes (cleared.timed coherent.timed))) coherent
  | recheck socket =>
      rw [task] at held
      exact due_coherent coherent held (by simp [found])
  | beat =>
      have again := rearm_closes coherent.timed held (by simp [task])
        (some ⟨hub.now + options.pingMs, .beat⟩) (by
          rintro armed is
          cases is
          exact ⟨timer, found, task⟩)
      exact closes_coherent (again.trans (beat_closes (again.timed coherent.timed))) coherent

/-- Every event keeps what the sockets' states say. -/
theorem turn_coherent {tokenExpiry : Token → Option Millis} (hub : Hub) (event : Event) (after : Hub)
    (coherent : Coherent options hub) (turned : turn options tokenExpiry hub event = some after) :
    Coherent options after := by
  have timed := coherent.timed
  cases event with
  | connect =>
      cases turned
      exact connect_coherent coherent
  | received socket frame =>
      cases turned
      exact received_coherent coherent frame
  | answered call given =>
      obtain ⟨asked, waits, rfl⟩ := Option.map_eq_some_iff.mp turned
      obtain ⟨socket, token, purpose⟩ := asked
      cases purpose with
      | received => exact authenticated_coherent coherent waits
      | scheduleRecheck => exact rechecked_coherent coherent waits
  | fired handle =>
      simp only [turn] at turned
      split at turned
      · rename_i timer found
        split at turned
        · cases turned
          exact fired_coherent coherent found
        · cases turned
      · cases turned
  | pong socket =>
      cases turned
      exact closes_coherent (alive_closes timed true) coherent
  | disconnected socket =>
      cases turned
      exact closes_coherent (end_closes timed) coherent
  | notify userIds nudge broken =>
      cases turned
      exact closes_coherent (same_closes timed rfl (fun _ => rfl) rfl rfl rfl rfl) coherent
  | identityChanged userId =>
      cases turned
      exact closes_coherent (end_all_closes timed _) coherent
  | onModuleDestroy =>
      cases turned
      have stopped : Closes hub { hub with stopping := true } :=
        same_closes timed rfl (fun _ => rfl) rfl rfl rfl rfl
      exact closes_coherent (stopped.trans (end_all_closes (stopped.timed timed) _)) coherent
  | passes ms =>
      cases turned
      exact closes_coherent (same_closes timed rfl (fun _ => rfl) rfl rfl rfl rfl) coherent

theorem initial_coherent (now : Millis) : Coherent options (Hub.initial now) := by
  constructor
  · refine ⟨?_, ?_, ?_, fun _ _ => rfl⟩
    · intro userId socket
      simp [Hub.initial, Hub.stateOf]
    · intro socket state found
      simp [Hub.initial, Hub.stateOf] at found
    · intro handle is
      cases is
  · intro socket
    apply signed_unasked
    · rintro call token purpose ⟨reply, found⟩
      simp [Hub.initial] at found
    · intro _ _ _ _
      simp [Hub.initial, Hub.stateOf]

end Steps

/-! ## What stays -/

section Stays

variable {options : SocketOptions} {tokenExpiry : Token → Option Millis} {hub after : Hub}
  {socket other : SocketId}

/-- What no event takes back: the calls made, their answers, and the end of a socket. -/
structure Stays (hub after : Hub) : Prop where
  calls : Extends hub.calls after.calls
  closed : ∀ socket, hub.stateOf socket = some .closed → after.stateOf socket = some .closed

theorem Stays.refl (hub : Hub) : Stays hub hub := ⟨Extends.refl _, fun _ closed => closed⟩

theorem Stays.trans {last : Hub} (first : Stays hub after) (second : Stays after last) :
    Stays hub last where
  calls := first.calls.trans second.calls
  closed socket closed := second.closed socket (first.closed socket closed)

theorem Closes.keeps (closes : Closes hub after) : Stays hub after where
  calls := by
    rw [closes.calls]
    exact Extends.refl _
  closed _ := closes.stays

theorem connect_stays (coherent : Coherent options hub) : Stays hub (hub.connect options) := by
  have accepted : Stays hub (hub.accept options) := by
    refine ⟨Extends.refl _, ?_⟩
    intro socket closed
    rw [accept_state, if_neg]
    · exact closed
    · rintro rfl
      rw [new_unknown] at closed
      cases closed
  obtain ⟨held, closes, same | same⟩ := connect_cases (accept_coherent coherent).timed
  · rw [same]
    exact accepted.trans closes.keeps
  · rw [same]
    have beats : Stays held (held.startHeart options) := by
      unfold Hub.startHeart
      split
      · exact Stays.refl held
      · exact ⟨Extends.refl _, fun _ closed => closed⟩
    exact (accepted.trans closes.keeps).trans beats

/-- One socket that was not closed moves on. -/
theorem change_stays {old new : SocketState} (found : hub.stateOf socket = some old)
    (live : old ≠ .closed) : Stays hub (hub.setState socket new) := by
  refine ⟨Extends.refl _, ?_⟩
  intro other closed
  rw [Hub.stateOf_setState, if_neg]
  · exact closed
  · rintro rfl
    rw [found] at closed
    exact live (Option.some.inj closed)

theorem received_stays (timed : Timed hub) (frame : Inbound) :
    Stays hub (hub.received socket frame) := by
  unfold Hub.received
  split
  · rename_i authTimer token found
    have changed : Stays hub (hub.setState socket (.authenticating authTimer)) :=
      change_stays found (by simp)
    exact ⟨changed.calls.trans extends_ask, changed.closed⟩
  · exact (end_closes timed).keeps
  · exact Stays.refl hub

theorem authenticated_stays (timed : Timed hub) (token : Token)
    (given : Except AuthError UserId) :
    Stays hub (hub.authenticated options tokenExpiry socket token given) := by
  unfold Hub.authenticated
  split
  · exact (end_closes timed).keeps
  · rename_i authTimer userId found
    rcases open_cases timed found with ⟨closes, _⟩ | ⟨base, expiryTimer, readied, _, is⟩
    · exact closes.keeps
    · rw [is]
      have based : base.stateOf socket = some (.authenticating authTimer) :=
        (readied.states socket).trans found
      have ready : Stays hub base := by
        refine ⟨?_, fun other closed => (readied.states other).trans closed⟩
        rw [readied.calls]
        exact Extends.refl _
      have changed : Stays base (base.setState socket
          (.openFor userId token base.handles expiryTimer)) := change_stays based (by simp)
      exact ready.trans ⟨changed.calls, changed.closed⟩
  · exact Stays.refl hub

theorem rechecked_stays (timed : Timed hub) (given : Except AuthError UserId) :
    Stays hub (hub.rechecked options socket given) := by
  unfold Hub.rechecked
  split
  · exact (end_closes timed).keeps
  · rename_i userId token recheckTimer expiryTimer answered found
    have changed : Stays hub (hub.setState socket (.openFor userId token hub.handles expiryTimer)) :=
      change_stays found (by simp)
    exact ⟨changed.calls, changed.closed⟩
  · exact Stays.refl hub

theorem fired_stays {handle : TimerId} {timer : Timer} (timed : Timed hub)
    (found : hub.timers handle = some timer) : Stays hub (hub.fired options handle timer) := by
  have held := timer_held timed found
  unfold Hub.fired
  cases task : timer.task with
  | authTimeout socket =>
      have cleared := clear_closes timed held (by simp [task])
      exact (cleared.trans (end_closes (cleared.timed timed))).keeps
  | expiry socket =>
      have cleared := clear_closes timed held (by simp [task])
      exact (cleared.trans (end_closes (cleared.timed timed))).keeps
  | recheck socket =>
      dsimp only
      unfold Hub.recheckDue
      split
      · exact ⟨extends_ask, fun _ closed => closed⟩
      · exact ⟨Extends.refl _, fun _ closed => closed⟩
  | beat =>
      have again := rearm_closes timed held (by simp [task])
        (some ⟨hub.now + options.pingMs, .beat⟩) (by
          rintro armed is
          cases is
          exact ⟨timer, found, task⟩)
      exact (again.trans (beat_closes (again.timed timed))).keeps

theorem turn_stays (hub : Hub) (event : Event) (after : Hub) (coherent : Coherent options hub)
    (turned : turn options tokenExpiry hub event = some after) : Stays hub after := by
  have timed := coherent.timed
  cases event with
  | connect =>
      cases turned
      exact connect_stays coherent
  | received socket frame =>
      cases turned
      exact received_stays timed frame
  | answered call given =>
      obtain ⟨asked, waits, rfl⟩ := Option.map_eq_some_iff.mp turned
      have known : Stays hub (hub.known call ⟨given, hub.now⟩) :=
        ⟨extends_answer waits, fun _ closed => closed⟩
      have later := known_timed timed call ⟨given, hub.now⟩
      obtain ⟨socket, token, purpose⟩ := asked
      cases purpose with
      | received => exact known.trans (authenticated_stays later token given)
      | scheduleRecheck => exact known.trans (rechecked_stays later given)
  | fired handle =>
      simp only [turn] at turned
      split at turned
      · rename_i timer found
        split at turned
        · cases turned
          exact fired_stays timed found
        · cases turned
      · cases turned
  | pong socket =>
      cases turned
      exact (alive_closes timed true).keeps
  | disconnected socket =>
      cases turned
      exact (end_closes timed).keeps
  | notify userIds nudge broken =>
      cases turned
      exact ⟨Extends.refl _, fun _ closed => closed⟩
  | identityChanged userId =>
      cases turned
      exact (end_all_closes timed _).keeps
  | onModuleDestroy =>
      cases turned
      have stopped : Closes hub { hub with stopping := true } :=
        same_closes timed rfl (fun _ => rfl) rfl rfl rfl rfl
      exact (stopped.trans (end_all_closes (stopped.timed timed) _)).keeps
  | passes ms =>
      cases turned
      exact ⟨Extends.refl _, fun _ closed => closed⟩

theorem run_coherent {now : Millis} (run : Run (turn options tokenExpiry) (Hub.initial now) hub) :
    Coherent options hub :=
  run_keeps turn_coherent (initial_coherent now) run

theorem run_stays (coherent : Coherent options hub)
    (run : Run (turn options tokenExpiry) hub after) : Stays hub after :=
  run_relates turn_coherent Stays.refl Stays.trans turn_stays coherent run

/-- After an identity change no socket of the user is open, and one that is later
signed in with a call that began since, or with one that was running: that one stands
until its first check, which began since too, and which no refusal survives. -/
theorem identity_change_reaches_sockets (options : SocketOptions)
    (tokenExpiry : Token → Option Millis) (now : Millis) (before changed after : Hub)
    (userId : UserId) (run : Run (turn options tokenExpiry) (Hub.initial now) before)
    (change : turn options tokenExpiry before (.identityChanged userId) = some changed)
    (later : Run (turn options tokenExpiry) changed after) :
    (∀ socket token recheckTimer expiryTimer,
      changed.stateOf socket ≠ some (.openFor userId token recheckTimer expiryTimer)) ∧
    ∀ socket token recheckTimer expiryTimer,
      after.stateOf socket = some (.openFor userId token recheckTimer expiryTimer) →
      ∃ call reply, Answered after.calls call ⟨socket, token, .received⟩ reply ∧
        reply.answer = .ok userId ∧
        (changed.calls.length ≤ call ∨
          (∃ authTimer, changed.stateOf socket = some (.authenticating authTimer)) ∧
            waiting changed.calls call = some ⟨socket, token, .received⟩ ∧
            (after.timers recheckTimer =
                some ⟨reply.time + options.recheckMs, .recheck socket⟩ ∨
              ∃ check, changed.calls.length ≤ check ∧
                Asked after.calls check ⟨socket, token, .scheduleRecheck⟩ ∧
                ∀ err time, ¬ Answered after.calls check ⟨socket, token, .scheduleRecheck⟩
                  ⟨.error err, time⟩)) := by
  have coherent := run_coherent run
  have settled : Coherent options changed := turn_coherent _ _ _ coherent change
  have last : Coherent options after := run_keeps turn_coherent settled later
  have stays := run_stays settled later
  have none : ∀ socket token recheckTimer expiryTimer,
      changed.stateOf socket ≠ some (.openFor userId token recheckTimer expiryTimer) := by
    cases change
    intro socket token recheckTimer expiryTimer
    exact identity_changed coherent.timed userId token recheckTimer expiryTimer
  refine ⟨none, ?_⟩
  intro socket token recheckTimer expiryTimer opened
  obtain ⟨call, called⟩ := (last.signed socket).opened userId token recheckTimer expiryTimer opened
  rcases (last.signed socket).progress call token called with
    ⟨_, absurd, _⟩ | ⟨owner, timer, expiry, reply, found, answered, ok, first⟩ | absurd
  · rw [opened] at absurd
    cases absurd
  · rw [opened] at found
    cases found
    refine ⟨call, reply, answered, ok, ?_⟩
    rcases Nat.lt_or_ge call changed.calls.length with early | since
    · have asked := stays.calls.asked_before early called
      rcases (settled.signed socket).progress call token asked with
        ⟨authTimer, signing, unanswered⟩ | ⟨owner, _, _, given, open', first', ok', _⟩ | closed
      · refine .inr ⟨⟨authTimer, signing⟩, ?_, ?_⟩
        · rcases asked_waits asked with waits | ⟨given, first'⟩
          · exact waits
          · exact absurd first' (unanswered given)
        · rcases first with set | ⟨check, checked⟩
          · exact .inl set
          · refine .inr ⟨check, ?_, checked, ?_⟩
            · apply Nat.le_of_not_lt
              intro sooner
              have before := stays.calls.asked_before sooner checked
              rcases (settled.signed socket).checked check token before with
                ⟨_, _, _, absurd, _⟩ | absurd
              · rw [signing] at absurd
                cases absurd
              · rw [signing] at absurd
                cases absurd
            · rcases (last.signed socket).checked check token checked with
                ⟨_, _, _, _, unrefused⟩ | absurd
              · exact unrefused
              · rw [opened] at absurd
                cases absurd
      · -- It had opened for this user before, and was closed.
        have same := stays.calls.answered _ _ _ first'
        rw [Answered, answered] at same
        cases same
        rw [ok'] at ok
        cases ok
        exact absurd open' (none socket token _ _)
      · have shut := stays.closed socket closed
        rw [opened] at shut
        cases shut
    · exact .inl since
  · rw [opened] at absurd
    cases absurd

/-! ### A socket that was signing in -/

def plainOptions : SocketOptions where
  authTimeoutMs := 5000
  recheckMs := 55000
  pingMs := 25000
  perUser := 5
  perInstance := 1000
  pendingPerInstance := 100

def plainTurn : Turn Hub Event := turn plainOptions fun _ => none

/-- A socket signs in; its answer comes after the identity change. -/
theorem missed_run : ∃ before changed after : Hub, Run plainTurn (Hub.initial 0) before ∧
    plainTurn before (.identityChanged "u1") = some changed ∧ Run plainTurn changed after ∧
    changed.calls.length = 1 ∧ after.stateOf 0 = some (.openFor "u1" "t" 2 none) ∧
    Answered after.calls 0 ⟨0, "t", .received⟩ ⟨.ok "u1", 0⟩ := by
  have ran : ((turns plainTurn (Hub.initial 0) [.connect, .received 0 (.auth "t")]).bind
      fun before => (turns plainTurn (before.identityChanged "u1") [.answered 0 (.ok "u1")]).map
        fun after => ((before.identityChanged "u1").calls.length, after.stateOf 0, after.calls[0]?)) =
      some (1, some (.openFor "u1" "t" 2 none),
        some ⟨⟨0, "t", .received⟩, some ⟨.ok "u1", 0⟩⟩) := by rfl
  obtain ⟨before, asked, ran⟩ := Option.bind_eq_some_iff.mp ran
  obtain ⟨after, answered, ends⟩ := Option.map_eq_some_iff.mp ran
  obtain ⟨length, rest⟩ := Prod.mk.inj ends
  obtain ⟨opened, given⟩ := Prod.mk.inj rest
  exact ⟨before, _, after, run_turns .refl _ asked, rfl, run_turns .refl _ answered, length,
    opened, given⟩

/-- The call began before the identity change, and opens a socket after it. -/
theorem signing_in_missed : ¬ ∀ before changed after : Hub,
    Run plainTurn (Hub.initial 0) before →
    plainTurn before (.identityChanged "u1") = some changed → Run plainTurn changed after →
    ∀ socket token recheckTimer expiryTimer call reply,
      after.stateOf socket = some (.openFor "u1" token recheckTimer expiryTimer) →
      Answered after.calls call ⟨socket, token, .received⟩ reply →
      changed.calls.length ≤ call := by
  intro claimed
  obtain ⟨before, changed, after, run, change, later, length, opened, answered⟩ := missed_run
  have since := claimed before changed after run change later 0 "t" 2 none 0 _ opened answered
  omega

theorem missed_socket_is_checked : ∃ after : Hub,
    after.stateOf 0 = some (.openFor "u1" "t" 2 none) ∧
    ∃ call reply, Answered after.calls call ⟨0, "t", .received⟩ reply ∧
      reply.answer = .ok "u1" := by
  obtain ⟨before, changed, after, run, change, later, _, opened, _⟩ := missed_run
  obtain ⟨call, reply, answered, ok, _⟩ :=
    (identity_change_reaches_sockets plainOptions (fun _ => none) 0 before changed after "u1" run
      change later).2 0 "t" 2 none opened
  exact ⟨after, opened, call, reply, answered, ok⟩

end Stays

end Foc.Chat
