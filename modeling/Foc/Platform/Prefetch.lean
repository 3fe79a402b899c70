import Mathlib
import Foc.Library.EventLoop
import Foc.Library.Setting

/-!
The consumers of one channel (`EventConsumer` and the drain of `DeadLetters`). Starting a consumer
takes two requests, `basic.qos` and `basic.consume`, the first answered before the second is made;
the count that the first sets is of whatever is started next on the channel.
-/
namespace Foc.Platform.Prefetch
open Library Library.EventLoop Library.Setting

/-- How many messages each consumer that asks the User Service under a row lock handles at once. -/
def LOCK_THEN_ASK_PREFETCH : Nat := 3

/-! ## Subscriptions -/

structure SubscribeOptions where
  queue : String
  prefetch : Option Nat
  deriving DecidableEq, Repr

structure Subscription where
  options : SubscribeOptions
  /-- The channel it consumes on, by its number. -/
  channel : Option Nat
  deriving DecidableEq, Repr

/-- Who starts a consumer: `subscribe`, the listener of a new channel, or the drain. -/
inductive Task where
  | subscribe (index : Nat)
  | consumeAll (index : Nat)
  | drain (queue : Nat)
  deriving DecidableEq, Repr

/-- What a consumer is of: a subscription, or a dead-letter queue. -/
inductive Owner where
  | subscription (index : Nat)
  | deadLetters (queue : Nat)
  deriving DecidableEq, Repr

def Task.owner : Task → Owner
  | .subscribe index => .subscription index
  | .consumeAll index => .subscription index
  | .drain queue => .deadLetters queue

/-! ## The channel -/

/-- Where the listener of a new channel is. -/
inductive Setup where
  | starts (index : Nat)
  | done
  deriving DecidableEq, Repr

structure Channel where
  number : Nat
  /-- The requests not answered yet, in the order they were made. -/
  queue : List (Request Task Nat)
  /-- The count in force; none is 0. -/
  limit : Nat
  consumers : List (Task × Nat)
  setup : Setup
  deriving DecidableEq, Repr

/-- A message being handled, delivered to the consumer of a channel. -/
structure Handler where
  channel : Nat
  owner : Owner
  deriving DecidableEq, Repr

structure Service where
  subscriptions : List Subscription
  current : Option Channel
  /-- How many channels there have been. -/
  opened : Nat
  /-- The channel the dead-letter queues are consumed on. -/
  consuming : Option Nat
  handlers : List Handler
  deriving DecidableEq, Repr

def begun : Service :=
  { subscriptions := [], current := none, opened := 0, consuming := none, handlers := [] }

def prefetchOf (subscriptions : List Subscription) : Owner → Nat
  | .subscription index =>
      ((subscriptions[index]?).bind fun sub => sub.options.prefetch).getD 10
  | .deadLetters _ => 10

def Service.prefetch (service : Service) (owner : Owner) : Nat :=
  prefetchOf service.subscriptions owner

/-- The first of the two requests of a start. -/
def Channel.ask (channel : Channel) (task : Task) (count : Nat) : Channel :=
  { channel with queue := channel.queue ++ [.set task count] }

def setChannel (subscriptions : List Subscription) (index : Nat) (number : Option Nat) :
    List Subscription :=
  subscriptions.modify index fun sub => { sub with channel := number }

/-- A start of a subscription's consumer, by `subscribe` or by the listener. -/
def Service.consume (service : Service) (channel : Channel) (index : Nat) (task : Task) : Service :=
  { service with
    subscriptions := setChannel service.subscriptions index (some channel.number)
    current := some (channel.ask task (service.prefetch task.owner)) }

/-- The next subscription that is not consuming on the channel already. -/
def nextIdle (subscriptions : List Subscription) (number : Nat) (from_ : Nat) : Option Nat :=
  (List.range subscriptions.length).find? fun index =>
    decide (from_ ≤ index) &&
      decide ((subscriptions[index]?).bind Subscription.channel ≠ some number)

/-- `consumeAll`, until it awaits a start or has gone through the subscriptions. -/
def Service.consumeAll (service : Service) (channel : Channel) (from_ : Nat) : Service :=
  match nextIdle service.subscriptions channel.number from_ with
  | some index => service.consume { channel with setup := .starts index } index (.consumeAll index)
  | none => { service with current := some { channel with setup := .done } }

/-- The drain's next dead-letter queue, if there is one left. -/
def Service.drain (durable : Nat) (service : Service) (channel : Channel) (queue : Nat) : Service :=
  { service with
    current := some (if queue < durable then channel.ask (.drain queue) 10 else channel) }

/-- What whoever waited for its start does next. -/
def Service.resume (durable : Nat) (service : Service) (channel : Channel) : Task → Service
  | .subscribe _ => { service with current := some channel }
  | .consumeAll index => service.consumeAll channel (index + 1)
  | .drain queue => service.drain durable channel (queue + 1)

/-- A start fails with its channel, and its subscription forgets it. -/
def forget (subscriptions : List Subscription) (request : Request Task Nat) : List Subscription :=
  match request.item.owner with
  | .subscription index => setChannel subscriptions index none
  | .deadLetters _ => subscriptions

inductive Event where
  | subscribe (options : SubscribeOptions)
  | connected
  | drain
  | answered
  | lost
  | deliver (consumer : Nat)
  | settle (handler : Nat)
  deriving Repr

def holding (handlers : List Handler) (number : Nat) (owner : Owner) : Nat :=
  handlers.countP fun handler => handler.channel == number && handler.owner == owner

def turn (durable : Nat) (service : Service) : Event → Option Service
  | .subscribe options =>
      let index := service.subscriptions.length
      let added :=
        { service with subscriptions := service.subscriptions ++ [⟨options, none⟩] }
      match service.current with
      | some channel => some (added.consume channel index (.subscribe index))
      | none => some added
  | .connected =>
      match service.current with
      | some _ => none
      | none =>
          let channel : Channel :=
            { number := service.opened, queue := [], limit := 0, consumers := [], setup := .done }
          let opened := { service with opened := service.opened + 1 }
          some (opened.consumeAll channel 0)
  -- The drain is called by a listener of its own and by its constructor, whichever is first.
  | .drain =>
      match service.current with
      | some channel =>
          if service.consuming = some channel.number then none
          else
            let consuming := { service with consuming := some channel.number }
            some (consuming.drain durable channel 0)
      | none => none
  | .answered =>
      match service.current with
      | some channel =>
          match channel.queue with
          | [] => none
          | .set task count :: rest =>
              let answered := { channel with queue := rest ++ [.start task], limit := count }
              some { service with current := some answered }
          | .start task :: rest =>
              let started := channel.consumers ++ [(task, channel.limit)]
              let answered := { channel with queue := rest, consumers := started }
              some (service.resume durable answered task)
      | none => none
  | .lost =>
      match service.current with
      | some channel =>
          some
            { service with
              subscriptions := channel.queue.foldl forget service.subscriptions
              current := none }
      | none => none
  | .deliver consumer =>
      match service.current with
      | some channel =>
          match channel.consumers[consumer]? with
          | some (task, limit) =>
              if limit = 0 ∨ holding service.handlers channel.number task.owner < limit then
                some
                  { service with
                    handlers := service.handlers ++ [⟨channel.number, task.owner⟩] }
              else none
          | none => none
      | none => none
  | .settle handler =>
      if handler < service.handlers.length then
        some { service with handlers := service.handlers.eraseIdx handler }
      else none

/-! ## Every start, once -/

/-- Whose consumers were asked for on the channel, still to come or there. -/
def Channel.owners (channel : Channel) : List Owner :=
  (channel.queue.map Request.item ++ channel.consumers.map Prod.fst).map Task.owner

/-- The subscription remembers the channel as the one it consumes on. -/
def Consumes (subscriptions : List Subscription) (number index : Nat) : Prop :=
  (subscriptions[index]?).bind Subscription.channel = some number

structure Tracked (subscriptions : List Subscription) (consuming : Option Nat)
    (channel : Channel) : Prop where
  once : channel.owners.Nodup
  subscribed : ∀ index, .subscription index ∈ channel.owners ↔
    Consumes subscriptions channel.number index
  drained : ∀ queue, .deadLetters queue ∈ channel.owners → consuming = some channel.number
  -- The drain goes through its queues in order.
  pending : ∀ request ∈ channel.queue, ∀ queue, request.item = .drain queue →
    ∀ other, .deadLetters other ∈ channel.owners → other ≤ queue

/-- The listener is done with the subscription. -/
def Setup.past : Setup → Nat → Prop
  | .starts at_, index => index ≤ at_
  | .done, _ => True

structure Live (subscriptions : List Subscription) (consuming : Option Nat)
    (channel : Channel) : Prop extends Tracked subscriptions consuming channel where
  through : ∀ index < subscriptions.length, channel.setup.past index →
    Consumes subscriptions channel.number index
  listener : ∀ request ∈ channel.queue, ∀ index, request.item = .consumeAll index →
    channel.setup = .starts index

/-- The channels remembered have been opened. -/
structure Bounded (service : Service) : Prop where
  subscriptions : ∀ index number, Consumes service.subscriptions number index →
    number < service.opened
  consuming : ∀ number, service.consuming = some number → number < service.opened

structure Sound (service : Service) : Prop extends Bounded service where
  live : ∀ channel, service.current = some channel →
    channel.number < service.opened ∧ Live service.subscriptions service.consuming channel

theorem begun_sound : Sound begun := ⟨⟨by simp [begun, Consumes], by simp [begun]⟩, by simp [begun]⟩

section Starts

variable {subscriptions : List Subscription} {consuming : Option Nat} {channel : Channel}
  {task : Task} {index number : Nat}

theorem set_channel_length (to_ : Option Nat) :
    (setChannel subscriptions index to_).length = subscriptions.length := by
  simp [setChannel]

theorem set_channel_other {other : Nat} {to_ : Option Nat} (apart : other ≠ index) :
    Consumes (setChannel subscriptions index to_) number other ↔
      Consumes subscriptions number other := by
  simp [Consumes, setChannel, apart.symm]

theorem set_channel_same {to_ : Option Nat} (within : index < subscriptions.length) :
    Consumes (setChannel subscriptions index to_) number index ↔ to_ = some number := by
  simp [Consumes, setChannel, within]

theorem consumes_within (consumes : Consumes subscriptions number index) :
    index < subscriptions.length := by
  by_contra beyond
  rw [Consumes, List.getElem?_eq_none (Nat.le_of_not_lt beyond)] at consumes
  cases consumes

@[simp] theorem ask_owners (count : Nat) :
    (channel.ask task count).owners.Perm (task.owner :: channel.owners) := by
  simp only [Channel.owners, Channel.ask, List.map_append, List.map_cons, List.map_nil,
    Request.item, List.append_assoc, List.singleton_append]
  exact List.perm_middle

theorem mem_ask {owner : Owner} (count : Nat) :
    owner ∈ (channel.ask task count).owners ↔ owner = task.owner ∨ owner ∈ channel.owners := by
  rw [(ask_owners count).mem_iff, List.mem_cons]

/-- A start of a subscription that is not consuming on the channel. -/
theorem consume_tracked (tracked : Tracked subscriptions consuming channel)
    (within : index < subscriptions.length)
    (idle : ¬ Consumes subscriptions channel.number index)
    (own : task.owner = .subscription index) (count : Nat) :
    Tracked (setChannel subscriptions index (some channel.number)) consuming
      (channel.ask task count) := by
  refine ⟨?_, ?_, ?_, ?_⟩
  · rw [(ask_owners count).nodup_iff, List.nodup_cons, own]
    exact ⟨fun there => idle ((tracked.subscribed index).mp there), tracked.once⟩
  · intro other
    rw [mem_ask, own]
    by_cases same : other = index
    · subst same
      exact iff_of_true (.inl rfl) ((set_channel_same within).mpr rfl)
    · rw [show (channel.ask task count).number = channel.number from rfl, set_channel_other same,
        ← tracked.subscribed other]
      simp [same]
  · intro queue there
    rw [mem_ask, own] at there
    exact tracked.drained queue (there.resolve_left (by simp))
  · intro request asked queue drains other there
    rw [mem_ask, own] at there
    have there := there.resolve_left (by simp)
    rcases List.mem_append.mp asked with old | new
    · exact tracked.pending request old queue drains other there
    · cases List.mem_singleton.mp new
      simp only [Request.item] at drains
      rw [drains] at own
      cases own

theorem next_idle_some {from_ : Nat} (found : nextIdle subscriptions number from_ = some index) :
    from_ ≤ index ∧ index < subscriptions.length ∧ ¬ Consumes subscriptions number index ∧
      ∀ other, from_ ≤ other → other < index → Consumes subscriptions number other := by
  rw [nextIdle, List.find?_range_eq_some] at found
  obtain ⟨idle, within, before⟩ := found
  simp only [Bool.and_eq_true, decide_eq_true_eq] at idle
  refine ⟨idle.1, List.mem_range.mp within, idle.2, ?_⟩
  intro other after earlier
  have passed := before other earlier
  simp only [Bool.not_eq_true', Bool.and_eq_false_iff, decide_eq_false_iff_not, not_not]
    at passed
  exact passed.resolve_left fun short => short after

theorem next_idle_none {from_ : Nat} (found : nextIdle subscriptions number from_ = none) :
    ∀ other, from_ ≤ other → other < subscriptions.length →
      Consumes subscriptions number other := by
  rw [nextIdle, List.find?_range_eq_none] at found
  intro other after within
  have passed := found other within
  simp only [Bool.not_eq_true', Bool.and_eq_false_iff, decide_eq_false_iff_not, not_not]
    at passed
  exact passed.resolve_left fun short => short after

/-- Live but for the listener, which has gone through the subscriptions before one. -/
structure Resting (subscriptions : List Subscription) (consuming : Option Nat)
    (channel : Channel) (from_ : Nat) : Prop extends Tracked subscriptions consuming channel where
  before : ∀ index < from_, index < subscriptions.length →
    Consumes subscriptions channel.number index
  elsewhere : ∀ request ∈ channel.queue, ∀ index, request.item ≠ .consumeAll index

end Starts

section Steps

variable {durable : Nat} {service next : Service} {channel after : Channel} {task : Task}
  {index queue : Nat}

theorem consume_sound (bounded : Bounded service) (number : channel.number < service.opened)
    (tracked : Tracked service.subscriptions service.consuming channel)
    (within : index < service.subscriptions.length)
    (idle : ¬ Consumes service.subscriptions channel.number index)
    (own : task.owner = .subscription index)
    (others : ∀ other < service.subscriptions.length, other ≠ index → channel.setup.past other →
      Consumes service.subscriptions channel.number other)
    (listener : ∀ request ∈ channel.queue, ∀ other, request.item = .consumeAll other →
      channel.setup = .starts other)
    (mine : ∀ other, task = .consumeAll other → channel.setup = .starts other) :
    Sound (service.consume channel index task) := by
  refine ⟨⟨?_, bounded.consuming⟩, ?_⟩
  · intro other number_ consumes
    by_cases same : other = index
    · subst same
      cases (set_channel_same within).mp consumes
      exact number
    · exact bounded.subscriptions other number_ ((set_channel_other same).mp consumes)
  · rintro _ ⟨⟩
    refine ⟨number, consume_tracked tracked within idle own _, ?_, ?_⟩
    · intro other short past
      rw [Service.consume, set_channel_length] at short
      by_cases same : other = index
      · subst same
        exact (set_channel_same within).mpr rfl
      · exact (set_channel_other same).mpr (others other short same past)
    · intro request asked other item
      rcases List.mem_append.mp asked with old | new
      · exact listener request old other item
      · cases List.mem_singleton.mp new
        exact mine other item

theorem consume_all_sound {from_ : Nat} (bounded : Bounded service)
    (number : channel.number < service.opened)
    (resting : Resting service.subscriptions service.consuming channel from_) :
    Sound (service.consumeAll channel from_) := by
  unfold Service.consumeAll
  split
  · rename_i index found
    obtain ⟨after, within, idle, between⟩ := next_idle_some found
    have tracked := resting.toTracked
    refine consume_sound bounded number ⟨tracked.once, tracked.subscribed, tracked.drained,
      tracked.pending⟩ within idle rfl ?_ ?_ ?_
    · intro other short apart past
      by_cases early : other < from_
      · exact resting.before other early short
      · exact between other (Nat.le_of_not_lt early) (Nat.lt_of_le_of_ne past apart)
    · intro request asked other item
      exact absurd item (resting.elsewhere request asked other)
    · rintro other ⟨⟩
      rfl
  · rename_i found
    refine ⟨⟨bounded.subscriptions, bounded.consuming⟩, ?_⟩
    rintro _ ⟨⟩
    have tracked := resting.toTracked
    refine ⟨number, ⟨tracked.once, tracked.subscribed, tracked.drained, tracked.pending⟩, ?_, ?_⟩
    · intro other short _
      by_cases early : other < from_
      · exact resting.before other early short
      · exact next_idle_none found other (Nat.le_of_not_lt early) short
    · intro request asked other item
      exact absurd item (resting.elsewhere request asked other)

theorem drain_sound (bounded : Bounded service) (number : channel.number < service.opened)
    (live : Live service.subscriptions service.consuming channel)
    (mine : service.consuming = some channel.number)
    (before : ∀ other, .deadLetters other ∈ channel.owners → other < queue)
    (idle : ∀ request ∈ channel.queue, ∀ other, request.item ≠ .drain other) :
    Sound (service.drain durable channel queue) := by
  refine ⟨⟨bounded.subscriptions, bounded.consuming⟩, ?_⟩
  rintro _ ⟨⟩
  split
  · refine ⟨number, ⟨?_, ?_, ?_, ?_⟩, live.through, ?_⟩
    · rw [(ask_owners 10).nodup_iff, List.nodup_cons]
      exact ⟨fun there => Nat.lt_irrefl _ (before queue there), live.once⟩
    · intro index
      rw [mem_ask]
      have kept := live.subscribed index
      exact ⟨fun there => kept.mp (there.resolve_left (by simp [Task.owner])),
        fun consumes => .inr (kept.mpr consumes)⟩
    · intro other _
      exact mine
    · intro request asked other item later there
      rcases List.mem_append.mp asked with old | new
      · exact absurd item (idle request old other)
      · cases List.mem_singleton.mp new
        cases item
        rw [mem_ask] at there
        rcases there with same | old
        · cases same
          exact Nat.le_refl _
        · exact Nat.le_of_lt (before later old)
    · intro request asked other item
      rcases List.mem_append.mp asked with old | new
      · exact live.listener request old other item
      · cases List.mem_singleton.mp new
        cases item
  · exact ⟨number, live⟩

/-- What is asked for and what is started stay the same, whatever of it has been answered. -/
theorem tracked_perm {subscriptions : List Subscription} {consuming : Option Nat}
    (tracked : Tracked subscriptions consuming channel) (number : after.number = channel.number)
    (owners : after.owners.Perm channel.owners)
    (items : ∀ request ∈ after.queue, ∃ old ∈ channel.queue, old.item = request.item) :
    Tracked subscriptions consuming after := by
  refine ⟨owners.nodup_iff.mpr tracked.once, ?_, ?_, ?_⟩
  · intro index
    rw [owners.mem_iff, number]
    exact tracked.subscribed index
  · intro queue there
    rw [number]
    exact tracked.drained queue (owners.mem_iff.mp there)
  · intro request asked queue item other there
    obtain ⟨old, before, same⟩ := items request asked
    exact tracked.pending old before queue (same.trans item) other (owners.mem_iff.mp there)

theorem answered_set_sound {count : Nat} {rest : List (Request Task Nat)} (sound : Sound service)
    (current : service.current = some channel) (asked : channel.queue = .set task count :: rest) :
    Sound
      { service with
        current := some { channel with queue := rest ++ [.start task], limit := count } } := by
  obtain ⟨number, live⟩ := sound.live channel current
  have items : ∀ request ∈ rest ++ [.start task], ∃ old ∈ channel.queue,
      old.item = request.item := by
    rw [asked]
    intro request later
    rcases List.mem_append.mp later with old | new
    · exact ⟨request, .tail _ old, rfl⟩
    · cases List.mem_singleton.mp new
      exact ⟨.set task count, .head _, rfl⟩
  refine ⟨⟨sound.subscriptions, sound.consuming⟩, ?_⟩
  rintro _ ⟨⟩
  refine ⟨number, tracked_perm live.toTracked rfl ?_ items, live.through, ?_⟩
  · simp only [Channel.owners, asked, List.map_append, List.map_cons, List.map_nil, Request.item]
    exact (List.perm_append_singleton _ _).append_right _
  · intro request later other item
    obtain ⟨old, before, same⟩ := items request later
    exact live.listener old before other (same.trans item)

theorem answered_start_sound {rest : List (Request Task Nat)} (sound : Sound service)
    (current : service.current = some channel) (asked : channel.queue = .start task :: rest) :
    let answered :=
      { channel with queue := rest, consumers := channel.consumers ++ [(task, channel.limit)] }
    Sound (service.resume durable answered task) := by
  intro answered
  obtain ⟨number, live⟩ := sound.live channel current
  have same : answered.owners.Perm channel.owners := by
    simp only [answered, Channel.owners, asked, List.map_append, List.map_cons, List.map_nil,
      Request.item, List.cons_append]
    rw [← List.append_assoc]
    exact List.perm_append_singleton _ _
  have items : ∀ request ∈ answered.queue, ∃ old ∈ channel.queue, old.item = request.item := by
    intro request later
    rw [asked]
    exact ⟨request, .tail _ later, rfl⟩
  have head : .start task ∈ channel.queue := by
    rw [asked]
    exact .head _
  have tracked : Tracked service.subscriptions service.consuming answered :=
    tracked_perm live.toTracked rfl same items
  have bounded : Bounded service := sound.toBounded
  have only : ∀ request ∈ rest, request.item.owner ≠ task.owner := by
    have once := live.once
    simp only [Channel.owners, asked, List.map_append, List.map_cons, Request.item,
      List.cons_append, List.nodup_cons, List.mem_append, List.mem_map] at once
    intro request later twice
    exact once.1 (.inl ⟨request.item, ⟨request, later, rfl⟩, twice⟩)
  cases task with
  | subscribe index =>
      refine ⟨⟨bounded.subscriptions, bounded.consuming⟩, ?_⟩
      rintro _ ⟨⟩
      refine ⟨number, tracked, live.through, ?_⟩
      intro request later other item
      obtain ⟨old, before, kept⟩ := items request later
      exact live.listener old before other (kept.trans item)
  | consumeAll index =>
      have at_ : channel.setup = .starts index := live.listener _ head index rfl
      refine consume_all_sound bounded number ⟨tracked, ?_, ?_⟩
      · intro other early within
        apply live.through other within
        rw [at_]
        exact Nat.le_of_lt_succ early
      · intro request later other item
        obtain ⟨old, before, kept⟩ := items request later
        have also := live.listener old before other (kept.trans item)
        rw [at_] at also
        cases also
        exact only request later (by rw [item])
  | drain queue =>
      have drained : .deadLetters queue ∈ channel.owners := by
        rw [← same.mem_iff]
        simp [answered, Channel.owners, Task.owner]
      have kept : Live service.subscriptions service.consuming answered := by
        refine ⟨tracked, live.through, ?_⟩
        intro request later other item
        obtain ⟨old, before, kept⟩ := items request later
        exact live.listener old before other (kept.trans item)
      refine drain_sound bounded number kept (live.drained queue drained) ?_ ?_
      · intro other there
        exact Nat.lt_succ_of_le (live.pending _ head queue rfl other (same.mem_iff.mp there))
      · intro request later other item
        obtain ⟨old, before, is⟩ := items request later
        have most := live.pending old before other (is.trans item) queue drained
        have least : other ≤ queue := by
          apply live.pending _ head queue rfl
          rw [← same.mem_iff]
          simp only [Channel.owners, List.mem_map, List.mem_append]
          exact ⟨request.item, .inl ⟨request, later, rfl⟩, by rw [item]; rfl⟩
        have twice : other = queue := Nat.le_antisymm least most
        exact only request later (by rw [item, twice])

/-- The starts under way are forgotten with their channel. -/
theorem forget_bounded {opened : Nat} (queue : List (Request Task Nat))
    {subscriptions : List Subscription}
    (bounded : ∀ index number, Consumes subscriptions number index → number < opened) :
    ∀ index number, Consumes (queue.foldl forget subscriptions) number index → number < opened := by
  induction queue generalizing subscriptions with
  | nil => exact bounded
  | cons request rest ih =>
      apply ih
      intro index number consumes
      unfold forget at consumes
      split at consumes
      · rename_i other own
        by_cases same : index = other
        · subst same
          have within := consumes_within consumes
          rw [set_channel_length] at within
          cases (set_channel_same within).mp consumes
        · exact bounded index number ((set_channel_other same).mp consumes)
      · exact bounded index number consumes

theorem consumes_added {subscriptions : List Subscription} {options : SubscribeOptions}
    {number : Nat} :
    Consumes (subscriptions ++ [⟨options, none⟩]) number index ↔
      Consumes subscriptions number index := by
  rcases Nat.lt_trichotomy index subscriptions.length with within | last | past
  · simp [Consumes, List.getElem?_append_left within]
  · simp [Consumes, last]
  · have beyond := Nat.le_of_lt past
    have longer : (subscriptions ++ [(⟨options, none⟩ : Subscription)]).length ≤ index := by
      simpa using past
    simp [Consumes, List.getElem?_eq_none beyond, List.getElem?_eq_none longer]

theorem subscribe_sound (sound : Sound service) (options : SubscribeOptions)
    (current : service.current = some channel) :
    let added : Service :=
      { service with subscriptions := service.subscriptions ++ [⟨options, none⟩] }
    Sound (added.consume channel service.subscriptions.length
      (.subscribe service.subscriptions.length)) := by
  intro added
  obtain ⟨number, live⟩ := sound.live channel current
  have tracked : Tracked added.subscriptions added.consuming channel :=
    ⟨live.once, fun index => (live.subscribed index).trans consumes_added.symm, live.drained,
      live.pending⟩
  have new : ¬ Consumes added.subscriptions channel.number service.subscriptions.length := by
    rw [consumes_added]
    exact fun consumes => Nat.lt_irrefl _ (consumes_within consumes)
  refine consume_sound ⟨?_, sound.consuming⟩ number tracked (by simp [added]) new rfl ?_
    live.listener ?_
  · intro index number consumes
    exact sound.subscriptions index number (consumes_added.mp consumes)
  · intro other short apart past
    have within : other < service.subscriptions.length := by
      simp only [added, List.length_append, List.length_singleton] at short
      omega
    exact consumes_added.mpr (live.through other within past)
  · intro other same
    cases same

theorem connected_sound (sound : Sound service) :
    let channel : Channel :=
      { number := service.opened, queue := [], limit := 0, consumers := [], setup := .done }
    Sound ({ service with opened := service.opened + 1 }.consumeAll channel 0) := by
  intro channel
  refine consume_all_sound ⟨?_, ?_⟩ (Nat.lt_succ_self _) ⟨⟨?_, ?_, ?_, ?_⟩, ?_, ?_⟩
  · intro index number consumes
    exact Nat.lt_succ_of_lt (sound.subscriptions index number consumes)
  · intro number consuming
    exact Nat.lt_succ_of_lt (sound.consuming number consuming)
  · simp [channel, Channel.owners]
  · intro index
    refine iff_of_false (by simp [channel, Channel.owners]) ?_
    intro consumes
    exact Nat.lt_irrefl _ (sound.subscriptions index service.opened consumes)
  · simp [channel, Channel.owners]
  · simp [channel]
  · simp
  · simp [channel]

theorem turn_sound {event : Event} (sound : Sound service)
    (turned : turn durable service event = some next) : Sound next := by
  cases event with
  | subscribe options =>
      simp only [turn] at turned
      split at turned
      · rename_i channel current
        cases turned
        exact subscribe_sound sound options current
      · rename_i none_
        cases turned
        refine ⟨⟨?_, sound.consuming⟩, ?_⟩
        · intro index number consumes
          exact sound.subscriptions index number (consumes_added.mp consumes)
        · intro channel current
          rw [none_] at current
          cases current
  | connected =>
      simp only [turn] at turned
      split at turned
      · cases turned
      · cases turned
        exact connected_sound sound
  | drain =>
      simp only [turn] at turned
      split at turned
      · rename_i channel current
        obtain ⟨number, live⟩ := sound.live channel current
        split at turned
        · cases turned
        · rename_i other
          cases turned
          have none_ : ∀ queue, .deadLetters queue ∉ channel.owners := fun queue there =>
            other (live.drained queue there)
          refine drain_sound ⟨sound.subscriptions, ?_⟩ number
            ⟨⟨live.once, live.subscribed, fun _ _ => rfl, live.pending⟩, live.through,
              live.listener⟩ rfl ?_ ?_
          · rintro _ ⟨⟩
            exact number
          · intro queue there
            exact absurd there (none_ queue)
          · intro request asked queue item
            apply none_ queue
            simp only [Channel.owners, List.mem_map, List.mem_append]
            exact ⟨request.item, .inl ⟨request, asked, rfl⟩, by rw [item]; rfl⟩
      · cases turned
  | answered =>
      simp only [turn] at turned
      split at turned
      · rename_i channel current
        split at turned
        · cases turned
        · rename_i task count rest asked
          cases turned
          exact answered_set_sound sound current asked
        · rename_i task rest asked
          cases turned
          exact answered_start_sound sound current asked
      · cases turned
  | lost =>
      simp only [turn] at turned
      split at turned
      · rename_i channel current
        cases turned
        exact ⟨⟨forget_bounded channel.queue sound.subscriptions, sound.consuming⟩, by simp⟩
      · cases turned
  | deliver consumer =>
      simp only [turn] at turned
      split at turned
      · split at turned
        · obtain ⟨_, ⟨⟩⟩ := Option.ite_none_right_eq_some.mp turned
          exact ⟨⟨sound.subscriptions, sound.consuming⟩, sound.live⟩
        · cases turned
      · cases turned
  | settle handler =>
      obtain ⟨_, ⟨⟩⟩ := Option.ite_none_right_eq_some.mp turned
      exact ⟨⟨sound.subscriptions, sound.consuming⟩, sound.live⟩

/-- Once the listener of the channel is through and all is answered, every subscription has one
consumer on it; no dead-letter queue ever has two. -/
def ConsumedOnce (service : Service) : Prop :=
  ∀ channel, service.current = some channel →
    (channel.consumers.map fun consumer => consumer.1.owner).Nodup ∧
      (channel.setup = .done → channel.queue = [] →
        ∀ index < service.subscriptions.length,
          .subscription index ∈ channel.consumers.map fun consumer => consumer.1.owner)

theorem sound_once (sound : Sound service) : ConsumedOnce service := by
  intro channel current
  obtain ⟨_, live⟩ := sound.live channel current
  have owners : channel.owners = channel.queue.map (fun request => request.item.owner) ++
      channel.consumers.map fun consumer => consumer.1.owner := by
    simp [Channel.owners, Function.comp_def]
  constructor
  · have once := live.once
    rw [owners] at once
    exact once.of_append_right
  · intro done idle index within
    have consumes := live.through index within (by rw [done]; trivial)
    have there := (live.subscribed index).mpr consumes
    rw [owners, idle] at there
    exact there

end Steps

/-! ## Each under its own prefetch -/

/-- A start goes on when the last count asked for on the channel is its own, and a message is
delivered when none of its queue is still being handled from an earlier channel. -/
def careful (service : Service) : Event → Bool
  | .answered =>
      match service.current with
      | some channel =>
          match channel.queue with
          | .set task _ :: _ =>
              Request.latest channel.limit channel.queue == service.prefetch task.owner
          | _ => true
      | none => true
  | .deliver consumer =>
      match service.current with
      | some channel =>
          (channel.consumers[consumer]?).all fun pair =>
            service.handlers.all fun handler =>
              handler.owner != pair.1.owner || handler.channel == channel.number
      | none => true
  | _ => true

def carefulTurn (durable : Nat) (service : Service) (event : Event) : Option Service :=
  if careful service event then turn durable service event else none

/-- Every consumer, there or asked for, is under its own count. -/
def Own (service : Service) (channel : Channel) : Prop :=
  ∀ pair ∈ channel.consumers ++ Request.started channel.limit channel.queue,
    pair.2 = service.prefetch pair.1.owner

/-- How many messages of one queue are being handled, from whichever channel. -/
def handled (handlers : List Handler) (owner : Owner) : Nat :=
  handlers.countP fun handler => handler.owner == owner

structure Kept (service : Service) : Prop extends Sound service where
  own : ∀ channel, service.current = some channel → Own service channel
  few : ∀ owner, service.prefetch owner ≠ 0 →
    handled service.handlers owner ≤ service.prefetch owner
  known : ∀ handler ∈ service.handlers, ∀ index, handler.owner = .subscription index →
    index < service.subscriptions.length

section Bounds

variable {durable : Nat} {service next : Service} {channel after : Channel} {task : Task}
  {owner : Owner} {index : Nat}

theorem set_channel_prefetch {subscriptions : List Subscription} {to_ : Option Nat} :
    prefetchOf (setChannel subscriptions index to_) owner = prefetchOf subscriptions owner := by
  cases owner with
  | deadLetters queue => rfl
  | subscription other =>
      by_cases same : index = other
      · subst same
        cases held : subscriptions[index]? <;> simp [prefetchOf, setChannel, held]
      · simp [prefetchOf, setChannel, same]

theorem forget_prefetch (subscriptions : List Subscription) (queue : List (Request Task Nat)) :
    prefetchOf (queue.foldl forget subscriptions) owner = prefetchOf subscriptions owner := by
  induction queue generalizing subscriptions with
  | nil => rfl
  | cons request rest ih =>
      rw [List.foldl_cons, ih (forget subscriptions request)]
      unfold forget
      split
      · exact set_channel_prefetch
      · rfl

theorem forget_length (subscriptions : List Subscription) (queue : List (Request Task Nat)) :
    (queue.foldl forget subscriptions).length = subscriptions.length := by
  induction queue generalizing subscriptions with
  | nil => rfl
  | cons request rest ih =>
      rw [List.foldl_cons, ih (forget subscriptions request)]
      unfold forget
      split
      · exact set_channel_length none
      · rfl

theorem added_prefetch {subscriptions : List Subscription} {options : SubscribeOptions}
    (old : owner ≠ .subscription subscriptions.length) :
    prefetchOf (subscriptions ++ [⟨options, none⟩]) owner = prefetchOf subscriptions owner := by
  cases owner with
  | deadLetters queue => rfl
  | subscription index =>
      have apart : index ≠ subscriptions.length := by
        rintro rfl
        exact old rfl
      simp only [prefetchOf, List.getElem?_append]
      split
      · rfl
      · rename_i beyond
        have past : 1 ≤ index - subscriptions.length := by omega
        rw [List.getElem?_eq_none (Nat.le_of_not_lt beyond),
          List.getElem?_eq_none (by simpa using past)]

/-- A step that asks for counts only, of which nothing is started yet. -/
structure Keeps (service : Service) (channel : Channel) (next : Service) : Prop where
  current : ∃ after, next.current = some after ∧ after.consumers = channel.consumers ∧
    Request.started after.limit after.queue = Request.started channel.limit channel.queue
  prefetch : ∀ owner, next.prefetch owner = service.prefetch owner
  handlers : next.handlers = service.handlers
  length : next.subscriptions.length = service.subscriptions.length

theorem consume_keeps : Keeps service channel (service.consume channel index task) :=
  ⟨⟨_, rfl, rfl, Request.started_set _⟩, fun _ => set_channel_prefetch, rfl,
    set_channel_length _⟩

theorem consume_all_keeps (from_ : Nat) :
    Keeps service channel (service.consumeAll channel from_) := by
  unfold Service.consumeAll
  split
  · exact ⟨⟨_, rfl, rfl, Request.started_set _⟩, fun _ => set_channel_prefetch, rfl,
      set_channel_length _⟩
  · exact ⟨⟨_, rfl, rfl, rfl⟩, fun _ => rfl, rfl, rfl⟩

theorem drain_keeps (queue : Nat) :
    Keeps service channel (service.drain durable channel queue) := by
  unfold Service.drain
  refine ⟨⟨_, rfl, ?_, ?_⟩, fun _ => rfl, rfl, rfl⟩
  · split <;> rfl
  · split
    · exact Request.started_set _
    · rfl

theorem resume_keeps : Keeps service channel (service.resume durable channel task) := by
  cases task with
  | subscribe index => exact ⟨⟨_, rfl, rfl, rfl⟩, fun _ => rfl, rfl, rfl⟩
  | consumeAll index => exact consume_all_keeps _
  | drain queue => exact drain_keeps _

theorem kept_keeps (sound : Sound next) (keeps : Keeps service channel next)
    (own : Own service channel)
    (few : ∀ owner, service.prefetch owner ≠ 0 →
      handled service.handlers owner ≤ service.prefetch owner)
    (known : ∀ handler ∈ service.handlers, ∀ index, handler.owner = .subscription index →
      index < service.subscriptions.length) : Kept next := by
  refine ⟨sound, ?_, ?_, ?_⟩
  · obtain ⟨after, same, consumers, started⟩ := keeps.current
    intro channel current
    rw [same] at current
    cases current
    intro pair member
    rw [consumers, started] at member
    rw [keeps.prefetch]
    exact own pair member
  · intro owner positive
    rw [keeps.prefetch] at positive ⊢
    rw [keeps.handlers]
    exact few owner positive
  · rw [keeps.handlers, keeps.length]
    exact known

theorem started_owner (pair : Task × Nat)
    (member : pair ∈ channel.consumers ++ Request.started channel.limit channel.queue) :
    pair.1.owner ∈ channel.owners := by
  simp only [Channel.owners, List.mem_map, List.mem_append]
  rcases List.mem_append.mp member with there | asked
  · exact ⟨pair.1, .inr ⟨pair, there, rfl⟩, rfl⟩
  · obtain ⟨request, waits, same⟩ := Request.started_asked asked
    exact ⟨pair.1, .inl ⟨request, waits, same⟩, rfl⟩

theorem subscribe_kept (kept : Kept service) (options : SubscribeOptions)
    (sound : Sound next)
    (turned : turn durable service (.subscribe options) = some next) : Kept next := by
  let added : Service :=
    { service with subscriptions := service.subscriptions ++ [⟨options, none⟩] }
  have none_ : handled service.handlers (.subscription service.subscriptions.length) = 0 := by
    rw [handled, List.countP_eq_zero]
    intro handler working own
    exact Nat.lt_irrefl _ (kept.known handler working _ (beq_iff_eq.mp own))
  have few : ∀ owner, added.prefetch owner ≠ 0 →
      handled added.handlers owner ≤ added.prefetch owner := by
    intro owner positive
    by_cases new : owner = .subscription service.subscriptions.length
    · rw [new]
      exact none_ ▸ Nat.zero_le _
    · have same : added.prefetch owner = service.prefetch owner := added_prefetch new
      rw [same] at positive ⊢
      exact kept.few owner positive
  have known : ∀ handler ∈ added.handlers, ∀ index, handler.owner = .subscription index →
      index < added.subscriptions.length := by
    intro handler working index own
    simp only [added, List.length_append, List.length_singleton]
    exact Nat.lt_succ_of_lt (kept.known handler working index own)
  simp only [turn] at turned
  split at turned
  · rename_i channel current
    cases turned
    have keeps : Keeps added channel (added.consume channel service.subscriptions.length
        (.subscribe service.subscriptions.length)) := consume_keeps
    refine kept_keeps sound keeps ?_ few known
    intro pair member
    have there := (kept.live channel current).2.subscribed service.subscriptions.length
    have old : pair.1.owner ≠ .subscription service.subscriptions.length := by
      intro new
      have asked := started_owner pair member
      rw [new] at asked
      exact Nat.lt_irrefl _ (consumes_within (there.mp asked))
    have same : added.prefetch pair.1.owner = service.prefetch pair.1.owner := added_prefetch old
    rw [same]
    exact kept.own channel current pair member
  · rename_i idle
    cases turned
    refine ⟨sound, ?_, few, known⟩
    intro channel current
    rw [idle] at current
    cases current

theorem answered_kept (kept : Kept service) (sound : Sound next)
    (own_ : careful service .answered = true)
    (turned : turn durable service .answered = some next) : Kept next := by
  simp only [turn] at turned
  split at turned
  · rename_i channel current
    have own := kept.own channel current
    simp only [careful, current] at own_
    split at turned
    · cases turned
    · rename_i task count rest asked
      rw [asked] at own_
      cases turned
      refine ⟨sound, ?_, kept.few, kept.known⟩
      rintro _ ⟨⟩ pair member
      simp only [Request.started_start] at member
      rw [← List.append_assoc] at member
      rcases List.mem_append.mp member with old | new
      · apply own pair
        rw [asked]
        exact old
      · cases List.mem_singleton.mp new
        exact beq_iff_eq.mp own_
    · rename_i task rest asked
      cases turned
      refine kept_keeps sound resume_keeps ?_ kept.few kept.known
      intro pair member
      apply own pair
      rw [asked]
      simpa [Request.started] using member
  · cases turned

theorem deliver_kept {consumer : Nat} (kept : Kept service) (sound : Sound next)
    (alone : careful service (.deliver consumer) = true)
    (turned : turn durable service (.deliver consumer) = some next) : Kept next := by
  simp only [turn] at turned
  split at turned
  · rename_i channel current
    split at turned
    · rename_i task limit found
      obtain ⟨room, ⟨⟩⟩ := Option.ite_none_right_eq_some.mp turned
      simp only [careful, current, found, Option.all_some, List.all_eq_true, Bool.or_eq_true,
        bne_iff_ne, beq_iff_eq] at alone
      have member : (task, limit) ∈ channel.consumers := List.mem_of_getElem? found
      have own : limit = service.prefetch task.owner :=
        kept.own channel current (task, limit) (List.mem_append_left _ member)
      refine ⟨sound, kept.own, ?_, ?_⟩
      · intro owner positive
        change _ ≤ service.prefetch owner
        simp only [handled, List.countP_append, List.countP_singleton]
        by_cases mine : task.owner = owner
        · subst mine
          -- All that is handled of the queue came by this channel.
          have here : handled service.handlers task.owner =
              holding service.handlers channel.number task.owner := by
            apply List.countP_congr
            intro handler working
            rcases alone handler working with other | same
            · simp [other]
            · simp [same]
          have room := room.resolve_left (own ▸ positive)
          rw [← here, own] at room
          simpa [handled] using room
        · have count := kept.few owner positive
          simpa [handled, mine] using count
      · intro handler working index own
        rcases List.mem_append.mp working with old | new
        · exact kept.known handler old index own
        · cases List.mem_singleton.mp new
          have asked : task.owner ∈ channel.owners :=
            started_owner (task, limit) (List.mem_append_left _ member)
          have subscribed := (kept.live channel current).2.subscribed index
          rw [show task.owner = .subscription index from own] at asked
          exact consumes_within (subscribed.mp asked)
    · cases turned
  · cases turned

theorem turn_kept {event : Event} (kept : Kept service) (careful_ : careful service event = true)
    (turned : turn durable service event = some next) : Kept next := by
  have sound := turn_sound kept.toSound turned
  cases event with
  | subscribe options => exact subscribe_kept kept options sound turned
  | connected =>
      simp only [turn] at turned
      split at turned
      · cases turned
      · cases turned
        refine kept_keeps sound (consume_all_keeps 0) ?_ kept.few kept.known
        intro pair member
        cases member
  | drain =>
      simp only [turn] at turned
      split at turned
      · rename_i channel current
        split at turned
        · cases turned
        · cases turned
          exact kept_keeps sound (drain_keeps 0) (kept.own channel current) kept.few kept.known
      · cases turned
  | answered => exact answered_kept kept sound careful_ turned
  | lost =>
      simp only [turn] at turned
      split at turned
      · rename_i channel current
        cases turned
        refine ⟨sound, by simp, ?_, ?_⟩
        · intro owner positive
          have same : prefetchOf (channel.queue.foldl forget service.subscriptions) owner =
            service.prefetch owner := forget_prefetch service.subscriptions channel.queue
          rw [Service.prefetch, same] at positive ⊢
          exact kept.few owner positive
        · intro handler working index own
          rw [forget_length service.subscriptions channel.queue]
          exact kept.known handler working index own
      · cases turned
  | deliver consumer => exact deliver_kept kept sound careful_ turned
  | settle handler =>
      obtain ⟨_, ⟨⟩⟩ := Option.ite_none_right_eq_some.mp turned
      refine ⟨sound, kept.own, ?_, ?_⟩
      · intro owner positive
        have fewer := (List.eraseIdx_sublist service.handlers handler).countP_le
          (p := fun handler => handler.owner == owner)
        exact Nat.le_trans fewer (kept.few owner positive)
      · intro other working index own
        exact kept.known other (List.mem_of_mem_eraseIdx working) index own

end Bounds

theorem begun_kept : Kept begun :=
  ⟨begun_sound, by simp [begun], by simp [begun, handled], by simp [begun]⟩

/-- In every run each subscription is consumed once on a channel whose listener is through. Where
every start finds its own count the last one asked for, each consumer is under its own prefetch,
and no more messages are handled at once than it allows. -/
theorem prefetch_kept (durable : Nat) :
    (∀ service, Run (turn durable) begun service → ConsumedOnce service) ∧
      ∀ service, Run (carefulTurn durable) begun service →
        (∀ channel, service.current = some channel → ∀ consumer ∈ channel.consumers,
          consumer.2 = service.prefetch consumer.1.owner) ∧
        ∀ first second, first ≠ second →
          service.prefetch first = LOCK_THEN_ASK_PREFETCH →
          service.prefetch second = LOCK_THEN_ASK_PREFETCH →
            handled service.handlers first + handled service.handlers second ≤
              2 * LOCK_THEN_ASK_PREFETCH := by
  constructor
  · intro service run
    refine sound_once (run_keeps ?_ begun_sound run : Sound service)
    exact fun _ _ _ sound turned => turn_sound sound turned
  · intro service run
    have kept : Kept service := by
      refine run_keeps ?_ begun_kept run
      intro state event after kept turned
      obtain ⟨careful_, turned⟩ := Option.ite_none_right_eq_some.mp turned
      exact turn_kept kept careful_ turned
    constructor
    · intro channel current consumer there
      exact kept.own channel current consumer (List.mem_append_left _ there)
    · intro first second _ one two
      have left := kept.few first (by rw [one]; decide)
      have right := kept.few second (by rw [two]; decide)
      rw [one] at left
      rw [two] at right
      omega

/-! ## The Order Service's hooks -/

def options (queue : String) (prefetch : Option Nat) : SubscribeOptions := { queue, prefetch }

/-- One start after another. -/
def apart : List Event :=
  [ .connected, .drain, .subscribe (options "reservation-results" (some 3)), .answered, .answered,
    .subscribe (options "user-suspensions" (some 3)), .answered, .answered, .deliver 0 ]

/-- The hooks subscribe before the broker has answered any of them. -/
def together : List Event :=
  [ .connected, .drain, .subscribe (options "reservation-results" (some 3)),
    .subscribe (options "transfer-results" none),
    .subscribe (options "user-suspensions" (some 3)), .subscribe (options "live" none) ] ++
    List.replicate 8 .answered ++ List.replicate 4 (.deliver 0) ++ List.replicate 4 (.deliver 2)

theorem apart_kept : ∃ service, Run (carefulTurn 0) begun service ∧
    handled service.handlers (.subscription 0) + handled service.handlers (.subscription 1) ≤
      6 := by
  have ran : ((turns (carefulTurn 0) begun apart).any fun service =>
      service.prefetch (.subscription 0) == 3 &&
        service.prefetch (.subscription 1) == 3) = true := by
    decide +kernel
  obtain ⟨service, reached, both⟩ := (Option.any_eq_true _ _).mp ran
  obtain ⟨first, second⟩ := Bool.and_eq_true_iff.mp both
  have run := run_turns .refl apart reached
  obtain ⟨_, few⟩ := (prefetch_kept 0).2 service run
  exact ⟨service, run, few _ _ (by decide) (beq_iff_eq.mp first) (beq_iff_eq.mp second)⟩

/-- Both consumers that ask under a lock are under the last count asked for. -/
theorem together_exceeds : ∃ service, Run (turn 0) begun service ∧
    service.prefetch (.subscription 0) = LOCK_THEN_ASK_PREFETCH ∧
    service.prefetch (.subscription 2) = LOCK_THEN_ASK_PREFETCH ∧
    (∃ channel, service.current = some channel ∧ (.subscribe 0, 10) ∈ channel.consumers) ∧
    2 * LOCK_THEN_ASK_PREFETCH <
      handled service.handlers (.subscription 0) + handled service.handlers (.subscription 2) := by
  have ran : ((turns (turn 0) begun together).any fun service =>
      decide (service.prefetch (.subscription 0) = LOCK_THEN_ASK_PREFETCH ∧
        service.prefetch (.subscription 2) = LOCK_THEN_ASK_PREFETCH) &&
      (service.current.any fun channel => decide ((.subscribe 0, 10) ∈ channel.consumers)) &&
      decide (2 * LOCK_THEN_ASK_PREFETCH < handled service.handlers (.subscription 0) +
        handled service.handlers (.subscription 2))) = true := by
    decide +kernel
  obtain ⟨service, reached, all⟩ := (Option.any_eq_true _ _).mp ran
  simp only [Bool.and_eq_true, decide_eq_true_eq, Option.any_eq_true] at all
  obtain ⟨⟨⟨first, second⟩, channel, current, under⟩, more⟩ := all
  exact ⟨service, run_turns .refl together reached, first, second, ⟨channel, current, under⟩, more⟩

end Foc.Platform.Prefetch
