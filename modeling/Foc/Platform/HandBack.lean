import Foc.Library.EventLoop
import Foc.Library.LockTable

/-!
Hand-backs of mandatory messages (`publisher.ts`, and the relay's wait in `outbox.ts`).
Attempts at publishing events on any number of channels, what the broker does with them
and what the publisher hears of it. The broker hands an unroutable mandatory message back
before it confirms it, and a channel runs the callbacks of its confirmations in the order
of the publishes, one confirmation being for one message or for several.
-/
namespace Foc.HandBack
open Library.EventLoop Library.LockTable

inductive Outcome where
  | resolved
  | unroutable
  | failed
  deriving DecidableEq, Repr

/-- One call of `EventPublisher.publish` past its checks. `routed` is what the broker made
of the message: whether a queue has it. -/
structure Attempt where
  eventId : String
  channel : Nat
  mandatory : Bool
  routed : Option Bool
  returned : Bool
  outcome : Option Outcome
  /-- The relay is waiting for it. -/
  awaited : Bool
  deriving DecidableEq, Repr

/-- `marked` are the events whose outbox rows the relay marked published. -/
structure State where
  attempts : List Attempt
  watched : List Nat
  handedBack : List String
  marked : List String
  deriving DecidableEq, Repr

def initial : State := { attempts := [], watched := [], handedBack := [], marked := [] }

/-- What of the message the channel's listener sees: only a string is an id. -/
def remember (state : State) (channel : Nat) (messageId : Option String) : State :=
  match messageId with
  | some id =>
      if channel ∈ state.watched then { state with handedBack := id :: state.handedBack } else state
  | none => state

inductive Event where
  | publish (eventId : String) (channel : Nat) (mandatory relayed : Bool)
  | route (index : Nat) (queued : Bool)
  | handBack (index : Nat)
  /-- A message of another sender on the channel. -/
  | handBackOther (channel : Nat) (messageId : Option String)
  | answer (index : Nat) (error : Bool)
  | timeOut (index : Nat)
  deriving DecidableEq, Repr

def begin (state : State) (eventId : String) (channel : Nat) (mandatory relayed : Bool) : State :=
  { state with
    attempts := state.attempts ++
      [{ eventId, channel, mandatory, routed := none, returned := false, outcome := none
         awaited := relayed }]
    watched := if mandatory && !state.watched.contains channel then channel :: state.watched
      else state.watched }

/-- Whether the broker may answer an attempt: an error comes at any time, a confirmation
once the message is routed, and handed back where it has to be. -/
def mayAnswer (state : State) (index : Nat) (attempt : Attempt) (error : Bool) : Bool :=
  decide (attempt.outcome = none) &&
  (state.attempts.take index).all (fun other =>
    decide (other.channel ≠ attempt.channel) || other.outcome.isSome) &&
  (error || match attempt.routed with
    | none => false
    | some true => true
    | some false => !attempt.mandatory || attempt.returned)

/-- How an attempt ends: `handedBack.delete` told whether its event was handed back. -/
def outcomeOf (state : State) (attempt : Attempt) (error : Bool) : Outcome :=
  if error then .failed
  else if attempt.eventId ∈ state.handedBack then .unroutable
  else .resolved

/-- The callback of `channel.publish`. -/
def settle (state : State) (index : Nat) (attempt : Attempt) (error : Bool) : State :=
  { state with
    attempts := state.attempts.set index
      { attempt with outcome := some (outcomeOf state attempt error) }
    handedBack := state.handedBack.filter fun id => decide (id ≠ attempt.eventId)
    marked := if outcomeOf state attempt error = .resolved ∧ attempt.awaited then
        attempt.eventId :: state.marked
      else state.marked }

def turn : Turn State Event := fun state event =>
  match event with
  | .publish eventId channel mandatory relayed => some (begin state eventId channel mandatory relayed)
  | .route index queued =>
      state.attempts[index]?.bind fun attempt =>
        if attempt.routed = none then
          some { state with
            attempts := state.attempts.set index { attempt with routed := some queued } }
        else none
  | .handBack index =>
      state.attempts[index]?.bind fun attempt =>
        if attempt.mandatory ∧ attempt.routed = some false ∧ attempt.outcome = none ∧
            attempt.returned = false then
          some (remember
            { state with attempts := state.attempts.set index { attempt with returned := true } }
            attempt.channel (some attempt.eventId))
        else none
  | .handBackOther channel messageId => some (remember state channel messageId)
  | .answer index error =>
      state.attempts[index]?.bind fun attempt =>
        if mayAnswer state index attempt error then some (settle state index attempt error) else none
  | .timeOut index =>
      state.attempts[index]?.map fun attempt =>
        { state with attempts := state.attempts.set index { attempt with awaited := false } }

/-! ## The relay's record -/

/-- Whether an answer comes while no other attempt at its event is handed back and still
unanswered. -/
def alone (state : State) : Event → Bool
  | .answer index _ =>
      match state.attempts[index]? with
      | none => true
      | some attempt => (state.attempts.zipIdx.all fun (other, place) =>
          decide (place = index) || decide (other.eventId ≠ attempt.eventId) ||
            other.outcome.isSome || !other.returned)
  | _ => true

/-- Only what is alone when it is answered. -/
def aloneTurn : Turn State Event := fun state event =>
  if alone state event then turn state event else none

/-- What holds of an attempt: a hand-back is remembered until it is answered. -/
structure Known (state : State) (attempt : Attempt) : Prop where
  watched : attempt.mandatory = true → attempt.channel ∈ state.watched
  returned : attempt.returned = true → attempt.mandatory = true ∧ attempt.routed = some false
  held : attempt.returned = true → attempt.outcome = none → attempt.eventId ∈ state.handedBack
  resolved : attempt.outcome = some .resolved → attempt.mandatory = true → attempt.routed = some true

structure Sound (state : State) : Prop where
  known : ∀ (index : Nat) attempt, state.attempts[index]? = some attempt → Known state attempt
  marked : ∀ eventId ∈ state.marked, ∃ (index : Nat) (attempt : Attempt),
    state.attempts[index]? = some attempt ∧ attempt.eventId = eventId ∧
      attempt.outcome = some .resolved

theorem sound_initial : Sound initial := by
  constructor
  · intro index attempt found
    cases found
  · intro eventId member
    cases member

variable {state after : State} {index : Nat} {old new : Attempt}

/-- One attempt changes, and what the others rely on stays. -/
theorem sound_change (sound : Sound state) (found : state.attempts[index]? = some old)
    (attempts : after.attempts = state.attempts.set index new) (watched : after.watched = state.watched)
    (held : ∀ (other : Nat) attempt, index ≠ other → state.attempts[other]? = some attempt →
      attempt.returned = true → attempt.outcome = none → attempt.eventId ∈ after.handedBack)
    (known : Known after new)
    (marked : ∀ eventId ∈ after.marked, eventId ∈ state.marked ∨
      eventId = new.eventId ∧ new.outcome = some .resolved)
    (kept : old.outcome = some .resolved →
      new.eventId = old.eventId ∧ new.outcome = some .resolved) : Sound after := by
  constructor
  · intro other attempt there
    rw [attempts, get_set found] at there
    rcases there with ⟨-, rfl⟩ | ⟨differs, there⟩
    · exact known
    · have before := sound.known other attempt there
      refine ⟨?_, before.returned, held other attempt differs there, before.resolved⟩
      rw [watched]
      exact before.watched
  · intro eventId member
    rcases marked eventId member with before | ⟨rfl, resolved⟩
    · obtain ⟨other, attempt, there, is, resolved⟩ := sound.marked eventId before
      by_cases same : index = other
      · subst same
        rw [found] at there
        cases there
        obtain ⟨named, still⟩ := kept resolved
        refine ⟨index, new, ?_, named.trans is, still⟩
        rw [attempts, get_set found]
        exact .inl ⟨rfl, rfl⟩
      · refine ⟨other, attempt, ?_, is, resolved⟩
        rw [attempts, get_set found]
        exact .inr ⟨same, there⟩
    · refine ⟨index, new, ?_, rfl, resolved⟩
      rw [attempts, get_set found]
      exact .inl ⟨rfl, rfl⟩

theorem remember_fields (state : State) (channel : Nat) (messageId : Option String) :
    (remember state channel messageId).attempts = state.attempts ∧
      (remember state channel messageId).watched = state.watched ∧
      (remember state channel messageId).marked = state.marked ∧
      ∀ id ∈ state.handedBack, id ∈ (remember state channel messageId).handedBack := by
  cases messageId with
  | none => exact ⟨rfl, rfl, rfl, fun _ member => member⟩
  | some id =>
      rw [remember]
      split
      · exact ⟨rfl, rfl, rfl, fun _ member => List.mem_cons_of_mem _ member⟩
      · exact ⟨rfl, rfl, rfl, fun _ member => member⟩

theorem sound_remember (sound : Sound state) (channel : Nat) (messageId : Option String) :
    Sound (remember state channel messageId) := by
  obtain ⟨attempts, watched, marked, held⟩ := remember_fields state channel messageId
  constructor
  · intro index attempt found
    rw [attempts] at found
    have before := sound.known index attempt found
    refine ⟨?_, before.returned, ?_, before.resolved⟩
    · rw [watched]
      exact before.watched
    · intro returned unanswered
      exact held _ (before.held returned unanswered)
  · rw [attempts, marked]
    exact sound.marked

theorem sound_begin (sound : Sound state) (eventId : String) (channel : Nat)
    (mandatory relayed : Bool) : Sound (begin state eventId channel mandatory relayed) := by
  have kept : ∀ other ∈ state.watched,
      other ∈ (begin state eventId channel mandatory relayed).watched := by
    intro other member
    simp only [begin]
    split
    · exact List.mem_cons_of_mem _ member
    · exact member
  constructor
  · intro index attempt found
    rcases get_append found with before | ⟨-, rfl⟩
    · obtain ⟨watched, returned, held, resolved⟩ := sound.known index attempt before
      exact ⟨fun needs => kept _ (watched needs), returned, held, resolved⟩
    · refine ⟨?_, nofun, nofun, nofun⟩
      intro needs
      simp only [begin]
      split
      · exact List.mem_cons_self
      · next listed =>
        -- The channel is watched already.
        have needs : mandatory = true := needs
        rw [needs, Bool.true_and, Bool.not_eq_true, Bool.not_eq_false'] at listed
        exact List.contains_iff_mem.mp listed
  · intro other member
    obtain ⟨index, attempt, found, is, resolved⟩ := sound.marked other member
    refine ⟨index, attempt, ?_, is, resolved⟩
    simp only [begin]
    rw [List.getElem?_append_left (List.getElem?_eq_some_iff.mp found).1]
    exact found

theorem alone_answer {attempt other : Attempt} {place : Nat} {error : Bool}
    (single : alone state (.answer index error) = true)
    (found : state.attempts[index]? = some attempt) (there : state.attempts[place]? = some other)
    (differs : index ≠ place) (same : other.eventId = attempt.eventId)
    (unanswered : other.outcome = none) : other.returned = false := by
  rw [alone, found] at single
  have listed : (other, place) ∈ state.attempts.zipIdx := List.mem_zipIdx_iff_getElem?.mpr there
  have each := List.all_eq_true.mp single _ listed
  simpa [differs.symm, same, unanswered] using each

theorem sound_settle {error : Bool} (sound : Sound state)
    (single : alone state (.answer index error) = true)
    (found : state.attempts[index]? = some old) (may : mayAnswer state index old error = true) :
    Sound (settle state index old error) := by
  have before := sound.known index old found
  simp only [mayAnswer, Bool.and_eq_true, decide_eq_true_eq] at may
  obtain ⟨⟨unanswered, -⟩, ready⟩ := may
  refine sound_change sound found rfl rfl ?_ ?_ ?_ ?_
  · -- The id that is forgotten is no other's that waits for its answer.
    intro other attempt differs there returned waiting
    have held := (sound.known other attempt there).held returned waiting
    rw [settle, List.mem_filter]
    refine ⟨held, decide_eq_true ?_⟩
    intro same
    have clear := alone_answer single found there differs same waiting
    rw [clear] at returned
    cases returned
  · refine ⟨before.watched, before.returned, nofun, ?_⟩
    intro resolved needs
    -- It resolved: no error, and nothing handed back.
    have resolved : outcomeOf state old error = .resolved := Option.some.inj resolved
    rw [outcomeOf] at resolved
    split at resolved
    · cases resolved
    · next confirmed =>
      split at resolved
      · cases resolved
      · next fresh =>
        have needs : old.mandatory = true := needs
        rw [Bool.not_eq_true] at confirmed
        rw [confirmed, Bool.false_or, needs] at ready
        cases routed : old.routed with
        | none =>
            rw [routed] at ready
            cases ready
        | some queued =>
            cases queued with
            | true => rfl
            | false =>
                rw [routed] at ready
                exact absurd (before.held (by simpa using ready) unanswered) fresh
  · intro eventId member
    simp only [settle] at member
    split at member
    · next resolved =>
      rcases List.mem_cons.mp member with rfl | earlier
      · exact .inr ⟨rfl, congrArg some resolved.1⟩
      · exact .inl earlier
    · exact .inl member
  · intro resolved
    rw [unanswered] at resolved
    cases resolved

theorem turn_sound {event : Event} (sound : Sound state) (turned : aloneTurn state event = some after) :
    Sound after := by
  rw [aloneTurn] at turned
  split at turned
  · next single =>
    cases event with
    | publish eventId channel mandatory relayed =>
        cases turned
        exact sound_begin sound eventId channel mandatory relayed
    | route index queued =>
        obtain ⟨attempt, found, changed⟩ := Option.bind_eq_some_iff.mp turned
        split at changed
        · next unrouted =>
          cases changed
          have before := sound.known index attempt found
          refine sound_change sound found rfl rfl ?_ ?_ ?_ ?_
          · intro other attempt _ there
            exact (sound.known other attempt there).held
          · refine ⟨before.watched, ?_, before.held, ?_⟩
            · intro returned
              have routed := (before.returned returned).2
              rw [unrouted] at routed
              cases routed
            · intro resolved needs
              have routed := before.resolved resolved needs
              rw [unrouted] at routed
              cases routed
          · exact fun eventId member => .inl member
          · exact fun resolved => ⟨rfl, resolved⟩
        · cases changed
    | handBack index =>
        obtain ⟨attempt, found, changed⟩ := Option.bind_eq_some_iff.mp turned
        split at changed
        · next returns =>
          cases changed
          obtain ⟨needs, unrouted, unanswered, -⟩ := returns
          have before := sound.known index attempt found
          obtain ⟨attempts, watched, marked, held⟩ := remember_fields
            { state with attempts := state.attempts.set index { attempt with returned := true } }
            attempt.channel (some attempt.eventId)
          refine sound_change sound found attempts watched ?_ ?_ ?_ ?_
          · intro other attempt _ there returned waiting
            exact held _ ((sound.known other attempt there).held returned waiting)
          · refine ⟨?_, fun _ => ⟨needs, unrouted⟩, fun _ _ => ?_, before.resolved⟩
            · rw [watched]
              exact before.watched
            · rw [remember, if_pos (before.watched needs)]
              exact List.mem_cons_self
          · rw [marked]
            exact fun eventId member => .inl member
          · exact fun resolved => ⟨rfl, resolved⟩
        · cases changed
    | handBackOther channel messageId =>
        cases turned
        exact sound_remember sound channel messageId
    | answer index error =>
        obtain ⟨attempt, found, changed⟩ := Option.bind_eq_some_iff.mp turned
        split at changed
        · next may =>
          cases changed
          exact sound_settle sound single found may
        · cases changed
    | timeOut index =>
        obtain ⟨attempt, found, changed⟩ := Option.map_eq_some_iff.mp turned
        cases changed
        have before := sound.known index attempt found
        refine sound_change sound found rfl rfl ?_ ?_ ?_ ?_
        · intro other attempt _ there
          exact (sound.known other attempt there).held
        · exact ⟨before.watched, before.returned, before.held, before.resolved⟩
        · exact fun eventId member => .inl member
        · exact fun resolved => ⟨rfl, resolved⟩
  · cases turned

/-- An answer takes the mark of every attempt at its event: the next one to be confirmed
resolves, handed back or not. -/
theorem mark_taken {error : Bool} {other : Attempt} (same : other.eventId = old.eventId) :
    outcomeOf (settle state index old error) other false = .resolved := by
  have gone : other.eventId ∉ (settle state index old error).handedBack := by
    rw [settle, List.mem_filter, same]
    rintro ⟨-, differs⟩
    exact of_decide_eq_true differs rfl
  rw [outcomeOf, if_neg Bool.false_ne_true, if_neg gone]

/-- In every run whose answers are alone, a mandatory publish that resolves was not handed
back and reached a queue, and a row that the relay marks published is that of one. -/
theorem resolved_delivered (run : Run aloneTurn initial state) :
    (∀ attempt ∈ state.attempts, attempt.outcome = some .resolved → attempt.mandatory = true →
      attempt.returned = false ∧ attempt.routed = some true) ∧
    ∀ eventId ∈ state.marked, ∃ attempt ∈ state.attempts, attempt.eventId = eventId ∧
      attempt.outcome = some .resolved ∧ (attempt.mandatory = true → attempt.routed = some true) := by
  have sound : Sound state :=
    run_keeps (fun _ _ _ sound turned => turn_sound sound turned) sound_initial run
  constructor
  · intro attempt member resolved needs
    obtain ⟨index, found⟩ := List.mem_iff_getElem?.mp member
    have known := sound.known index attempt found
    have routed := known.resolved resolved needs
    refine ⟨?_, routed⟩
    by_contra returned
    rw [Bool.not_eq_false] at returned
    have unrouted := (known.returned returned).2
    rw [routed] at unrouted
    cases unrouted
  · intro eventId member
    obtain ⟨index, attempt, found, is, resolved⟩ := sound.marked eventId member
    exact ⟨attempt, List.mem_of_getElem? found, is, resolved,
      (sound.known index attempt found).resolved resolved⟩

/-- One attempt, handed back and told so. -/
theorem resolved_delivered_once : ∃ state, Run aloneTurn initial state ∧
    state.attempts.map Attempt.outcome = [some .unroutable, some .resolved] ∧
    state.marked = ["e1"] ∧
    ∀ attempt ∈ state.attempts, attempt.outcome = some .resolved → attempt.mandatory = true →
      attempt.returned = false ∧ attempt.routed = some true := by
  have run : Run aloneTurn initial
      { attempts :=
          [{ eventId := "e1", channel := 0, mandatory := true, routed := some false, returned := true
             outcome := some .unroutable, awaited := true },
           { eventId := "e1", channel := 0, mandatory := true, routed := some true, returned := false
             outcome := some .resolved, awaited := true }]
        watched := [0], handedBack := [], marked := ["e1"] } :=
    run_turns .refl [.publish "e1" 0 true true, .route 0 false, .handBack 0, .answer 0 false,
      .publish "e1" 0 true true, .route 1 true, .answer 1 false] (by decide +kernel)
  exact ⟨_, run, by decide, rfl, (resolved_delivered run).1⟩

/-- The relay gives up on an attempt and makes another. The broker hands both back and
confirms both at once: the first callback takes the mark of both. -/
theorem second_attempt_resolves : ∃ state, Run turn initial state ∧ state.marked = ["e1"] ∧
    ∀ attempt ∈ state.attempts, attempt.mandatory = true ∧ attempt.returned = true ∧
      attempt.routed = some false := by
  have run : Run turn initial
      { attempts :=
          [{ eventId := "e1", channel := 0, mandatory := true, routed := some false, returned := true
             outcome := some .unroutable, awaited := false },
           { eventId := "e1", channel := 0, mandatory := true, routed := some false, returned := true
             outcome := some .resolved, awaited := true }]
        watched := [0], handedBack := [], marked := ["e1"] } :=
    run_turns .refl [.publish "e1" 0 true true, .timeOut 0, .publish "e1" 0 true true,
      .route 0 false, .handBack 0, .route 1 false, .handBack 1, .answer 0 false, .answer 1 false]
      (by decide +kernel)
  exact ⟨_, run, rfl, by decide⟩

end Foc.HandBack
