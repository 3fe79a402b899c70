import Foc.Platform.Redriven
import Mathlib

/-!
Whole runs of redrives: what they send, what becomes of a row, and what a later call on
it answers.
-/
namespace Foc.Redrive
open Library.EventLoop Library.LockTable
open Foc.Sender (Account HeaderValue SenderProperties failureHeaders headerAttempt headerRedriveOf
  headerSender redriveProperties resendProperties senderOf erase_headers)

variable {account : Option Account}

/-! ## What is sent -/

/-- `message.properties.headers?.[HEADER_ATTEMPT] ?? 1`, which the consumer counts from. -/
def firstAttempt (properties : SenderProperties) : HeaderValue :=
  match properties.header headerAttempt with
  | none | some .null => .number 1
  | some attempt => attempt

/-- The stored message to its own queue, its headers without the failure headers, with the
marker and the sender's record. -/
structure Resent (account : Option Account) (id : String) (letter : Letter) (message : Message) :
    Prop where
  queue : message.routingKey = letter.queue
  body : message.body = letter.body
  identity : message.messageId = letter.messageId
  marker : message.properties.header headerRedriveOf = some (.string id)
  sender : message.properties.header headerSender =
    ((senderOf letter.properties account).map HeaderValue.string).or
      (letter.properties.header headerSender)
  failures : ∀ name ∈ failureHeaders, message.properties.header name = none
  others : ∀ name, name ≠ headerRedriveOf → name ≠ headerSender → name ∉ failureHeaders →
    message.properties.header name = letter.properties.header name
  attempts : firstAttempt message.properties = .number 1

variable {stored : SenderProperties} {id name : String}

theorem stored_header : (stored.headers.getD ∅).lookup name = stored.header name := by
  cases is : stored.headers with
  | none => simp [SenderProperties.header, is]
  | some headers => simp [SenderProperties.header, is]

theorem resent_header (other : name ≠ headerSender) :
    (resendProperties stored account).header name = stored.header name := by
  rw [SenderProperties.header, resendProperties, Option.bind_some, ← stored_header]
  split
  · exact AList.lookup_insert_ne other
  · rfl

theorem resent_sender : (resendProperties stored account).header headerSender =
    ((senderOf stored account).map HeaderValue.string).or (stored.header headerSender) := by
  rw [SenderProperties.header, resendProperties, Option.bind_some]
  cases senderOf stored account with
  | none => exact stored_header
  | some sender => exact AList.lookup_insert _

theorem redriven_header (other : name ≠ headerRedriveOf) :
    (redriveProperties stored id account).header name =
      if name ∈ failureHeaders then none else (resendProperties stored account).header name := by
  rw [SenderProperties.header, redriveProperties, Option.bind_some, AList.lookup_insert_ne other,
    erase_headers, stored_header]

theorem message_resent (letter : Letter) :
    Resent account id letter (redriveMessage account id letter) := by
  have failures : ∀ name ∈ failureHeaders,
      (redriveProperties letter.properties id account).header name = none := by
    intro name member
    have other : name ≠ headerRedriveOf := by
      rintro rfl
      revert member
      decide
    rw [redriven_header other, if_pos member]
  refine ⟨rfl, rfl, rfl, ?_, ?_, failures, ?_, ?_⟩
  · rw [SenderProperties.header, redriveMessage, redriveProperties, Option.bind_some,
      AList.lookup_insert]
  · change (redriveProperties letter.properties id account).header headerSender = _
    rw [redriven_header (by decide), if_neg (by decide), resent_sender]
  · intro name unmarked unsent kept
    change (redriveProperties letter.properties id account).header name = _
    rw [redriven_header unmarked, if_neg kept, resent_header unsent]
  · change firstAttempt (redriveProperties letter.properties id account) = _
    rw [firstAttempt, failures headerAttempt (by decide)]

/-! ## What one step changes -/

/-- A new call, before it does anything. -/
def Begun (call : Call) : Prop :=
  call.phase = .waiting ∨ call.phase = .ended .brokerUnavailable ∧ call.offline = true

/-- Where a call goes that waits for its row. -/
def Answers (row : Option DeadLetter) (phase : Phase) : Prop :=
  phase = .waiting ∨ phase = .ended .databaseError ∨ row = none ∧ phase = .ended .notFound ∨
    (∃ old, row = some old ∧ old.redriven ≠ none ∧ phase = .ended .alreadyRedriven) ∨
    ∃ old, row = some old ∧ old.redriven = none ∧ phase = .locked old.letter

/-- A call in one step: it is the same call, what waits for its row goes by the row, and what
has ended stays. -/
structure Advances (rows : String → Option DeadLetter) (old new : Call) : Prop where
  id : new.id = old.id
  offline : new.offline = old.offline
  waiting : old.phase = .waiting → Answers (rows old.id) new.phase
  ended : ∀ result, old.phase = .ended result → new.phase = .ended result

structure Steps (state after : State) : Prop where
  rows : ∀ id row, state.rows id = some row →
    ∃ new, after.rows id = some new ∧ (new = row ∨ Guard row new)
  calls : ∀ (index : Nat) call, after.calls[index]? = some call → Begun call ∨
    ∃ before, state.calls[index]? = some before ∧ Advances state.rows before call

variable {state after later : State} {index : Nat} {call old new : Call} {row : DeadLetter}
  {rows : String → Option DeadLetter}

theorem advances_same (named : new.id = old.id) (kept : new.offline = old.offline)
    (same : new.phase = old.phase) : Advances rows old new :=
  ⟨named, kept, fun waits => .inl (same.trans waits), fun _ ended => same.trans ended⟩

/-- A call between its lock and its end. -/
theorem advances_going {phase : Phase} (is : old.phase = phase) (unended : ∀ result, phase ≠ .ended result)
    (locked : phase ≠ .waiting) (named : new.id = old.id) (kept : new.offline = old.offline) :
    Advances rows old new :=
  ⟨named, kept, fun waits => absurd (is.symm.trans waits) locked,
    fun result ended => absurd (is.symm.trans ended) (unended result)⟩

theorem advances_heard (channel : Nat) (messageId : Option String) (advances : Advances rows old new) :
    Advances rows old (hear channel messageId new) := by
  rcases hear_either channel messageId new with same | same
  · rw [same]
    exact advances
  · rw [same]
    exact ⟨advances.id, advances.offline, advances.waiting, advances.ended⟩

theorem steps_put (found : state.calls[index]? = some old) (advances : Advances state.rows old new) :
    Steps state (put state index new) := by
  constructor
  · intro id row there
    exact ⟨row, there, .inl rfl⟩
  · intro other call there
    rcases (get_set found).mp there with ⟨rfl, rfl⟩ | ⟨-, there⟩
    · exact .inr ⟨old, found, advances⟩
    · exact .inr ⟨call, there, advances_same rfl rfl rfl⟩

theorem steps_hear (channel : Nat) (messageId : Option String) (steps : Steps state after) :
    Steps state (hearAll after channel messageId) := by
  refine ⟨steps.rows, ?_⟩
  intro index call there
  rw [hearAll, List.getElem?_map] at there
  obtain ⟨heard, at_, rfl⟩ := Option.map_eq_some_iff.mp there
  rcases steps.calls index heard at_ with begun | ⟨before, found, advances⟩
  · left
    rcases hear_either channel messageId heard with same | same
    · rw [same]
      exact begun
    · rw [same]
      exact begun
  · exact .inr ⟨before, found, advances_heard channel messageId advances⟩

theorem steps_rows (kept : ∀ id row, state.rows id = some row →
    ∃ new, rows id = some new ∧ (new = row ∨ Guard row new)) :
    Steps state { state with rows } :=
  ⟨kept, fun _ call there => .inr ⟨call, there, advances_same rfl rfl rfl⟩⟩

theorem steps_lock (found : state.calls[index]? = some call) (waits : call.phase = .waiting) :
    Steps state (takeLock state index call) := by
  have advances : ∀ phase, Answers (state.rows call.id) phase →
      Advances state.rows call { call with phase } := by
    intro phase answers
    refine ⟨rfl, rfl, fun _ => answers, ?_⟩
    intro result ended
    rw [waits] at ended
    cases ended
  rw [takeLock]
  split
  · next absent => exact steps_put found (advances _ (.inr (.inr (.inl ⟨absent, rfl⟩))))
  · next row there =>
    split
    · next stamp stamped =>
      refine steps_put found (advances _ (.inr (.inr (.inr (.inl ⟨row, there, ?_, rfl⟩)))))
      rw [stamped]
      simp
    · next unstamped =>
      exact steps_put found (advances _ (.inr (.inr (.inr (.inr ⟨row, there, unstamped, rfl⟩)))))

theorem steps_settle (found : state.calls[index]? = some call) {letter : Letter}
    (publishing : call.phase = .publishing letter) (error : Bool) :
    Steps state (settle state index call letter error) := by
  rw [settle]
  split
  · exact steps_put found (advances_going publishing (by simp) (by simp) rfl rfl)
  · split
    · exact steps_put found (advances_going publishing (by simp) (by simp) rfl rfl)
    · exact steps_put found (advances_going publishing (by simp) (by simp) rfl rfl)

theorem steps_break (found : state.calls[index]? = some call)
    (broken : breakOff state index call = some after) : Steps state after := by
  rw [breakOff] at broken
  split at broken
  · cases broken
    exact steps_put found (advances_same rfl rfl rfl)
  · cases broken
  · next unpublished unended =>
    cases broken
    exact steps_put found ⟨rfl, rfl, fun _ => .inr (.inl rfl),
      fun result ended => absurd ended (unended result)⟩

theorem steps_commit (found : state.calls[index]? = some call) {letter : Letter}
    (stamped : call.phase = .stamped letter)
    (row : state.rows call.id = some { letter, redriven := none }) (result : Result) :
    Steps state { conclude state index call result with
      rows := Function.update state.rows call.id ((state.rows call.id).map fun row =>
        { row with redriven := some (stampOf index call) }) } := by
  have steps : Steps state (conclude state index call result) :=
    steps_put found (advances_going stamped nofun nofun rfl rfl)
  refine ⟨?_, steps.calls⟩
  intro id before there
  by_cases same : id = call.id
  · subst same
    rw [row] at there
    cases there
    exact ⟨_, commit_rows row, .inr ⟨rfl, rfl⟩⟩
  · refine ⟨before, ?_, .inl rfl⟩
    change Function.update state.rows call.id _ id = some before
    rw [Function.update_of_ne same, there]

theorem turn_steps {event : Event} (sound : Sound account state)
    (turned : turn account state event = some after) : Steps state after := by
  have same : Steps state state :=
    ⟨fun _ row there => ⟨row, there, .inl rfl⟩,
      fun _ call there => .inr ⟨call, there, advances_same rfl rfl rfl⟩⟩
  cases event with
  | park id letter =>
      rw [turn] at turned
      split at turned
      · next free =>
        cases turned
        apply steps_rows
        intro other row there
        have differs : other ≠ id := by
          rintro rfl
          rw [free] at there
          cases there
        exact ⟨row, (Function.update_of_ne differs _ _).trans there, .inl rfl⟩
      · cases turned
  | broker channel =>
      cases turned
      exact ⟨same.rows, same.calls⟩
  | start id actorId reason correlationId =>
      cases turned
      refine ⟨same.rows, ?_⟩
      intro index call there
      rcases get_append there with there | ⟨-, rfl⟩
      · exact same.calls index call there
      · left
        cases is : state.channel with
        | none => exact .inr ⟨rfl, rfl⟩
        | some channel => exact .inl rfl
  | lock index =>
      obtain ⟨call, found, changed⟩ := Option.bind_eq_some_iff.mp turned
      split at changed
      · next waits =>
        split at changed
        · cases changed
          exact steps_lock found waits
        · cases changed
      · cases changed
  | publish index throws =>
      obtain ⟨call, found, changed⟩ := Option.bind_eq_some_iff.mp turned
      split at changed
      · next letter locked =>
        split at changed
        · cases changed
          exact steps_put found (advances_going locked (by simp) (by simp) rfl rfl)
        · split at changed
          · cases changed
            exact steps_put found (advances_going locked (by simp) (by simp) rfl rfl)
          · cases changed
            exact steps_put found (advances_going locked (by simp) (by simp) rfl rfl)
      · cases changed
  | route index queued =>
      obtain ⟨call, found, changed⟩ := Option.bind_eq_some_iff.mp turned
      split at changed
      · cases changed
        exact steps_put found (advances_same rfl rfl rfl)
      · cases changed
  | handBack index =>
      obtain ⟨call, found, changed⟩ := Option.bind_eq_some_iff.mp turned
      split at changed
      · next letter publishing =>
        split at changed
        · cases changed
          exact steps_hear _ _ (steps_put found (advances_same rfl rfl rfl))
        · cases changed
      · cases changed
  | handBackOther channel messageId =>
      cases turned
      exact steps_hear channel messageId same
  | answer index error =>
      obtain ⟨call, found, changed⟩ := Option.bind_eq_some_iff.mp turned
      split at changed
      · next letter publishing =>
        split at changed
        · cases changed
          exact steps_settle found publishing error
        · cases changed
      · cases changed
  | stamp index =>
      obtain ⟨call, found, changed⟩ := Option.bind_eq_some_iff.mp turned
      split at changed
      · next letter confirmed =>
        split at changed
        · cases changed
          exact steps_put found (advances_going confirmed (by simp) (by simp) rfl rfl)
        · cases changed
      · cases changed
  | commit index lost =>
      obtain ⟨call, found, changed⟩ := Option.bind_eq_some_iff.mp turned
      split at changed
      · next letter stamped =>
        split at changed
        · next alive =>
          cases changed
          have phase := (sound.known index call found).phase
          rw [stamped] at phase
          exact steps_commit found stamped (phase.1 alive) _
        · cases changed
      · cases changed
  | fail index =>
      obtain ⟨call, found, broken⟩ := Option.bind_eq_some_iff.mp turned
      exact steps_break found broken

/-! ## Whole runs -/

/-- How a call on a redriven row may stand. -/
def Refused (call : Call) : Prop :=
  call.phase = .waiting ∨ call.phase = .ended .alreadyRedriven ∨ call.phase = .ended .databaseError ∨
    call.phase = .ended .brokerUnavailable ∧ call.offline = true

theorem advances_refused (advances : Advances rows old new) (there : rows old.id = some row)
    (stamped : row.redriven ≠ none) (refused : Refused old) : Refused new := by
  rcases refused with waits | ended | ended | ⟨ended, offline⟩
  · rcases advances.waiting waits with same | failed | ⟨absent, -⟩ | ⟨_, -, -, already⟩ |
      ⟨read, at_, unstamped, -⟩
    · exact .inl same
    · exact .inr (.inr (.inl failed))
    · rw [there] at absent
      cases absent
    · exact .inr (.inl already)
    · rw [there] at at_
      cases at_
      exact absurd unstamped stamped
  · exact .inr (.inl (advances.ended _ ended))
  · exact .inr (.inr (.inl (advances.ended _ ended)))
  · exact .inr (.inr (.inr ⟨advances.ended _ ended, advances.offline.trans offline⟩))

/-- A row that is stamped, and how a call that had not read it before stands. -/
structure Shut (account : Option Account) (id : String) (row : DeadLetter) (index : Nat)
    (state : State) : Prop where
  sound : Sound account state
  row : state.rows id = some row
  refused : ∀ call, state.calls[index]? = some call → call.id = id → Refused call

theorem turn_shut {event : Event} (stamped : row.redriven ≠ none) (shut : Shut account id row index state)
    (turned : turn account state event = some after) : Shut account id row index after := by
  have steps := turn_steps shut.sound turned
  refine ⟨turn_sound shut.sound turned, ?_, ?_⟩
  · obtain ⟨new, there, rfl | guard⟩ := steps.rows id row shut.row
    · exact there
    · exact absurd guard.1 stamped
  · intro call there is
    rcases steps.calls index call there with begun | ⟨before, found, advances⟩
    · rcases begun with waits | unavailable
      · exact .inl waits
      · exact .inr (.inr (.inr unavailable))
    · have named : before.id = id := advances.id.symm.trans is
      exact advances_refused advances (named ▸ shut.row) stamped (shut.refused before found named)

theorem run_sound (run : Run (turn account) initial state) : Sound account state :=
  run_keeps (fun _ _ _ sound turned => turn_sound sound turned) sound_initial run

/-- A row changes at most once, as the guard lets it. -/
theorem run_rows (sound : Sound account state) (run : Run (turn account) state later) {id : String}
    {row : DeadLetter} (there : state.rows id = some row) :
    ∃ new, later.rows id = some new ∧ (new = row ∨ Guard row new) := by
  induction run with
  | refl => exact ⟨row, there, .inl rfl⟩
  | next event run turned ih =>
      obtain ⟨middle, at_, changed⟩ := ih
      have steps := turn_steps
        (run_keeps (fun _ _ _ sound turned => turn_sound sound turned) sound run) turned
      obtain ⟨new, there, rfl | guard⟩ := steps.rows id middle at_
      · exact ⟨new, there, changed⟩
      · refine ⟨new, there, .inr ?_⟩
        rcases changed with rfl | before
        · exact guard
        · exact ⟨before.1, guard.2.trans before.2⟩

/-- In every run: a stamp is that of a call whose message the row's own queue has, confirmed;
one call at most is recorded on a row; a row changes once at most and only to be stamped; a
call that reads a stamped row is refused; and what is sent is the stored message. -/
theorem redrive_recorded (run : Run (turn account) initial state) :
    (∀ id row stamp, state.rows id = some row → row.redriven = some stamp →
      ∃ call, state.calls[stamp.call]? = some call ∧ call.id = id ∧ Delivered account call row.letter ∧
        Recorded call) ∧
    (∀ (first second : Nat) one other, state.calls[first]? = some one →
      state.calls[second]? = some other → one.id = other.id → Recorded one → Recorded other →
      first = second) ∧
    (∀ later, Run (turn account) state later → ∀ id row, state.rows id = some row →
      ∃ new, later.rows id = some new ∧ (new = row ∨ Guard row new)) ∧
    (∀ later, Run (turn account) state later → ∀ id row, state.rows id = some row →
      row.redriven ≠ none → ∀ index : Nat,
      (∀ call, state.calls[index]? = some call → call.phase = .waiting) →
      ∀ call, later.calls[index]? = some call → call.id = id → Refused call) ∧
    ∀ (index : Nat) call message, state.calls[index]? = some call → call.sent = some message →
      ∃ row, state.rows call.id = some row ∧ Resent account call.id row.letter message := by
  have sound := run_sound run
  refine ⟨sound.stamps, ?_, ?_, ?_, ?_⟩
  · intro first second one other found beside same recorded again
    obtain ⟨row, stamp, there, is, whose⟩ := (sound.known first one found).recorded recorded
    obtain ⟨read, mark, at_, was, theirs⟩ := (sound.known second other beside).recorded again
    rw [← same, there] at at_
    cases at_
    rw [is] at was
    cases was
    exact whose.symm.trans theirs
  · intro later run id row there
    exact run_rows sound run there
  · intro later run id row there stamped index unread
    have shut : Shut account id row index later :=
      run_keeps (fun _ _ _ shut turned => turn_shut stamped shut turned)
        ⟨sound, there, fun call found _ => .inl (unread call found)⟩ run
    exact shut.refused
  · intro index call message found sent
    obtain ⟨row, there, made⟩ := (sound.known index call found).sent message sent
    exact ⟨row, there, made ▸ message_resent row.letter⟩

/-! ## One dead letter -/

def plainLetter : Letter :=
  { queue := "credit.user-activated", body := [123, 125], messageId := some "e1"
    properties := { userId := none, headers := none, persistent := true } }

/-- It is parked and redriven. -/
def redrivenOnce : List Event :=
  [.park "d1" plainLetter, .broker (some 0), .start "d1" "a1" "fixed" "c1", .lock 0, .publish 0 false,
    .route 0 true, .answer 0 false, .stamp 0, .commit 0 false]

/-- How a call ended. -/
def ending (state : State) (index : Nat) : Option Result :=
  state.calls[index]?.bind fun call =>
    match call.phase with
    | .ended result => some result
    | _ => none

def redriven (state : State) (id : String) : Bool :=
  ((state.rows id).bind DeadLetter.redriven).isSome

theorem reached {events : List Event} {check : State → Bool}
    (run : Run (turn account) initial state)
    (checked : (turns (turn account) state events).any check = true) :
    ∃ later, Run (turn account) initial later ∧ Run (turn account) state later ∧ check later = true := by
  obtain ⟨later, leads, checks⟩ := (Option.any_eq_true _ _).mp checked
  exact ⟨later, run_turns run events leads, run_turns .refl events leads, checks⟩

/-- A second call on the row is refused as the first one is recorded. -/
theorem redrive_recorded_once : ∃ state, ending state 0 = some .redriven ∧
    ending state 1 = some .alreadyRedriven ∧ redriven state "d1" = true ∧
    ∀ id row stamp, state.rows id = some row → row.redriven = some stamp →
      ∃ call, state.calls[stamp.call]? = some call ∧ call.id = id ∧ Delivered none call row.letter ∧
        Recorded call := by
  let check (state : State) : Bool := decide (ending state 0 = some .redriven) &&
    decide (ending state 1 = some .alreadyRedriven) && redriven state "d1"
  obtain ⟨state, run, -, checks⟩ := @reached none initial
    (redrivenOnce ++ [.start "d1" "a1" "again" "c2", .lock 1]) check .refl (by decide +kernel)
  simp only [check, Bool.and_eq_true, decide_eq_true_eq] at checks
  exact ⟨state, checks.1.1, checks.1.2, checks.2, (redrive_recorded run).1⟩

/-- The broker disconnects once a row is redriven: the next call on it does not read it. -/
theorem unread_refusal : ∃ state later, Run (turn none) initial state ∧
    redriven state "d1" = true ∧ Run (turn none) state later ∧ state.calls.length = 1 ∧
    (∃ call, later.calls[1]? = some call ∧ call.id = "d1") ∧
    ending later 1 = some .brokerUnavailable := by
  let before (state : State) : Bool := redriven state "d1" && decide (state.calls.length = 1) &&
    (turns (turn none) state [.broker none, .start "d1" "a1" "again" "c2"]).any fun later =>
      decide (later.calls[1]?.map Call.id = some "d1") && decide (ending later 1 = some .brokerUnavailable)
  obtain ⟨state, run, -, checks⟩ := @reached none initial redrivenOnce before .refl (by decide +kernel)
  simp only [before, Bool.and_eq_true, decide_eq_true_eq] at checks
  obtain ⟨later, -, onward, after⟩ := reached run checks.2
  simp only [Bool.and_eq_true, decide_eq_true_eq] at after
  exact ⟨state, later, run, checks.1.1, onward, checks.1.2, Option.map_eq_some_iff.mp after.1, after.2⟩

end Foc.Redrive
