import Foc.Chat.Sending
import Mathlib.Data.List.Pairwise

/-!
A send of a `clientId` that was already stored. While the errand is within retention its
channel and the message stay, so every later send of the same body by a participant is
answered at the first look, before any lock or limit: with the message, unless the body
holds half a surrogate pair, which the column does not give back.
-/
namespace Foc.Chat.Sending
open Library Library.Utf16 Library.EventLoop Library.LockTable

variable {settings : Settings} {state after : State}

/-! ## Channels and their messages -/

/-- What is stored, or being stored, has its channel. -/
structure Filed (state : State) : Prop where
  messages : ∀ message ∈ state.messages, (state.channels message.orderId).isSome = true
  locked : ∀ (index : Nat) request, state.requests[index]? = some request →
    request.stage.holdsChannel = true → (state.channels request.orderId).isSome = true

theorem write_channels (request : Request) (orderId : Uuid)
    (there : (state.channels orderId).isSome = true) :
    ((state.write request).channels orderId).isSome = true := by
  rw [State.write]
  split
  · simp only
    split
    · cases state.channels orderId with
      | none => rfl
      | some latestSeq => rfl
    · exact there
  · simp only
    split
    · rw [Option.isSome_map]
      exact there
    · exact there
  · exact there

theorem advance_filed {request : Request} {stage : Stage}
    (stepped : advance settings state request = some stage)
    (locked : request.stage.holdsChannel = true → (state.channels request.orderId).isSome = true)
    (holds : stage.holdsChannel = true) : (state.channels request.orderId).isSome = true := by
  cases is : request.stage with
  | sender =>
      simp only [advance, is] at stepped
      split at stepped
      · cases stepped
        cases holds
      · next latestSeq there => simp [there]
  | channel | unstored | counting | counted | inserted =>
      apply locked
      rw [is]
      rfl
  | arrived | informed | opening | opened | admitted | unsent | answered | lost =>
      simp only [advance, is] at stepped
      repeat' split at stepped
      all_goals cases stepped
      all_goals cases holds

theorem filed_moved (sound : Sound settings state) (filed : Filed state)
    (moved : Moved settings state after) : Filed after := by
  cases moved with
  | time | clock | order | condemn => exact ⟨filed.messages, filed.locked⟩
  | arrive request arrived =>
      refine ⟨filed.messages, ?_⟩
      intro index asked there holds
      rcases get_append there with there | ⟨-, rfl⟩
      · exact filed.locked index asked there holds
      · rw [arrived] at holds
        cases holds
  | advance index request stage found stepped =>
      constructor
      · intro message there
        apply write_channels
        rcases write_messages request with ⟨added, asOf, is, stored⟩ | ⟨-, same⟩
        · rw [State.put, stored, List.mem_append, List.mem_singleton] at there
          rcases there with there | rfl
          · exact filed.messages message there
          · have knows := sound.knows index request found
            rw [is] at knows
            obtain ⟨-, -, -, ⟨latestSeq, made⟩, -⟩ := knows
            rw [made]
            exact filed.locked index request found (by simp [is, Stage.holdsChannel])
        · rw [State.put, same] at there
          exact filed.messages message there
      · intro other asked there holds
        apply write_channels
        rw [State.put, write_requests] at there
        rcases (get_set found).mp there with ⟨-, rfl⟩ | ⟨-, there⟩
        · have kept := advance_filed stepped (filed.locked index request found)
          exact kept holds
        · exact filed.locked other asked there holds
  | leave index request stage found unanswered left =>
      refine ⟨filed.messages, ?_⟩
      intro other asked there holds
      rcases (get_set found).mp there with ⟨-, rfl⟩ | ⟨-, there⟩
      · rcases left with rfl | ⟨rfl, -⟩
        · cases holds
        · cases holds
      · exact filed.locked other asked there holds
  | delete orderId condemned free =>
      constructor
      · intro message there
        obtain ⟨there, other⟩ := List.mem_filter.mp there
        have same : Function.update state.channels orderId none message.orderId =
            state.channels message.orderId := Function.update_of_ne (of_decide_eq_true other) ..
        change (Function.update state.channels orderId none message.orderId).isSome = true
        rw [same]
        exact filed.messages message there
      · intro index asked there holds
        have apart := channel_free free there
        have other : asked.orderId ≠ orderId := by simpa [heldChannel, holds] using apart
        have same : Function.update state.channels orderId none asked.orderId =
            state.channels asked.orderId := Function.update_of_ne other ..
        change (Function.update state.channels orderId none asked.orderId).isSome = true
        rw [same]
        exact filed.locked index asked there holds

theorem fresh_filed (fresh : state.Fresh) : Filed state := by
  obtain ⟨-, messages, requests, -⟩ := fresh
  constructor
  · simp [messages]
  · simp [requests]

/-! ## Keeping access -/

/-- The errand is known and within retention. -/
def retained (settings : Settings) (state : State) (orderId : Uuid) : Bool :=
  (state.orders orderId).any fun order => !pastRetention order settings.retentionDays state.clock

/-- The user is a participant of an errand within retention. -/
def accessible (settings : Settings) (state : State) (orderId : Uuid) (userId : UserId) : Bool :=
  (state.orders orderId).any fun order => !pastRetention order settings.retentionDays state.clock &&
    (decide (userId = order.requesterId) || decide (some userId = order.courierId))

def whileRetained (settings : Settings) (orderId : Uuid) : Turn State Event := fun state event =>
  if retained settings state orderId then turn settings state event else none

def whileAccessible (settings : Settings) (orderId : Uuid) (userId : UserId) : Turn State Event :=
  fun state event =>
    if accessible settings state orderId userId then turn settings state event else none

theorem accessible_retained {orderId : Uuid} {userId : UserId}
    (access : accessible settings state orderId userId = true) :
    retained settings state orderId = true := by
  rw [accessible, Option.any_eq_true] at access
  obtain ⟨order, is, access⟩ := access
  rw [Bool.and_eq_true] at access
  rw [retained, Option.any_eq_true]
  exact ⟨order, is, access.1⟩

/-- What is stored on a retained errand stays stored. -/
theorem retained_message {message : Message} (sound : Sound settings state)
    (retained : retained settings state message.orderId = true)
    (there : message ∈ state.messages) (moved : Moved settings state after) :
    message ∈ after.messages := by
  cases moved with
  | time | clock | order | arrive | leave | condemn => exact there
  | advance index request stage found stepped =>
      rcases write_messages request with ⟨added, asOf, -, stored⟩ | ⟨-, same⟩
      · rw [State.put, stored]
        exact List.mem_append_left _ there
      · rw [State.put, same]
        exact there
  | delete orderId condemned free =>
      refine List.mem_filter.mpr ⟨there, decide_eq_true ?_⟩
      rintro rfl
      obtain ⟨order, is, past⟩ := sound.condemned message.orderId condemned
      simp [Foc.Chat.Sending.retained, is, past] at retained

/-! ## The retry -/

/-- How far a send of a stored `clientId` gets: it never passes its first look. -/
def Looks (message : Message) (request : Request) : Prop :=
  match request.stage with
  | .arrived | .admitted _ | .lost => True
  | .informed order => roleOf order request.caller = some .requester ∨
      roleOf order request.caller = some .courier
  | .answered reply => reply = repeated message request.send.body
  | _ => False

theorem participant_role {order : OrderForChat} {caller : AuthContext}
    (participant : (decide (caller.userId = order.requesterId) ||
      decide (some caller.userId = order.courierId)) = true) :
    roleOf order caller = some .requester ∨ roleOf order caller = some .courier := by
  rw [Bool.or_eq_true, decide_eq_true_eq, decide_eq_true_eq] at participant
  by_cases requester : caller.userId = order.requesterId
  · exact .inl (by rw [roleOf, if_pos requester])
  · refine .inr ?_
    rw [roleOf, if_neg requester, if_pos (participant.resolve_left requester)]

theorem distinct_keys {messages : List Message} (distinct : Distinct messages)
    {first second : Message} (one : first ∈ messages) (other : second ∈ messages)
    (apart : first ≠ second) : ¬ (first.orderId = second.orderId ∧
      first.senderId = second.senderId ∧ first.clientId = second.clientId) := by
  have symmetric : Std.Symm fun first second : Message => ¬ (first.orderId = second.orderId ∧
      first.senderId = second.senderId ∧ first.clientId = second.clientId) := by
    constructor
    intro first second differ same
    exact differ ⟨same.1.symm, same.2.1.symm, same.2.2.symm⟩
  exact List.Pairwise.forall distinct one other apart

theorem find_stored {message : Message} {request : Request} (sound : Sound settings state)
    (there : message ∈ state.messages) (keyed : request.Keyed message) :
    findSent state request.orderId request.caller.userId request.send.clientId = some message := by
  cases found : findSent state request.orderId request.caller.userId request.send.clientId with
  | none => exact absurd keyed ((find_none request).mp found message there)
  | some other =>
      obtain ⟨listed, same⟩ := find_some found
      by_contra differs
      have apart : other ≠ message := fun is => differs (congrArg some is)
      exact distinct_keys sound.distinct listed there apart ⟨same.1.trans keyed.1.symm,
        same.2.1.trans keyed.2.1.symm, same.2.2.trans keyed.2.2.symm⟩

/-- A statement of a participant's repeated send, its message stored. -/
theorem advance_looks {message : Message} {request : Request} {stage : Stage}
    (sound : Sound settings state) (filed : Filed state) (there : message ∈ state.messages)
    (keyed : request.Keyed message)
    (access : accessible settings state request.orderId request.caller.userId = true)
    (looks : Looks message request) (stepped : advance settings state request = some stage) :
    Looks message { request with stage } := by
  have channel := filed.messages message there
  rw [keyed.1] at channel
  cases is : request.stage with
  | arrived =>
      rw [accessible, Option.any_eq_true] at access
      obtain ⟨order, known, access⟩ := access
      rw [Bool.and_eq_true, Bool.not_eq_true'] at access
      simp only [advance, is, known, access.1] at stepped
      cases stepped
      exact participant_role access.2
  | informed order =>
      rw [Looks, is] at looks
      have welcome : refusal order request.caller (state.channels request.orderId) = none := by
        obtain ⟨latestSeq, existing⟩ := Option.isSome_iff_exists.mp channel
        rcases looks with role | role
        · simp [refusal, role, existing]
        · simp [refusal, role, existing]
      simp only [advance, is, welcome, channel] at stepped
      cases stepped
      trivial
  | admitted isOpen =>
      simp only [advance, is, find_stored sound there keyed] at stepped
      cases stepped
      rfl
  | answered | lost =>
      simp only [advance, is] at stepped
      cases stepped
  | opening | opened | unsent | sender | channel | unstored | counting | counted | inserted =>
      rw [Looks, is] at looks
      exact looks.elim

/-- While its sender has access, every later send of a stored `clientId`. -/
structure Recognised (settings : Settings) (message : Message) (send : Send) (arrived : Nat)
    (state : State) : Prop where
  sound : Sound settings state
  filed : Filed state
  there : message ∈ state.messages
  looks : ∀ (index : Nat) request, arrived ≤ index → state.requests[index]? = some request →
    request.Keyed message → request.send = send → Looks message request

theorem recognised_keeps {message : Message} {send : Send} {arrived : Nat} {event : Event}
    (recognised : Recognised settings message send arrived state)
    (turned : whileAccessible settings message.orderId message.senderId state event = some after) :
    Recognised settings message send arrived after := by
  simp only [whileAccessible, Option.ite_none_right_eq_some] at turned
  obtain ⟨access, turned⟩ := turned
  have moved := turn_moved turned
  refine ⟨sound_moved recognised.sound moved, filed_moved recognised.sound recognised.filed moved,
    retained_message recognised.sound (accessible_retained access) recognised.there moved, ?_⟩
  have looks := recognised.looks
  cases moved with
  | time | clock | order | condemn | delete => exact looks
  | arrive request is =>
      intro index asked late there keyed same
      rcases get_append there with there | ⟨-, rfl⟩
      · exact looks index asked late there keyed same
      · simp [Looks, is]
  | advance index request stage found stepped =>
      intro other asked late there keyed same
      rw [State.put, write_requests] at there
      rcases (get_set found).mp there with ⟨rfl, rfl⟩ | ⟨-, there⟩
      · have own : request.Keyed message := keyed
        rw [keyed.1, keyed.2.1] at access
        exact advance_looks recognised.sound recognised.filed recognised.there own access
          (looks index request late found own same) stepped
      · exact looks other asked late there keyed same
  | leave index request stage found unanswered left =>
      intro other asked late there keyed same
      rcases (get_set found).mp there with ⟨rfl, rfl⟩ | ⟨-, there⟩
      · rcases left with rfl | ⟨rfl, waits⟩
        · trivial
        · -- A repeated send waits for no lock.
          have own : request.Keyed message := keyed
          have before := looks index request late found own same
          rcases waits with is | is
          · rw [Looks, is] at before
            exact before.elim
          · rw [Looks, is] at before
            exact before.elim
      · exact looks other asked late there keyed same

/-- A stored message and everything it needs, while its errand is within retention. -/
structure Kept (settings : Settings) (message : Message) (state : State) : Prop where
  sound : Sound settings state
  filed : Filed state
  there : message ∈ state.messages

theorem kept_retained {message : Message} {event : Event} (kept : Kept settings message state)
    (turned : whileRetained settings message.orderId state event = some after) :
    Kept settings message after := by
  simp only [whileRetained, Option.ite_none_right_eq_some] at turned
  obtain ⟨retained, turned⟩ := turned
  have moved := turn_moved turned
  exact ⟨sound_moved kept.sound moved, filed_moved kept.sound kept.filed moved,
    retained_message kept.sound retained kept.there moved⟩

/-- What holds of every state, with the channels. -/
structure Whole (settings : Settings) (state : State) : Prop where
  sound : Sound settings state
  filed : Filed state

theorem whole_keeps {event : Event} (whole : Whole settings state)
    (turned : turn settings state event = some after) : Whole settings after where
  sound := sound_moved whole.sound (turn_moved turned)
  filed := filed_moved whole.sound whole.filed (turn_moved turned)

theorem run_whole {start : State} (fresh : start.Fresh) (run : Run (turn settings) start state) :
    Whole settings state :=
  run_keeps (fun _ _ _ whole turned => whole_keeps whole turned)
    (Whole.mk (fresh_sound fresh) (fresh_filed fresh)) run

/-- Only a commit answers with a message just created. -/
theorem advance_created {request : Request} {message : Message}
    (stepped : advance settings state request = some (.answered (.sent message true))) :
    ∃ asOf, request.stage = .inserted message asOf := by
  cases is : request.stage with
  | inserted stored asOf =>
      simp only [advance, is] at stepped
      cases stepped
      exact ⟨asOf, rfl⟩
  | informed order =>
      simp only [advance, is] at stepped
      split at stepped
      · next reply refused =>
        cases stepped
        rcases refusal_reply refused with same | same
        · cases same
        · cases same
      · split at stepped
        · cases stepped
        · cases stepped
  | admitted | channel =>
      simp only [advance, is, repeated] at stepped
      repeat' split at stepped
      all_goals cases stepped
  | arrived | opening | opened | unsent | sender | unstored | counting | counted | answered | lost =>
      simp only [advance, is] at stepped
      repeat' split at stepped
      all_goals cases stepped

/-- The statement that stores a message leaves it stored. -/
theorem stored_kept {start : State} (fresh : start.Fresh) (run : Run (turn settings) start state)
    {index : Nat} {request : Request} {message : Message}
    (turned : turn settings state (.advance index) = some after)
    (answered : after.requests[index]? = some request)
    (sent : request.stage = .answered (.sent message true)) :
    Kept settings message after ∧ request.Keyed message ∧
      message.body = storedBody request.send.body := by
  have later := whole_keeps (run_whole fresh run) turned
  have knows := later.sound.knows index request answered
  rw [sent] at knows
  obtain ⟨latestSeq, sentAt, made⟩ := knows
  refine ⟨⟨later.sound, later.filed, ?_⟩, ?_, ?_⟩
  · simp only [turn, Option.bind_eq_bind] at turned
    obtain ⟨asked, found, turned⟩ := Option.bind_eq_some_iff.mp turned
    obtain ⟨stage, stepped, turned⟩ := Option.bind_eq_some_iff.mp turned
    cases turned
    rw [State.put, write_requests] at answered
    obtain ⟨-, rfl⟩ | ⟨apart, -⟩ := (get_set found).mp answered
    · subst sent
      obtain ⟨asOf, is⟩ := advance_created stepped
      simp [State.put, State.write, is]
    · exact absurd rfl apart
  · rw [made]
    exact ⟨rfl, rfl, rfl⟩
  · rw [made]
    rfl

/-- The answer to a repeat of a stored body. -/
theorem repeated_stored (message : Message) {body : Units} (is : message.body = storedBody body) :
    (repeated message body = .sent message false ↔ WellFormed body) ∧
      (repeated message body = .keyReused ↔ ¬ WellFormed body) := by
  rw [repeated, is, storedBody, String.toList_ofList]
  by_cases formed : WellFormed body
  · simp [(of_text_text body).mpr formed, formed]
  · simp [mt (of_text_text body).mp formed, formed]

/-- After a send was stored, and while its errand stays within retention: every later send
of the same `clientId` and body by the same user, while they are a participant, that is
answered at all is answered with the stored message, not created, exactly when the body is
well formed. Otherwise it is refused as a different message. -/
theorem retry_recognised {start before stored later final : State} (fresh : start.Fresh)
    (run : Run (turn settings) start before) {first second : Nat} {request retry : Request}
    {message : Message} {reply : Reply}
    (committed : turn settings before (.advance first) = some stored)
    (answered : stored.requests[first]? = some request)
    (sent : request.stage = .answered (.sent message true))
    (retained : Run (whileRetained settings request.orderId) stored later)
    (access : Run (whileAccessible settings request.orderId request.caller.userId) later final)
    (late : later.requests.length ≤ second) (retried : final.requests[second]? = some retry)
    (errand : retry.orderId = request.orderId)
    (user : retry.caller.userId = request.caller.userId) (same : retry.send = request.send)
    (replied : retry.stage = .answered reply) :
    (reply = .sent message false ↔ WellFormed request.send.body) ∧
      (reply = .keyReused ↔ ¬ WellFormed request.send.body) := by
  obtain ⟨kept, keyed, body⟩ := stored_kept fresh run committed answered sent
  rw [← keyed.1] at retained access errand
  rw [← keyed.2.1] at access user
  have kept := run_keeps (fun _ _ _ kept turned => kept_retained kept turned) kept retained
  have none : ∀ (index : Nat) asked, later.requests.length ≤ index →
      later.requests[index]? = some asked → asked.Keyed message → asked.send = request.send →
      Looks message asked := by
    intro index asked past found
    have inside := (List.getElem?_eq_some_iff.mp found).1
    omega
  have recognised := run_keeps (fun _ _ _ recognised turned => recognised_keeps recognised turned)
    (Recognised.mk kept.sound kept.filed kept.there none) access
  have own : retry.Keyed message := ⟨errand.symm, user.symm, same ▸ keyed.2.2⟩
  have looks := recognised.looks second retry late retried own same
  rw [Looks, replied] at looks
  rw [looks, same]
  exact repeated_stored message body

/-! ## A send and its retry -/

/-- A send that is stored, and the same send again. -/
structure Exchange (body : Units) where
  before : State
  stored : State
  final : State
  run : Run (turn settingsOne) blank before
  committed : turn settingsOne before (.advance 0) = some stored
  access : Run (whileAccessible settingsOne 1 "u1") stored final

def requestOne (body : Units) (stage : Stage) : Request :=
  { orderId := 1, caller := callerOne
    send := { clientId := 0x11111111111141118111111111111111, body }, stage }

def messageOne (body : Units) : Message :=
  { orderId := 1, seq := 1, senderId := "u1", clientId := 0x11111111111141118111111111111111
    body := storedBody body, sentAt := 0 }

/-- The requests of a send once it is stored, and of its retry once it is answered. -/
def exchange (body : Units) : Option (List Request × List Request) := do
  let before ← turns (turn settingsOne) blank (statements 0 body 11)
  let stored ← turn settingsOne before (.advance 0)
  let final ← turns (whileAccessible settingsOne 1 "u1") stored (statements 1 body 3)
  return (stored.requests, final.requests)

theorem exchange_some {body : Units} {sent retried : List Request}
    (exchanged : exchange body = some (sent, retried)) :
    ∃ exchange : Exchange body, exchange.stored.requests = sent ∧ exchange.final.requests = retried := by
  obtain ⟨before, ran, exchanged⟩ := Option.bind_eq_some_iff.mp exchanged
  obtain ⟨stored, committed, exchanged⟩ := Option.bind_eq_some_iff.mp exchanged
  obtain ⟨final, again, exchanged⟩ := Option.bind_eq_some_iff.mp exchanged
  cases exchanged
  exact ⟨⟨before, stored, final, run_turns .refl _ ran, committed, run_turns .refl _ again⟩, rfl, rfl⟩

theorem hello_exchanged : exchange (keyName "hi") =
    some ([requestOne (keyName "hi") (.answered (.sent (messageOne (keyName "hi")) true))],
      [requestOne (keyName "hi") (.answered (.sent (messageOne (keyName "hi")) true)),
        requestOne (keyName "hi") (.answered (.sent (messageOne (keyName "hi")) false))]) := by
  decide +kernel

theorem half_exchanged : exchange [0xD83D] =
    some ([requestOne [0xD83D] (.answered (.sent (messageOne [0xD83D]) true))],
      [requestOne [0xD83D] (.answered (.sent (messageOne [0xD83D]) true)),
        requestOne [0xD83D] (.answered .keyReused)]) := by
  decide +kernel

theorem hello_recognised : ∃ exchange : Exchange (keyName "hi"),
    exchange.final.requests[1]? =
      some (requestOne (keyName "hi") (.answered (.sent (messageOne (keyName "hi")) false))) ∧
    WellFormed (keyName "hi") := by
  obtain ⟨exchange, sent, retried⟩ := exchange_some hello_exchanged
  have first : exchange.stored.requests[0]? =
      some (requestOne (keyName "hi") (.answered (.sent (messageOne (keyName "hi")) true))) := by
    rw [sent]
    rfl
  have second : exchange.final.requests[1]? =
      some (requestOne (keyName "hi") (.answered (.sent (messageOne (keyName "hi")) false))) := by
    rw [retried]
    rfl
  have late : exchange.stored.requests.length ≤ 1 := by
    rw [sent]
    exact Nat.le_refl 1
  exact ⟨exchange, second, (retry_recognised blank_fresh exchange.run exchange.committed first rfl
    .refl exchange.access late second rfl rfl rfl rfl).1.mp rfl⟩

/-- Half a surrogate pair is accepted and stored, and its retry is refused as a different
message. -/
theorem half_pair_refused :
    (sendSchema (inputOf [0xD83D])).isSome = true ∧
    ∃ exchange : Exchange [0xD83D],
      exchange.stored.requests =
        [requestOne [0xD83D] (.answered (.sent (messageOne [0xD83D]) true))] ∧
      exchange.final.requests =
        [requestOne [0xD83D] (.answered (.sent (messageOne [0xD83D]) true)),
          requestOne [0xD83D] (.answered .keyReused)] :=
  ⟨by decide +kernel, exchange_some half_exchanged⟩

end Foc.Chat.Sending
