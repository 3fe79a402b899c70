import Foc.Platform.Redrive

/-!
A redrive is recorded only when it was delivered, and once.
-/
namespace Foc.Redrive
open Library.EventLoop Library.LockTable
open Foc.Sender (Account SenderProperties failureHeaders headerAttempt headerRedriveOf headerSender
  redriveProperties resendProperties senderOf)

variable {account : Option Account}

/-! ## What holds of a call -/

/-- The call's commit took effect. -/
def Recorded (call : Call) : Prop :=
  call.phase = .ended .redriven ∨ call.phase = .ended .commitLost

/-- A queue has the letter's message, and the broker confirmed it. -/
structure Delivered (account : Option Account) (call : Call) (letter : Letter) : Prop where
  sent : call.sent = some (redriveMessage account call.id letter)
  routed : call.routed = some true
  acknowledged : call.acknowledged = true

/-- The row is as the call has locked it. -/
def Holds (rows : String → Option DeadLetter) (call : Call) (letter : Letter) : Prop :=
  call.alive = true → rows call.id = some { letter, redriven := none }

/-- What the call has read is the row's for good. -/
def Read (rows : String → Option DeadLetter) (call : Call) (letter : Letter) : Prop :=
  ∃ row, rows call.id = some row ∧ row.letter = letter

structure Fresh (call : Call) : Prop where
  sent : call.sent = none
  routed : call.routed = none
  returned : call.returned = false

def KnownPhase (account : Option Account) (rows : String → Option DeadLetter) (call : Call) :
    Phase → Prop
  | .waiting => Fresh call
  | .locked letter => Holds rows call letter ∧ Read rows call letter ∧ Fresh call
  | .publishing letter => Holds rows call letter ∧
      call.sent = some (redriveMessage account call.id letter) ∧
      (call.returned = true → call.handedBack = true)
  | .confirmed letter | .stamped letter => Holds rows call letter ∧ Delivered account call letter
  | .ended _ => True

structure Known (account : Option Account) (rows : String → Option DeadLetter) (index : Nat)
    (call : Call) : Prop where
  phase : KnownPhase account rows call call.phase
  recorded : Recorded call → ∃ row stamp, rows call.id = some row ∧ row.redriven = some stamp ∧
    stamp.call = index
  sent : ∀ message, call.sent = some message → ∃ row, rows call.id = some row ∧
    message = redriveMessage account call.id row.letter

structure Sound (account : Option Account) (state : State) : Prop where
  known : ∀ (index : Nat) call, state.calls[index]? = some call → Known account state.rows index call
  exclusive : Exclusive held state.calls
  stamps : ∀ id row stamp, state.rows id = some row → row.redriven = some stamp →
    ∃ call, state.calls[stamp.call]? = some call ∧ call.id = id ∧
      Delivered account call row.letter ∧ Recorded call

theorem sound_initial : Sound account initial := by
  refine ⟨?_, ?_, nofun⟩
  · intro index call found
    cases found
  · intro first second one other found
    cases found

variable {state after : State} {index : Nat} {old new call : Call} {rows changed : String → Option DeadLetter}

theorem known_rows (known : Known account rows index call)
    (same : ∀ row, rows call.id = some row → changed call.id = some row) :
    Known account changed index call := by
  obtain ⟨phase, recorded, sent⟩ := known
  have holds : ∀ letter, Holds rows call letter → Holds changed call letter :=
    fun letter holds alive => same _ (holds alive)
  refine ⟨?_, ?_, ?_⟩
  · revert phase
    cases call.phase with
    | waiting => exact id
    | locked letter =>
        rintro ⟨held, ⟨row, there, is⟩, fresh⟩
        exact ⟨holds letter held, ⟨row, same row there, is⟩, fresh⟩
    | publishing letter => exact fun known => ⟨holds letter known.1, known.2⟩
    | confirmed letter => exact fun known => ⟨holds letter known.1, known.2⟩
    | stamped letter => exact fun known => ⟨holds letter known.1, known.2⟩
    | ended result => exact id
  · intro commits
    obtain ⟨row, stamp, there, is, whose⟩ := recorded commits
    exact ⟨row, stamp, same row there, is, whose⟩
  · intro message is
    obtain ⟨row, there, made⟩ := sent message is
    exact ⟨row, same row there, made⟩

/-- One call changes and the rows do not. -/
theorem sound_put (sound : Sound account state) (found : state.calls[index]? = some old)
    (named : new.id = old.id) (known : Known account state.rows index new)
    (free : held new = none ∨ held new = held old ∨
      ∀ (other : Nat) holder, state.calls[other]? = some holder → held holder ≠ held new)
    (kept : Recorded old → Recorded new ∧
      ∀ letter, Delivered account old letter → Delivered account new letter) :
    Sound account (put state index new) := by
  refine ⟨?_, exclusive_set sound.exclusive found free, ?_⟩
  · intro other call there
    rcases (get_set found).mp there with ⟨rfl, rfl⟩ | ⟨-, there⟩
    · exact known
    · exact sound.known other call there
  · intro id row stamp there is
    obtain ⟨call, at_, whose, delivered, recorded⟩ := sound.stamps id row stamp there is
    by_cases same : index = stamp.call
    · subst same
      rw [found] at at_
      cases at_
      exact ⟨new, (get_set found).mpr (.inl ⟨rfl, rfl⟩), named.trans whose,
        (kept recorded).2 _ delivered, (kept recorded).1⟩
    · exact ⟨call, (get_set found).mpr (.inr ⟨same, at_⟩), whose, delivered, recorded⟩

theorem still_going {phase : Phase} (is : call.phase = phase) (unended : ∀ result, phase ≠ .ended result) :
    ¬ Recorded call := by
  rintro (ends | ends)
  · exact unended _ (is.symm.trans ends)
  · exact unended _ (is.symm.trans ends)

/-- A call that ends without a commit. -/
theorem sound_conclude (sound : Sound account state) (found : state.calls[index]? = some call)
    {result : Result} (unrecorded : result ≠ .redriven ∧ result ≠ .commitLost)
    (going : ¬ Recorded call) : Sound account (conclude state index call result) := by
  refine sound_put sound found rfl ⟨trivial, ?_, (sound.known index call found).sent⟩ (.inl rfl) ?_
  · rintro (is | is)
    · cases is
      exact absurd rfl unrecorded.1
    · cases is
      exact absurd rfl unrecorded.2
  · exact fun recorded => absurd recorded going

/-! ## Hand-backs -/

theorem hear_either (channel : Nat) (messageId : Option String) (call : Call) :
    hear channel messageId call = call ∨
      hear channel messageId call = { call with handedBack := true } := by
  unfold hear
  split
  · split
    · exact .inr rfl
    · exact .inl rfl
  · exact .inl rfl

theorem known_heard (known : Known account rows index call) :
    Known account rows index { call with handedBack := true } := by
  obtain ⟨phase, recorded, sent⟩ := known
  refine ⟨?_, recorded, sent⟩
  revert phase
  change KnownPhase account rows call call.phase →
    KnownPhase account rows { call with handedBack := true } call.phase
  cases call.phase with
  | waiting => exact fun fresh => ⟨fresh.sent, fresh.routed, fresh.returned⟩
  | locked letter =>
      rintro ⟨held, read, fresh⟩
      exact ⟨held, read, fresh.sent, fresh.routed, fresh.returned⟩
  | publishing letter => exact fun known => ⟨known.1, known.2.1, fun _ => rfl⟩
  | confirmed letter =>
      exact fun known => ⟨known.1, known.2.sent, known.2.routed, known.2.acknowledged⟩
  | stamped letter =>
      exact fun known => ⟨known.1, known.2.sent, known.2.routed, known.2.acknowledged⟩
  | ended result => exact id

theorem sound_hear (sound : Sound account state) (channel : Nat) (messageId : Option String) :
    Sound account (hearAll state channel messageId) := by
  have heard : ∀ {index : Nat} {call : Call}, (hearAll state channel messageId).calls[index]? = some call →
      ∃ before, state.calls[index]? = some before ∧
        (call = before ∨ call = { before with handedBack := true }) := by
    intro index call found
    rw [hearAll, List.getElem?_map] at found
    obtain ⟨before, there, rfl⟩ := Option.map_eq_some_iff.mp found
    exact ⟨before, there, hear_either channel messageId before⟩
  refine ⟨?_, ?_, ?_⟩
  · intro index call found
    obtain ⟨before, there, rfl | rfl⟩ := heard found
    · exact sound.known index call there
    · exact known_heard (sound.known index before there)
  · intro first second one other found there same some_
    obtain ⟨before, at_, is⟩ := heard found
    obtain ⟨against, beside, was⟩ := heard there
    have one_ : held one = held before := by
      rcases is with rfl | rfl <;> rfl
    have other_ : held other = held against := by
      rcases was with rfl | rfl <;> rfl
    rw [one_] at same some_
    rw [other_] at same
    exact sound.exclusive first second before against at_ beside same some_
  · intro id row stamp there is
    obtain ⟨call, found, whose, delivered, recorded⟩ := sound.stamps id row stamp there is
    refine ⟨hear channel messageId call, ?_, ?_⟩
    · rw [hearAll, List.getElem?_map, found]
      rfl
    · rcases hear_either channel messageId call with same | same
      · rw [same]
        exact ⟨whose, delivered, recorded⟩
      · rw [same]
        exact ⟨whose, ⟨delivered.sent, delivered.routed, delivered.acknowledged⟩, recorded⟩

theorem hear_own {letter : Letter} (is : call.phase = .publishing letter) :
    hear call.channel letter.messageId call = { call with handedBack := true } := by
  rw [hear, is]
  exact if_pos ⟨rfl, rfl⟩

/-! ## The steps -/

theorem sound_park (sound : Sound account state) {id : String} (letter : Letter)
    (free : state.rows id = none) : Sound account
      { state with rows := Function.update state.rows id (some { letter, redriven := none }) } := by
  have same : ∀ (other : String) row, state.rows other = some row →
      Function.update state.rows id (some { letter, redriven := none }) other = some row := by
    intro other row there
    have differs : other ≠ id := by
      rintro rfl
      rw [free] at there
      cases there
    rw [Function.update_of_ne differs, there]
  refine ⟨?_, sound.exclusive, ?_⟩
  · intro index call found
    exact known_rows (sound.known index call found) (same call.id)
  · intro other row stamp there is
    by_cases here : other = id
    · subst here
      change Function.update state.rows other _ other = some row at there
      rw [Function.update_self] at there
      cases there
      cases is
    · change Function.update state.rows id _ other = some row at there
      rw [Function.update_of_ne here] at there
      exact sound.stamps other row stamp there is

theorem sound_lock (sound : Sound account state) (found : state.calls[index]? = some call)
    (waits : call.phase = .waiting)
    (free : (state.calls.all fun other => decide (held other ≠ some call.id)) = true) :
    Sound account (takeLock state index call) := by
  have going := still_going waits nofun
  have known := sound.known index call found
  have fresh : Fresh call := by
    have phase := known.phase
    rw [waits] at phase
    exact phase
  rw [takeLock]
  split
  · exact sound_conclude sound found ⟨nofun, nofun⟩ going
  · next row there =>
    split
    · exact sound_conclude sound found ⟨nofun, nofun⟩ going
    · next unstamped =>
      refine sound_put sound found rfl ⟨⟨fun _ => ?_, ⟨row, there, rfl⟩, ?_⟩, ?_, known.sent⟩ ?_
        fun recorded => absurd recorded going
      · obtain ⟨letter, redriven⟩ := row
        cases unstamped
        exact there
      · exact ⟨fresh.sent, fresh.routed, fresh.returned⟩
      · rintro (is | is)
        · cases is
        · cases is
      · cases alive : call.alive with
        | false =>
            left
            simp [held]
        | true =>
            right
            right
            intro other holder at_ same
            have apart := of_decide_eq_true (List.all_eq_true.mp free holder (List.mem_of_getElem? at_))
            apply apart
            rw [same]
            simp [held]

theorem sound_publish (sound : Sound account state) (found : state.calls[index]? = some call)
    {letter : Letter} (locked : call.phase = .locked letter) (channel : Nat) :
    Sound account (put state index
      { call with
        phase := .publishing letter, channel
        sent := some (redriveMessage account call.id letter) }) := by
  have known := sound.known index call found
  have phase := known.phase
  rw [locked] at phase
  obtain ⟨holds, ⟨row, there, is⟩, fresh⟩ := phase
  refine sound_put sound found rfl ⟨⟨holds, rfl, ?_⟩, ?_, ?_⟩ ?_
    fun recorded => absurd recorded (still_going locked nofun)
  · intro returned
    have never := fresh.returned
    change call.returned = true at returned
    rw [never] at returned
    cases returned
  · rintro (is | is)
    · cases is
    · cases is
  · rintro message ⟨⟩
    exact ⟨row, there, by rw [is]⟩
  · right
    left
    simp only [held, locked]

theorem sound_route (sound : Sound account state) (found : state.calls[index]? = some call)
    (queued : Bool) (published : call.sent.isSome) (unrouted : call.routed = none) :
    Sound account (put state index { call with routed := some queued }) := by
  have known := sound.known index call found
  have undelivered : ∀ letter, ¬ Delivered account call letter := by
    intro letter delivered
    have routed := delivered.routed
    rw [unrouted] at routed
    cases routed
  have unfresh : ¬ Fresh call := by
    intro fresh
    rw [fresh.sent] at published
    cases published
  refine sound_put sound found rfl ⟨?_, known.recorded, known.sent⟩ (.inr (.inl rfl)) ?_
  · have phase := known.phase
    revert phase
    change KnownPhase account state.rows call call.phase →
      KnownPhase account state.rows { call with routed := some queued } call.phase
    cases call.phase with
    | waiting => exact fun fresh => absurd fresh unfresh
    | locked letter => exact fun known => absurd known.2.2 unfresh
    | publishing letter => exact id
    | confirmed letter => exact fun known => absurd known.2 (undelivered letter)
    | stamped letter => exact fun known => absurd known.2 (undelivered letter)
    | ended result => exact id
  · intro recorded
    exact ⟨recorded, fun letter delivered => absurd delivered (undelivered letter)⟩

theorem sound_hand_back (sound : Sound account state) (found : state.calls[index]? = some call)
    {letter : Letter} (publishing : call.phase = .publishing letter) :
    Sound account (hearAll (put state index { call with returned := true }) call.channel
      letter.messageId) := by
  have heard := sound_hear sound call.channel letter.messageId
  have there : (hearAll state call.channel letter.messageId).calls[index]? =
      some { call with handedBack := true } := by
    rw [hearAll, List.getElem?_map, found, Option.map_some, hear_own publishing]
  have known := heard.known index _ there
  -- The call hears its own message.
  have same : hearAll (put state index { call with returned := true }) call.channel letter.messageId =
      put (hearAll state call.channel letter.messageId) index
        { call with handedBack := true, returned := true } := by
    have own : hear call.channel letter.messageId { call with returned := true } =
        { call with handedBack := true, returned := true } :=
      @hear_own { call with returned := true } _ publishing
    simp only [hearAll, put, List.map_set, own]
  rw [same]
  refine sound_put heard there rfl ⟨?_, known.recorded, known.sent⟩ (.inr (.inl rfl))
    fun recorded => absurd recorded (still_going publishing nofun)
  have phase := known.phase
  revert phase
  change KnownPhase account state.rows { call with handedBack := true } call.phase →
    KnownPhase account state.rows { call with handedBack := true, returned := true } call.phase
  rw [publishing]
  exact fun known => ⟨known.1, known.2.1, fun _ => rfl⟩

theorem sound_settle (sound : Sound account state) (found : state.calls[index]? = some call)
    {letter : Letter} (publishing : call.phase = .publishing letter) {error : Bool}
    (may : mayAnswer call error = true) : Sound account (settle state index call letter error) := by
  have going := still_going publishing nofun
  have known := sound.known index call found
  have phase := known.phase
  rw [publishing] at phase
  obtain ⟨holds, sent, heard⟩ := phase
  rw [settle]
  split
  · exact sound_conclude sound found ⟨nofun, nofun⟩ going
  · next confirmed =>
    split
    · exact sound_conclude sound found ⟨nofun, nofun⟩ going
    · next unheard =>
      -- Not handed back, so a queue has the message.
      have routed : call.routed = some true := by
        rw [mayAnswer, (Bool.not_eq_true error).mp confirmed, Bool.false_or] at may
        split at may
        · cases may
        · next queued is =>
          cases queued with
          | true => exact is
          | false => exact absurd (heard (by simpa using may)) unheard
      refine sound_put sound found rfl ⟨⟨holds, sent, routed, rfl⟩, ?_, known.sent⟩ ?_
        fun recorded => absurd recorded going
      · rintro (is | is)
        · cases is
        · cases is
      · right
        left
        simp only [held, publishing]

theorem sound_stamp (sound : Sound account state) (found : state.calls[index]? = some call)
    {letter : Letter} (confirmed : call.phase = .confirmed letter) :
    Sound account (put state index { call with phase := .stamped letter }) := by
  have known := sound.known index call found
  have phase := known.phase
  rw [confirmed] at phase
  obtain ⟨holds, sent, routed, acknowledged⟩ := phase
  refine sound_put sound found rfl ⟨⟨holds, sent, routed, acknowledged⟩, ?_, known.sent⟩ ?_
    fun recorded => absurd recorded (still_going confirmed nofun)
  · rintro (is | is)
    · cases is
    · cases is
  · right
    left
    simp only [held, confirmed]

theorem sound_break (sound : Sound account state) (found : state.calls[index]? = some call)
    (broken : breakOff state index call = some after) : Sound account after := by
  have known := sound.known index call found
  rw [breakOff] at broken
  split at broken
  · next letter publishing =>
    cases broken
    have phase := known.phase
    rw [publishing] at phase
    obtain ⟨_, sent, heard⟩ := phase
    refine sound_put sound found rfl ⟨?_, known.recorded, known.sent⟩ ?_
      fun recorded => absurd recorded (still_going publishing nofun)
    · change KnownPhase account state.rows { call with alive := false } call.phase
      rw [publishing]
      exact ⟨nofun, sent, heard⟩
    · left
      simp only [held, publishing]
      rfl
  · cases broken
  · next unpublished unended =>
    cases broken
    exact sound_conclude sound found ⟨nofun, nofun⟩ (still_going rfl unended)

theorem sound_start (sound : Sound account state) {new : Call}
    (begun : new.phase = .waiting ∨ new.phase = .ended .brokerUnavailable) (fresh : Fresh new) :
    Sound account { state with calls := state.calls ++ [new] } := by
  have none : held new = none := by
    rcases begun with is | is
    · simp only [held, is]
    · simp only [held, is]
  refine ⟨?_, exclusive_append sound.exclusive none, ?_⟩
  · intro index call found
    rcases get_append found with there | ⟨-, rfl⟩
    · exact sound.known index call there
    · refine ⟨?_, ?_, ?_⟩
      · rcases begun with is | is
        · rw [is]
          exact fresh
        · rw [is]
          trivial
      · rcases begun with is | is
        · exact fun recorded => absurd recorded (still_going is nofun)
        · rintro (ends | ends)
          · rw [is] at ends
            cases ends
          · rw [is] at ends
            cases ends
      · intro message sent
        rw [fresh.sent] at sent
        cases sent
  · intro id row stamp there is
    obtain ⟨call, found, rest⟩ := sound.stamps id row stamp there is
    refine ⟨call, ?_, rest⟩
    rw [List.getElem?_append_left (List.getElem?_eq_some_iff.mp found).1]
    exact found

/-- A call on a row that another call's commit stamps. -/
theorem known_stamped (known : Known account rows index call) (unheld : held call ≠ some call.id)
    (unrecorded : ¬ Recorded call)
    (kept : ∀ row, rows call.id = some row →
      ∃ new, changed call.id = some new ∧ new.letter = row.letter) :
    Known account changed index call := by
  obtain ⟨phase, _, sent⟩ := known
  have holds : ∀ letter, held call = (if call.alive then some call.id else none) →
      Holds changed call letter := by
    intro letter is alive
    rw [is, if_pos alive] at unheld
    exact absurd rfl unheld
  refine ⟨?_, fun recorded => absurd recorded unrecorded, ?_⟩
  · cases is : call.phase with
    | waiting =>
        rw [is] at phase
        exact phase
    | locked letter =>
        rw [is] at phase
        obtain ⟨_, ⟨row, there, same⟩, fresh⟩ := phase
        obtain ⟨new, there, equal⟩ := kept row there
        exact ⟨holds letter (by simp only [held, is]), ⟨new, there, equal.trans same⟩, fresh⟩
    | publishing letter =>
        rw [is] at phase
        exact ⟨holds letter (by simp only [held, is]), phase.2⟩
    | confirmed letter =>
        rw [is] at phase
        exact ⟨holds letter (by simp only [held, is]), phase.2⟩
    | stamped letter =>
        rw [is] at phase
        exact ⟨holds letter (by simp only [held, is]), phase.2⟩
    | ended result => trivial
  · intro message is
    obtain ⟨row, there, made⟩ := sent message is
    obtain ⟨new, there, equal⟩ := kept row there
    exact ⟨new, there, by rw [equal, made]⟩

/-- The commit of a call that has its row locked. -/
theorem sound_commit (sound : Sound account state) (found : state.calls[index]? = some call)
    {letter : Letter} (stamped : call.phase = .stamped letter)
    (row : state.rows call.id = some { letter, redriven := none }) (alive : call.alive = true)
    {result : Result} (commits : result = .redriven ∨ result = .commitLost)
    (here : changed call.id = some { letter, redriven := some (stampOf index call) })
    (elsewhere : ∀ id, id ≠ call.id → changed id = state.rows id) :
    Sound account { conclude state index call result with rows := changed } := by
  have known := sound.known index call found
  have phase := known.phase
  rw [stamped] at phase
  obtain ⟨_, delivered⟩ := phase
  have holding : held call = some call.id := by
    simp only [held, stamped, alive]
    rfl
  refine ⟨?_, exclusive_set sound.exclusive found (.inl rfl), ?_⟩
  · intro other against there
    rcases (get_set found).mp there with ⟨rfl, rfl⟩ | ⟨differs, there⟩
    · refine ⟨trivial, fun _ => ⟨_, stampOf index call, here, rfl, rfl⟩, ?_⟩
      intro message sent
      obtain ⟨read, at_, made⟩ := known.sent message sent
      rw [row] at at_
      cases at_
      exact ⟨{ letter, redriven := some (stampOf index call) }, here, made⟩
    · have before := sound.known other against there
      by_cases same : against.id = call.id
      · -- Another call on the row does not hold it, and none is recorded.
        apply known_stamped before
        · intro holds
          rw [same] at holds
          exact differs (sound.exclusive index other call against found there
            (holding.trans holds.symm) (by rw [holding]; exact nofun))
        · intro recorded
          obtain ⟨old, stamp, at_, is, -⟩ := before.recorded recorded
          rw [same, row] at at_
          cases at_
          cases is
        · intro old at_
          rw [same, row] at at_
          cases at_
          exact ⟨{ letter, redriven := some (stampOf index call) }, (congrArg changed same).trans here,
            rfl⟩
      · apply known_rows before
        intro old at_
        exact (elsewhere _ same).trans at_
  · intro id other stamp there is
    by_cases same : id = call.id
    · subst same
      have there : changed call.id = some other := there
      rw [here] at there
      cases there
      cases is
      refine ⟨_, (get_set found).mpr (.inl ⟨rfl, rfl⟩), rfl, ?_, ?_⟩
      · exact ⟨delivered.sent, delivered.routed, delivered.acknowledged⟩
      · rcases commits with rfl | rfl
        · exact .inl rfl
        · exact .inr rfl
    · have there : changed id = some other := there
      rw [elsewhere id same] at there
      obtain ⟨against, at_, whose, rest⟩ := sound.stamps id other stamp there is
      refine ⟨against, (get_set found).mpr (.inr ⟨?_, at_⟩), whose, rest⟩
      intro mine
      subst mine
      rw [found] at at_
      cases at_
      exact same whose.symm

/-- What a commit writes. -/
theorem commit_rows {letter : Letter} (row : state.rows call.id = some { letter, redriven := none }) :
    Function.update state.rows call.id ((state.rows call.id).map fun row =>
        { row with redriven := some (stampOf index call) }) call.id =
      some { letter, redriven := some (stampOf index call) } := by
  rw [Function.update_self, row]
  rfl

theorem turn_sound {event : Event} (sound : Sound account state)
    (turned : turn account state event = some after) : Sound account after := by
  cases event with
  | park id letter =>
      rw [turn] at turned
      split at turned
      · next free =>
        cases turned
        exact sound_park sound letter free
      · cases turned
  | broker channel =>
      cases turned
      exact ⟨sound.known, sound.exclusive, sound.stamps⟩
  | start id actorId reason correlationId =>
      cases turned
      refine sound_start sound ?_ ⟨rfl, rfl, rfl⟩
      cases state.channel with
      | none => exact .inr rfl
      | some channel => exact .inl rfl
  | lock index =>
      obtain ⟨call, found, changed⟩ := Option.bind_eq_some_iff.mp turned
      split at changed
      · next waits =>
        split at changed
        · next free =>
          cases changed
          exact sound_lock sound found waits free
        · cases changed
      · cases changed
  | publish index throws =>
      obtain ⟨call, found, changed⟩ := Option.bind_eq_some_iff.mp turned
      split at changed
      · next letter locked =>
        have going := still_going locked nofun
        split at changed
        · cases changed
          exact sound_conclude sound found ⟨nofun, nofun⟩ going
        · split at changed
          · cases changed
            exact sound_conclude sound found ⟨nofun, nofun⟩ going
          · cases changed
            exact sound_publish sound found locked _
      · cases changed
  | route index queued =>
      obtain ⟨call, found, changed⟩ := Option.bind_eq_some_iff.mp turned
      split at changed
      · next may =>
        cases changed
        exact sound_route sound found queued may.1 may.2
      · cases changed
  | handBack index =>
      obtain ⟨call, found, changed⟩ := Option.bind_eq_some_iff.mp turned
      split at changed
      · next letter publishing =>
        split at changed
        · cases changed
          exact sound_hand_back sound found publishing
        · cases changed
      · cases changed
  | handBackOther channel messageId =>
      cases turned
      exact sound_hear sound channel messageId
  | answer index error =>
      obtain ⟨call, found, changed⟩ := Option.bind_eq_some_iff.mp turned
      split at changed
      · next letter publishing =>
        split at changed
        · next may =>
          cases changed
          exact sound_settle sound found publishing may
        · cases changed
      · cases changed
  | stamp index =>
      obtain ⟨call, found, changed⟩ := Option.bind_eq_some_iff.mp turned
      split at changed
      · next letter confirmed =>
        split at changed
        · cases changed
          exact sound_stamp sound found confirmed
        · cases changed
      · cases changed
  | commit index lost =>
      obtain ⟨call, found, changed⟩ := Option.bind_eq_some_iff.mp turned
      split at changed
      · next letter stamped =>
        split at changed
        · next alive =>
          cases changed
          have phase := (sound.known index call found).phase
          rw [stamped] at phase
          have row := phase.1 alive
          refine sound_commit sound found stamped row alive ?_ (commit_rows row)
            fun id differs => Function.update_of_ne differs _ _
          cases lost with
          | true => exact .inr rfl
          | false => exact .inl rfl
        · cases changed
      · cases changed
  | fail index =>
      obtain ⟨call, found, broken⟩ := Option.bind_eq_some_iff.mp turned
      exact sound_break sound found broken

end Foc.Redrive
