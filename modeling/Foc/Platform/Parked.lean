import Foc.Platform.Parking

/-!
Which dead letters can be parked: those whose strings hold no U+0000 where they are kept,
and whose count of attempts an integer column takes. The others go round forever.
-/
namespace Foc.Parking
open Library Library.Utf16
open Foc.Sender (headerAttempt headerFailure)
open Foc.Retry (Headers Number Runtime)

variable {runtime : Runtime Composite} {envelope : List UInt8 → String → Option Units}
  {queue : QueueName} {message : ConsumeMessage}

/-! ## Texts -/

theorem storable_text {units : Units} : storableText units = true ↔ (0 : UInt16) ∉ units := by
  rw [storableText, decide_eq_true_eq]
  exact not_congr (zero_mem_text units)

theorem storable_units {value : String} (storable : storableString value = true) :
    (0 : UInt16) ∉ unitsOf value := by
  rw [storableString, decide_eq_true_eq] at storable
  intro zero
  apply storable
  have read := (zero_mem_text (unitsOf value)).mpr zero
  rwa [unitsOf, text_of_text] at read

/-- What is kept of a string: nothing of an empty one. -/
theorem text_storable {most : Nat} {value : Option Units} :
    ((text most value).all storableText = true) ↔
      ∀ units, value = some units → (0 : UInt16) ∉ units.take most := by
  cases value with
  | none => simp [text]
  | some units =>
      rw [text]
      split
      · next empty => simp [empty]
      · rw [Option.all_some, storable_text]
        simp

theorem text_part {most : Nat} {value : Option Units}
    (storable : ∀ units, value = some units → (0 : UInt16) ∉ units) :
    (text most value).all storableText = true := by
  rw [text_storable]
  intro units is zero
  exact storable units is (List.mem_of_mem_take zero)

theorem or_storable {first second : Option Units} (other : second.all storableText = true) :
    (first.or second).all storableText = true ↔ first.all storableText = true := by
  cases first with
  | none => simp [other]
  | some units => simp

/-! ## Strings of the properties -/

theorem storable_members (members : List (String × Value)) :
    storableMembers members = true ↔
      ∀ entry ∈ members, storableString entry.1 = true ∧ storableValue entry.2 = true := by
  induction members with
  | nil => simp [storableMembers]
  | cons entry rest ih =>
      rw [storableMembers, List.forall_mem_cons, ← ih, Bool.and_eq_true, Bool.and_eq_true]

theorem storable_items (items : List Value) :
    storableItems items = true ↔ ∀ value ∈ items, storableValue value = true := by
  induction items with
  | nil => simp [storableItems]
  | cons value rest ih => rw [storableItems, List.forall_mem_cons, ← ih, Bool.and_eq_true]

theorem member_storable {name : String} {value found : Value}
    (storable : storableValue value = true) (is : value.member name = some found) :
    storableValue found = true := by
  cases value with
  | other composite =>
      cases composite with
      | table members =>
          rw [Value.member, Option.map_eq_some_iff] at is
          obtain ⟨entry, first, rfl⟩ := is
          rw [storableValue, storableComposite, storable_members] at storable
          exact (storable entry (List.mem_reverse.mp (List.mem_of_find?_eq_some first))).2
      | bytes data => cases is
      | list items => cases is
  | null => cases is
  | boolean value => cases is
  | number value => cases is
  | string value => cases is

theorem header_storable {name : String} {value : Value}
    (storable : storableJson message.properties = true)
    (is : (headersOf message).lookup name = some value) : storableValue value = true := by
  rw [storableJson, Bool.and_eq_true] at storable
  rw [headersOf] at is
  cases headers : message.properties.headers with
  | none =>
      rw [headers] at is
      cases is
  | some table =>
      rw [headers, Option.getD_some] at is
      have each := storable.2
      rw [headers, Option.all_some, List.all_eq_true] at each
      have here := each ⟨name, value⟩ (AList.mem_lookup_iff.mp is)
      rw [Bool.and_eq_true] at here
      exact here.2

theorem string_storable {value : Value} {units : Units} (storable : storableValue value = true)
    (is : Value.string? value = some units) : (0 : UInt16) ∉ units := by
  cases value with
  | string value =>
      cases is
      exact storable_units storable
  | null => cases is
  | boolean value => cases is
  | number value => cases is
  | other value => cases is

theorem property_storable {value : Option String} (storable : storableJson message.properties = true)
    (listed : value ∈ message.properties.texts) {units : Units}
    (is : value.map unitsOf = some units) : (0 : UInt16) ∉ units := by
  rw [storableJson, Bool.and_eq_true, List.all_eq_true] at storable
  obtain ⟨string, rfl, rfl⟩ := Option.map_eq_some_iff.mp is
  exact storable_units (storable.1 _ listed)

theorem death_storable {death : Value} (storable : storableJson message.properties = true)
    (is : firstDeath (headersOf message) = some death) : storableValue death = true := by
  rw [firstDeath] at is
  split at is
  · next deaths found =>
    have list := header_storable storable found
    rw [storableValue, storableComposite, storable_items] at list
    exact list death (List.mem_of_head? is)
  · cases is

theorem reason_storable (storable : storableJson message.properties = true) :
    (deathReason (headersOf message)).all storableText = true := by
  rw [Option.all_eq_true]
  intro units is
  rw [storable_text]
  rw [deathReason] at is
  obtain ⟨kept, -, is⟩ := Option.bind_eq_some_iff.mp is
  obtain ⟨reason, found, rfl⟩ := Option.map_eq_some_iff.mp is
  obtain ⟨value, member, string⟩ := Option.bind_eq_some_iff.mp found
  obtain ⟨death, first, inside⟩ := Option.bind_eq_some_iff.mp member
  have clean := string_storable (member_storable (death_storable storable first) inside) string
  rw [List.mem_append, not_or]
  exact ⟨storable_units (by decide), clean⟩

/-! ## The row -/

/-- The members of an envelope that a dead letter is identified by. -/
def identifying : List String := ["eventId", "eventType", "aggregateId", "correlationId"]

/-- What lets a message be parked: its properties hold no U+0000, nor does as much of the
body's identity as is kept, and the attempts that are counted are a 32-bit integer. -/
structure Parkable (runtime : Runtime Composite) (envelope : List UInt8 → String → Option Units)
    (message : ConsumeMessage) : Prop where
  properties : storableJson message.properties = true
  identity : ∀ name ∈ identifying, ∀ value, envelope message.content name = some value →
    (0 : UInt16) ∉ value.take 200
  attempts : ∃ attempt count,
    numberOf runtime ((headersOf message).lookup headerAttempt) = some attempt ∧
    numberOf runtime ((firstDeath (headersOf message)).bind (Value.member "count")) = some count ∧
    (truthy attempt = true → storableInteger attempt = true) ∧
    (truthy attempt = false → truthy count = true → storableInteger count = true)

theorem attempts_storable (attempt count : Double) :
    storableInteger (orElse (orElse attempt (orElse count (.ofInt 0))) (.ofInt 1)) = true ↔
      (truthy attempt = true → storableInteger attempt = true) ∧
      (truthy attempt = false → truthy count = true → storableInteger count = true) := by
  have none : truthy (.ofInt 0) = false := rfl
  have one : storableInteger (.ofInt 1) = true := by decide
  cases given : truthy attempt with
  | true => simp [orElse, given]
  | false =>
      cases counted : truthy count with
      | true => simp [orElse, given, counted]
      | false => simp [orElse, given, counted, none, one]

theorem row_some {row : DeadLetterRow} :
    toDeadLetterRow runtime envelope queue message = some row ↔ ∃ attempt count,
      numberOf runtime ((headersOf message).lookup headerAttempt) = some attempt ∧
      numberOf runtime ((firstDeath (headersOf message)).bind (Value.member "count")) = some count ∧
      row = deadLetter envelope queue message
        (orElse (orElse attempt (orElse count (.ofInt 0))) (.ofInt 1)) := by
  rw [toDeadLetterRow, deathCount]
  cases counted : numberOf runtime
      ((firstDeath (headersOf message)).bind (Value.member "count")) with
  | none => simp
  | some count =>
      cases given : numberOf runtime ((headersOf message).lookup headerAttempt) with
      | none => simp
      | some attempt =>
          simp only [Option.map_some, Option.bind_eq_bind, Option.bind_some, Option.pure_def,
            Option.some.injEq]
          constructor
          · rintro rfl
            exact ⟨attempt, count, rfl, rfl, rfl⟩
          · rintro ⟨_, _, rfl, rfl, rfl⟩
            rfl

theorem insert_row {attempts : Double} :
    insert (deadLetter envelope queue message attempts) = true ↔
      storableJson message.properties = true ∧
      (∀ name ∈ identifying, ∀ value, envelope message.content name = some value →
        (0 : UInt16) ∉ value.take 200) ∧
      storableInteger attempts = true := by
  have split : insert (deadLetter envelope queue message attempts) = true ↔
      (∀ value ∈ [(deadLetter envelope queue message attempts).eventId,
          (deadLetter envelope queue message attempts).eventType,
          (deadLetter envelope queue message attempts).aggregateId,
          (deadLetter envelope queue message attempts).correlationId,
          (deadLetter envelope queue message attempts).failureReason],
        value.all storableText = true) ∧
      storableInteger attempts = true ∧ storableJson message.properties = true := by
    have named : storableString (deadLetter envelope queue message attempts).queue = true :=
      queue.storable
    rw [insert, named, Bool.true_and, Bool.and_eq_true, Bool.and_eq_true, List.all_eq_true,
      and_assoc]
    rfl
  rw [split]
  simp only [identifying, List.forall_mem_cons, List.not_mem_nil, false_implies, implies_true,
    and_true]
  -- What comes of the properties is storable when they are.
  have property : storableJson message.properties = true → ∀ value ∈ message.properties.texts,
      (text 200 (value.map unitsOf)).all storableText = true := by
    intro storable value listed
    exact text_part fun units is => property_storable storable listed is
  constructor
  · rintro ⟨⟨eventId, eventType, aggregateId, correlationId, -⟩, integer, json⟩
    refine ⟨json, ⟨?_, ?_, ?_, ?_⟩, integer⟩
    · exact text_storable.mp ((or_storable (property json _ (by simp [Properties.texts]))).mp eventId)
    · exact text_storable.mp ((or_storable (property json _ (by simp [Properties.texts]))).mp eventType)
    · exact text_storable.mp aggregateId
    · exact text_storable.mp
        ((or_storable (property json _ (by simp [Properties.texts]))).mp correlationId)
  · rintro ⟨json, ⟨eventId, eventType, aggregateId, correlationId⟩, integer⟩
    refine ⟨⟨?_, ?_, ?_, ?_, ?_⟩, integer, json⟩
    · exact (or_storable (property json _ (by simp [Properties.texts]))).mpr (text_storable.mpr eventId)
    · exact (or_storable (property json _ (by simp [Properties.texts]))).mpr
        (text_storable.mpr eventType)
    · exact text_storable.mpr aggregateId
    · exact (or_storable (property json _ (by simp [Properties.texts]))).mpr
        (text_storable.mpr correlationId)
    · rw [deadLetter]
      refine (or_storable (reason_storable json)).mpr (text_part ?_)
      intro units is
      obtain ⟨value, found, string⟩ := Option.bind_eq_some_iff.mp is
      exact string_storable (header_storable json found) string

theorem row_stored : (∃ row, toDeadLetterRow runtime envelope queue message = some row ∧
      insert row = true) ↔ Parkable runtime envelope message := by
  constructor
  · rintro ⟨row, is, taken⟩
    obtain ⟨attempt, count, given, counted, rfl⟩ := row_some.mp is
    obtain ⟨json, identity, integer⟩ := insert_row.mp taken
    exact ⟨json, identity, attempt, count, given, counted, (attempts_storable _ _).mp integer⟩
  · rintro ⟨json, identity, attempt, count, given, counted, integer⟩
    exact ⟨_, row_some.mpr ⟨attempt, count, given, counted, rfl⟩,
      insert_row.mpr ⟨json, identity, (attempts_storable _ _).mpr integer⟩⟩

/-! ## Deliveries -/

theorem deliveries_stored {row : DeadLetterRow}
    (is : toDeadLetterRow runtime envelope queue message = some row) (taken : insert row = true)
    (time : Nat) : deliveries runtime envelope queue message (time + 1) =
      { stored := [row], acknowledged := true } := by
  induction time with
  | zero =>
      rw [deliveries, park, if_neg (by simp [deliveries]), is]
      simp [taken, deliveries]
  | succ time ih =>
      rw [deliveries, ih]
      rfl

theorem deliveries_refused
    (refused : ∀ row, toDeadLetterRow runtime envelope queue message = some row → insert row ≠ true)
    (time : Nat) : deliveries runtime envelope queue message time =
      { stored := [], acknowledged := false } := by
  induction time with
  | zero => rfl
  | succ time ih =>
      rw [deliveries, ih, park, if_neg Bool.false_ne_true]
      split
      · rfl
      · next row is => rw [if_neg (refused row is)]

/-- A dead letter is parked, once, exactly when it is parkable. Another goes back to its
queue at every delivery. -/
theorem dead_letter_parked (runtime : Runtime Composite)
    (envelope : List UInt8 → String → Option Units) (queue : QueueName) (message : ConsumeMessage) :
    ((∃ row, toDeadLetterRow runtime envelope queue message = some row ∧ insert row = true ∧
        ∀ time, deliveries runtime envelope queue message (time + 1) =
          { stored := [row], acknowledged := true }) ↔
      Parkable runtime envelope message) ∧
    (¬ Parkable runtime envelope message → ∀ time, deliveries runtime envelope queue message time =
      { stored := [], acknowledged := false }) := by
  constructor
  · constructor
    · rintro ⟨row, is, taken, -⟩
      exact row_stored.mp ⟨row, is, taken⟩
    · intro parkable
      obtain ⟨row, is, taken⟩ := row_stored.mpr parkable
      exact ⟨row, is, taken, deliveries_stored is taken⟩
  · intro unparkable time
    apply deliveries_refused
    intro row is taken
    exact unparkable (row_stored.mp ⟨row, is, taken⟩)

/-- A client that encodes every value, and no string or object that is a number. -/
def plainRuntime : Runtime Composite where
  numberOf := fun _ => .nan
  coerce := fun _ => some .nan
  writes := fun _ => true
  writes_string := fun _ => rfl
  writes_natural := fun _ => rfl

def creditQueue : QueueName where
  name := "foc.credit.user-events"
  storable := by decide

/-- Half an attempt, on a message that is not JSON. -/
def halfAttempt : ConsumeMessage where
  content := []
  properties :=
    { contentType := none, contentEncoding := none
      headers := some ((∅ : Headers Composite).insert headerAttempt (.number (.finite (1 / 2))))
      correlationId := none, replyTo := none, expiration := none, messageId := none, type := none
      userId := none, appId := none, clusterId := none }

theorem half_attempt_unparked :
    deliveries plainRuntime (fun _ _ => none) creditQueue halfAttempt =
      fun _ => { stored := [], acknowledged := false } := by
  funext time
  apply deliveries_refused
  intro row is taken
  obtain ⟨attempt, count, given, -, rfl⟩ := row_some.mp is
  have integer := (insert_row.mp taken).2.2
  rw [attempts_storable] at integer
  cases given
  exact absurd (integer.1 (by decide +kernel)) (by decide +kernel)

end Foc.Parking
