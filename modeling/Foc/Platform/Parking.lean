import Foc.Library.Utf16
import Foc.Platform.Retry

/-!
Parking a dead letter (`toDeadLetterRow`, `park` and `insert` of `dead-letters.ts`): a
message is drained from its dead-letter queue into a row of `dead_letters`, and handed
back to the queue when the row is refused. The database is up.
-/
namespace Foc.Parking
open Library Library.Utf16
open Foc.Sender (headerAttempt headerFailure)
open Foc.Retry (Headers Number Runtime)

/-- What a header holds that is an object to JavaScript. -/
inductive Composite where
  | bytes (data : List UInt8)
  | list (items : List (Retry.Field Composite))
  | table (members : List (String × Retry.Field Composite))

abbrev Value := Retry.Field Composite

/-- The properties of a delivery that are strings, and its headers. The others are
numbers. -/
structure Properties where
  contentType : Option String
  contentEncoding : Option String
  headers : Option (Headers Composite)
  correlationId : Option String
  replyTo : Option String
  expiration : Option String
  messageId : Option String
  type : Option String
  userId : Option String
  appId : Option String
  clusterId : Option String

structure ConsumeMessage where
  content : List UInt8
  properties : Properties

/-- A string without U+0000. -/
def storableString (value : String) : Bool := decide (Char.ofNat 0 ∉ value.toList)

/-- The name of a queue that the service declares. -/
structure QueueName where
  name : String
  storable : storableString name = true

/-! ## The row -/

structure DeadLetterRow where
  queue : String
  eventId : Option Units
  eventType : Option Units
  aggregateId : Option Units
  correlationId : Option Units
  failureReason : Option Units
  attempts : Double
  body : List UInt8
  properties : Properties

def headerDeath := "x-death"

/-- The first units of a string that has any. -/
def text (most : Nat) : Option Units → Option Units
  | some value => if value = [] then none else some (value.take most)
  | none => none

def unitsOf (value : String) : Units := ofText value.toList

def Value.string? : Value → Option Units
  | .string value => some (unitsOf value)
  | _ => none

/-- A member of an object: the last one of its name. -/
def Value.member (name : String) : Value → Option Value
  | .other (.table members) => (members.reverse.find? fun entry => entry.1 == name).map Prod.snd
  | _ => none

/-- `Number` of a member, or of nothing. -/
def numberOf (runtime : Runtime Composite) : Option Value → Option Double
  | none => some .nan
  | some value => Number runtime value

def truthy : Double → Bool
  | .nan => false
  | .infinite _ => true
  | .finite value => decide (value ≠ 0)

/-- `first || second`. -/
def orElse (first second : Double) : Double := if truthy first then first else second

def headersOf (message : ConsumeMessage) : Headers Composite := message.properties.headers.getD ∅

/-- The broker's own record of why a message was dead-lettered. -/
def firstDeath (headers : Headers Composite) : Option Value :=
  match headers.lookup headerDeath with
  | some (.other (.list deaths)) => deaths.head?
  | _ => none

def deathReason (headers : Headers Composite) : Option Units :=
  (text 200 (((firstDeath headers).bind (Value.member "reason")).bind Value.string?)).bind fun _ =>
    (((firstDeath headers).bind (Value.member "reason")).bind Value.string?).map fun reason =>
      unitsOf "broker: " ++ reason

def deathCount (runtime : Runtime Composite) (headers : Headers Composite) : Option Double :=
  (numberOf runtime ((firstDeath headers).bind (Value.member "count"))).map fun count =>
    orElse count (.ofInt 0)

/-- A row but for the count of its attempts. `envelope` reads the body: the string that a
member of it is, where it is an object in JSON. -/
def deadLetter (envelope : List UInt8 → String → Option Units) (queue : QueueName)
    (message : ConsumeMessage) (attempts : Double) : DeadLetterRow :=
  let headers := headersOf message
  let identity := envelope message.content
  { queue := queue.name
    eventId := (text 200 (identity "eventId")).or
      (text 200 (message.properties.messageId.map unitsOf))
    eventType := (text 200 (identity "eventType")).or
      (text 200 (message.properties.type.map unitsOf))
    aggregateId := text 200 (identity "aggregateId")
    correlationId := (text 200 (identity "correlationId")).or
      (text 200 (message.properties.correlationId.map unitsOf))
    failureReason := (text 500 ((headers.lookup headerFailure).bind Value.string?)).or
      (deathReason headers)
    attempts
    body := message.content
    properties := message.properties }

/-- There is no row where `Number` throws. -/
def toDeadLetterRow (runtime : Runtime Composite) (envelope : List UInt8 → String → Option Units)
    (queue : QueueName) (message : ConsumeMessage) : Option DeadLetterRow := do
  let count ← deathCount runtime (headersOf message)
  let attempts ← numberOf runtime ((headersOf message).lookup headerAttempt)
  return deadLetter envelope queue message (orElse (orElse attempts count) (.ofInt 1))

/-! ## The table -/

/-- What a `text` column takes: UTF-8 without U+0000. The driver writes U+FFFD for half a
surrogate pair. -/
def storableText (units : Units) : Bool := decide (Char.ofNat 0 ∉ Utf16.text units)

mutual
def storableValue : Value → Bool
  | .string value => storableString value
  | .other value => storableComposite value
  | .null | .boolean _ | .number _ => true

/-- `JSON.stringify` writes bytes as an object of numbers. -/
def storableComposite : Composite → Bool
  | .bytes _ => true
  | .list items => storableItems items
  | .table members => storableMembers members

def storableItems : List Value → Bool
  | [] => true
  | value :: rest => storableValue value && storableItems rest

def storableMembers : List (String × Value) → Bool
  | [] => true
  | (name, value) :: rest => storableString name && storableValue value && storableMembers rest
end

def Properties.texts (properties : Properties) : List (Option String) :=
  [properties.contentType, properties.contentEncoding, properties.correlationId, properties.replyTo,
    properties.expiration, properties.messageId, properties.type, properties.userId,
    properties.appId, properties.clusterId]

def storableJson (properties : Properties) : Bool :=
  (properties.texts.all fun value => value.all storableString) &&
  properties.headers.all fun headers =>
    headers.entries.all fun entry => storableString entry.1 && storableValue entry.2

/-- What an `integer` column takes. -/
def storableInteger (value : Double) : Bool :=
  value.whole.any fun whole => decide (-2147483648 ≤ whole) && decide (whole ≤ 2147483647)

/-- `INSERT INTO dead_letters`: whether the table takes the row. -/
def insert (row : DeadLetterRow) : Bool :=
  storableString row.queue &&
  ([row.eventId, row.eventType, row.aggregateId, row.correlationId, row.failureReason].all
    fun value => value.all storableText) &&
  storableInteger row.attempts && storableJson row.properties

/-! ## A dead letter's course -/

/-- What is in the table, and whether the message is settled. -/
structure Course where
  stored : List DeadLetterRow
  acknowledged : Bool

/-- One delivery of the message from its dead-letter queue. -/
def park (runtime : Runtime Composite) (envelope : List UInt8 → String → Option Units) (queue : QueueName)
    (message : ConsumeMessage) (course : Course) : Course :=
  if course.acknowledged then course
  else
    match toDeadLetterRow runtime envelope queue message with
    -- It throws outside the `try`: the message is neither stored nor settled.
    | none => course
    | some row =>
        if insert row then { stored := course.stored ++ [row], acknowledged := true }
        -- Handed back to the queue, to be delivered again.
        else course

def deliveries (runtime : Runtime Composite) (envelope : List UInt8 → String → Option Units)
    (queue : QueueName) (message : ConsumeMessage) : Nat → Course
  | 0 => { stored := [], acknowledged := false }
  | time + 1 => park runtime envelope queue message (deliveries runtime envelope queue message time)

end Foc.Parking
