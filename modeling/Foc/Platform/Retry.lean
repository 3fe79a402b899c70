import Foc.Library.Double
import Foc.Platform.Sender

/-!
Bounded retry (`consumer.ts`, `topology.ts`, `connection.ts`): one message on a durable
queue whose handler fails each time it is run. The attempt is a number read from a
header, and both the bound of the retries and a part of the exchange a retry is
published to. The broker is up: it declares the topology, holds a message on a delay
exchange's queue and puts it back, and delivers again what is not acknowledged.
-/
namespace Foc.Retry
open Library
open Foc.Sender (Account headerAttempt headerFailure headerOriginalQueue headerSender)

/-- A value of a header table. What is not told apart here (bytes, lists, tables) is an
object to JavaScript. -/
inductive Field (Other : Type) where
  | null
  | boolean (value : Bool)
  | number (value : Double)
  | string (value : String)
  | other (value : Other)
  deriving DecidableEq

abbrev Headers (Other : Type) := AList fun _ : String => Field Other

/-- The language and the AMQP client: what `Number` makes of a string and of an object,
where it does not throw, and which values the client encodes. -/
structure Runtime (Other : Type) where
  numberOf : String → Double
  coerce : Other → Option Double
  writes : Field Other → Bool
  writes_string : ∀ text, writes (.string text) = true
  writes_natural : ∀ count : Nat, writes (.number (.ofInt count)) = true

structure Message (Other : Type) where
  headers : Option (Headers Other)
  userId : Option String

variable {Other : Type}

def Number (runtime : Runtime Other) : Field Other → Option Double
  | .null => some (.ofInt 0)
  | .boolean value => some (.ofInt value.toNat)
  | .number value => some value
  | .string value => some (runtime.numberOf value)
  | .other value => runtime.coerce value

/-- `Number(message.properties.headers?.[HEADER_ATTEMPT] ?? 1)`. -/
def attemptOf (runtime : Runtime Other) (message : Message Other) : Option Double :=
  match message.headers.bind (AList.lookup headerAttempt) with
  | none | some .null => some (.ofInt 1)
  | some value => Number runtime value

/-! ## Topology -/

structure Settings where
  queue : String
  account : Option Account
  retryDelays : List Nat

def Settings.maxAttempts (settings : Settings) : Nat := settings.retryDelays.length + 1

/-- A delay exchange is named after the attempt. -/
inductive Exchange where
  | events
  | deadLetters
  | requeue
  | delay (attempt : Double)
  deriving DecidableEq

def retryExchangeName (attempt : Double) : Exchange := .delay attempt

def retryLevels (delays : List Nat) : List (Exchange × Nat) :=
  delays.mapIdx fun index ttl => (retryExchangeName (.ofInt (index + 1 : Nat)), ttl)

def declareTopology (settings : Settings) : List Exchange :=
  [.events, .deadLetters, .requeue] ++ (retryLevels settings.retryDelays).map Prod.fst

/-! ## Publishing again -/

def text : Option (Field Other) → Option String
  | some (.string value) => if value ≠ "" then some value else none
  | _ => none

def senderOf (userId : Option String) (headers : Headers Other) (account : Option Account) :
    Option String :=
  let userId := text (userId.map .string : Option (Field Other))
  if userId.isSome ∧ userId = account.map Account.name then
    (text (headers.lookup headerSender)).or userId
  else userId

def resendProperties (settings : Settings) (message : Message Other) (headers : Headers Other) :
    Message Other :=
  { userId := settings.account.map Account.name
    headers := some (match senderOf message.userId headers settings.account with
      | some sender => headers.insert headerSender (.string sender)
      | none => headers) }

/-- The message's own headers with the failure written over them, `reason` being as much
of it as is kept. -/
def failedHeaders (settings : Settings) (message : Message Other) (reason : String)
    (attempt : Double) : Headers Other :=
  (((message.headers.getD ∅).insert headerFailure (.string reason)).insert headerOriginalQueue
    (.string settings.queue)).insert headerAttempt (.number attempt)

/-- The sum is exact for the whole numbers that are published. -/
def addOne : Double → Double
  | .finite value => .finite (value + 1)
  | other => other

/-- Where `retryOrDeadLetter` publishes a message, and as what. -/
def retryOrDeadLetter (settings : Settings) (message : Message Other) (reason : String)
    (attempt : Double) : Exchange × Message Other :=
  if attempt.atLeast settings.maxAttempts then
    (.deadLetters, resendProperties settings message (failedHeaders settings message reason attempt))
  else
    (retryExchangeName attempt,
      resendProperties settings message (failedHeaders settings message reason (addOne attempt)))

def writable (runtime : Runtime Other) (message : Message Other) : Bool :=
  message.headers.all fun headers => headers.entries.all fun entry => runtime.writes entry.2

/-- Whether the publish is confirmed: the client refuses a table it cannot encode, and the
broker closes the channel on an exchange that is not declared. -/
def confirmed (runtime : Runtime Other) (settings : Settings) (exchange : Exchange)
    (message : Message Other) : Bool :=
  decide (exchange ∈ declareTopology settings) && writable runtime message

/-! ## A message's course -/

inductive Place (Other : Type) where
  | queued (message : Message Other)
  | delayed (message : Message Other)
  | acknowledged

/-- Where the message is, how often its handler was run, the exchanges its retries were
published to, and how many copies the dead-letter exchange was given. -/
structure Course (Other : Type) where
  place : Place Other
  runs : Nat
  retries : List Exchange
  deadLettered : Nat

/-- The next delivery of the message, or the end of its delay. `reason` is the error of
each run. -/
def step (runtime : Runtime Other) (settings : Settings) (reason : Nat → String)
    (course : Course Other) : Course Other :=
  match course.place with
  | .acknowledged => course
  | .delayed message => { course with place := .queued message }
  | .queued message =>
      match attemptOf runtime message with
      -- `handle` throws before the handler is run, and the message stays unsettled.
      | none => course
      | some attempt =>
          let (exchange, sent) := retryOrDeadLetter settings message (reason course.runs) attempt
          let runs := course.runs + 1
          if attempt.atLeast settings.maxAttempts then
            if confirmed runtime settings exchange sent then
              { place := .acknowledged, runs, retries := course.retries
                deadLettered := course.deadLettered + 1 }
            else { course with runs }
          else
            let retries := course.retries ++ [exchange]
            if confirmed runtime settings exchange sent then
              { course with place := .delayed sent, runs, retries }
            else { course with runs, retries }

def start (message : Message Other) : Course Other :=
  { place := .queued message, runs := 0, retries := [], deadLettered := 0 }

def courseOf (runtime : Runtime Other) (settings : Settings) (reason : Nat → String)
    (message : Message Other) : Nat → Course Other
  | 0 => start message
  | time + 1 => step runtime settings reason (courseOf runtime settings reason message time)

end Foc.Retry
