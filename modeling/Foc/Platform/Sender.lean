import Mathlib.Data.List.AList

/-!
Who published a message: `platform/src/events/sender.ts`, with the places that
publish a received message again (`consumer.ts`, `dead-letters.ts`). Header
tables and `user-id` are whatever a publisher chose to write; the only check
modelled on them is the one RabbitMQ makes, that `user-id`, when present, is the
login of the publishing connection.
-/
namespace Foc.Sender

/-- A decoded AMQP header value. Only a string can name an account. -/
inductive HeaderValue where
  | string (value : String)
  | number (value : Int)
  | boolean (value : Bool)
  | null
  | bytes (data : List UInt8)
  | list (items : List HeaderValue)
  | table (fields : List (String × HeaderValue))

mutual
/-- `JSON.parse(JSON.stringify(value))`: a `Buffer` comes back as an object. -/
def jsonCopy : HeaderValue → HeaderValue
  | .string value => .string value
  | .number value => .number value
  | .boolean value => .boolean value
  | .null => .null
  | .bytes data => .table [("type", .string "Buffer"),
      ("data", .list (data.map fun byte => .number byte.toNat))]
  | .list items => .list (jsonCopyItems items)
  | .table fields => .table (jsonCopyFields fields)

def jsonCopyItems : List HeaderValue → List HeaderValue
  | [] => []
  | value :: rest => jsonCopy value :: jsonCopyItems rest

def jsonCopyFields : List (String × HeaderValue) → List (String × HeaderValue)
  | [] => []
  | (name, value) :: rest => (name, jsonCopy value) :: jsonCopyFields rest
end

abbrev Headers := AList fun _ : String => HeaderValue

def Headers.jsonCopy (headers : Headers) : Headers :=
  ⟨headers.entries.map (.map id fun _ => Sender.jsonCopy), headers.nodupKeys.map₂ _ _⟩

structure SenderProperties where
  userId : Option HeaderValue
  headers : Option Headers
  persistent : Bool

def headerSender := "x-foc-sender"
def headerAttempt := "x-foc-attempt"
def headerFailure := "x-foc-failure-reason"
def headerOriginalQueue := "x-foc-original-queue"
def headerRedriveOf := "x-foc-redrive-of"

def failureHeaders : List String :=
  [headerAttempt, headerFailure, headerOriginalQueue, "x-death",
    "x-first-death-exchange", "x-first-death-queue", "x-first-death-reason",
    "x-last-death-exchange", "x-last-death-queue", "x-last-death-reason"]

/-- A broker login. `connection.ts` reads it from the connection URL, and an
empty user name there is no account. -/
structure Account where
  name : String
  named : name ≠ ""

def text : Option HeaderValue → Option String
  | some (.string value) => if value ≠ "" then some value else none
  | _ => none

/-- `properties.headers?.[name]`. -/
def SenderProperties.header (properties : SenderProperties) (name : String) :
    Option HeaderValue :=
  properties.headers.bind (AList.lookup name)

def senderOf (properties : SenderProperties) (ownAccount : Option Account) :
    Option String :=
  let userId := text properties.userId
  if userId.isSome ∧ userId = ownAccount.map Account.name then
    (text (properties.header headerSender)).or userId
  else userId

def resendProperties (properties : SenderProperties) (ownAccount : Option Account) :
    SenderProperties :=
  let headers := properties.headers.getD ∅
  { properties with
    userId := ownAccount.map fun account => .string account.name
    headers := some (match senderOf properties ownAccount with
      | some sender => headers.insert headerSender (.string sender)
      | none => headers) }

/-- The failure headers a consumer writes over a message's own before it is
published again, to a delay exchange or to the dead-letter exchange. -/
def failedHeaders (properties : SenderProperties) (queue reason : String)
    (attempt : HeaderValue) : Headers :=
  (((properties.headers.getD ∅).insert headerFailure (.string reason)).insert
    headerOriginalQueue (.string queue)).insert headerAttempt attempt

/-- `EventConsumer.publishTo`. -/
def publishTo (properties : SenderProperties) (headers : Headers)
    (ownAccount : Option Account) : SenderProperties :=
  { resendProperties { properties with headers := some headers } ownAccount with
    persistent := true }

def redriveProperties (stored : SenderProperties) (deadLetterId : String)
    (account : Option Account) : SenderProperties :=
  let resent := resendProperties stored account
  let headers := failureHeaders.foldl (fun kept header => kept.erase header)
    (resent.headers.getD ∅)
  { resent with
    headers := some (headers.insert headerRedriveOf (.string deadLetterId))
    persistent := true }

/-- The `properties` column `toDeadLetterRow` stores. -/
def parkedProperties (properties : SenderProperties) : SenderProperties :=
  { properties with
    userId := properties.userId.map jsonCopy
    headers := properties.headers.map Headers.jsonCopy }

/-- What RabbitMQ records on a message it dead-letters itself: `x-death`, the
first death if there is none yet, and the last one. -/
def brokerDeath (properties : SenderProperties) (deaths : HeaderValue)
    (exchange queue reason : String) : SenderProperties :=
  let headers := (properties.headers.getD ∅).insert "x-death" deaths
  let headers := if (headers.lookup "x-first-death-reason").isSome then headers
    else ((headers.insert "x-first-death-exchange" (.string exchange)).insert
      "x-first-death-queue" (.string queue)).insert "x-first-death-reason" (.string reason)
  { properties with
    headers := some (((headers.insert "x-last-death-exchange" (.string exchange)).insert
      "x-last-death-queue" (.string queue)).insert "x-last-death-reason" (.string reason)) }

/-- The sender check of `EventConsumer.handle`, for a service that signs in as
itself, with the text of the `UntrustedSenderError` it throws. -/
def checkSender (expected : List String) (eventType : String)
    (properties : SenderProperties) (account : Option Account) : Except String Unit :=
  let refused (sender : Option String) := Except.error
    ("sender " ++ sender.getD "unknown" ++ " may not publish " ++ eventType ++
      ": only " ++ " or ".intercalate expected ++ " may")
  match senderOf properties account with
  | none => refused none
  | some sender => if expected.contains sender then .ok () else refused (some sender)

/-- One way a message goes on after it was received, at the service whose queue
it reached. `attempt` is the number that consumer read and wrote back. -/
inductive Hop where
  | retry (queue reason : String) (attempt : HeaderValue)
  | deadLetter (queue reason : String) (attempt : HeaderValue)
  | brokerDeath (deaths : HeaderValue) (exchange queue reason : String)
  | park
  | redrive (deadLetterId : String)

def Hop.apply (account : Account) (properties : SenderProperties) : Hop → SenderProperties
  | .retry queue reason attempt | .deadLetter queue reason attempt =>
      publishTo properties (failedHeaders properties queue reason attempt) (some account)
  | .brokerDeath deaths exchange queue reason =>
      Sender.brokerDeath properties deaths exchange queue reason
  | .park => parkedProperties properties
  | .redrive deadLetterId => redriveProperties properties deadLetterId (some account)

/-- The hops that publish the message again, through `resendProperties`. -/
def Hop.resends : Hop → Bool
  | .retry .. | .deadLetter .. | .redrive _ => true
  | .brokerDeath .. | .park => false

def travel (account : Account) (hops : List Hop) (properties : SenderProperties) :
    SenderProperties :=
  hops.foldl (Hop.apply account) properties

section Claimed

variable (account : Account) (properties : SenderProperties)

/-- The first sender a message's own header names. -/
def claimed : Option String := text (properties.header headerSender)

theorem text_json_copy (value : Option HeaderValue) :
    text (value.map jsonCopy) = text value := by
  rcases value with _ | value
  · rfl
  · cases value <;> simp [jsonCopy, text]

theorem text_named (value : Option HeaderValue) (name : String)
    (named : text value = some name) : name ≠ "" := by
  rcases value with _ | value
  · simp [text] at named
  · cases value <;> simp [text] at named
    rcases named with ⟨nonempty, rfl⟩
    exact nonempty

theorem sender_named (sender : String)
    (sent : senderOf properties (some account) = some sender) : sender ≠ "" := by
  simp only [senderOf] at sent
  split at sent
  · rcases Option.or_eq_some_iff.mp sent with fromHeader | ⟨_, fromUser⟩
    · exact text_named _ _ fromHeader
    · exact text_named _ _ fromUser
  · exact text_named _ _ sent

theorem resend_claimed :
    claimed (resendProperties properties (some account)) =
      (senderOf properties (some account)).or (claimed properties) := by
  cases sent : senderOf properties (some account) with
  | none =>
      cases found : properties.headers <;>
        simp [claimed, SenderProperties.header, resendProperties, sent, found, text]
  | some sender =>
      have nonempty := sender_named account properties sender sent
      simp [claimed, SenderProperties.header, resendProperties, sent, text, nonempty]

/-- Headers that leave the recorded sender alone leave it as the message had it. -/
theorem claimed_headers (headers : Headers)
    (kept : headers.lookup headerSender = (properties.headers.getD ∅).lookup headerSender) :
    text (headers.lookup headerSender) = claimed properties := by
  rw [kept]
  cases found : properties.headers <;> simp [claimed, SenderProperties.header, found]

theorem failed_headers_claimed (queue reason : String) (attempt : HeaderValue) :
    (failedHeaders properties queue reason attempt).lookup headerSender =
      (properties.headers.getD ∅).lookup headerSender := by
  simp [failedHeaders, AList.lookup_insert_ne, headerSender, headerAttempt, headerFailure,
    headerOriginalQueue]

theorem erase_headers (names : List String) (headers : Headers) (name : String) :
    (names.foldl (fun kept header => kept.erase header) headers).lookup name =
      if name ∈ names then none else headers.lookup name := by
  induction names generalizing headers with
  | nil => rfl
  | cons first rest ih =>
      rw [List.foldl_cons, ih]
      by_cases same : name = first
      · subst same
        simp
      · rw [AList.lookup_erase_ne same]
        simp [same]

/-- A consumer's reading and a message's claim see only these two fields. -/
theorem sender_of_same (other : SenderProperties)
    (user : text other.userId = text properties.userId)
    (claim : claimed other = claimed properties) :
    senderOf other (some account) = senderOf properties (some account) := by
  unfold claimed at claim
  simp only [senderOf, user, claim]

theorem publish_claimed (queue reason : String) (attempt : HeaderValue) :
    claimed (publishTo properties (failedHeaders properties queue reason attempt)
      (some account)) = (senderOf properties (some account)).or (claimed properties) := by
  let restamped : SenderProperties :=
    { properties with headers := some (failedHeaders properties queue reason attempt) }
  have claim : claimed restamped = claimed properties :=
    claimed_headers properties _ (failed_headers_claimed properties queue reason attempt)
  have resent := resend_claimed account restamped
  rw [sender_of_same account properties restamped rfl claim, claim] at resent
  exact resent

theorem redrive_claimed (deadLetterId : String) :
    claimed (redriveProperties properties deadLetterId (some account)) =
      (senderOf properties (some account)).or (claimed properties) := by
  rw [← resend_claimed]
  apply claimed_headers
  rw [AList.lookup_insert_ne (by decide), erase_headers, if_neg (by decide)]

/-- Every hop that publishes again does so under the service's own account, and
its header then names the sender this service would have read. -/
theorem resend_hop (hop : Hop) (resends : hop.resends = true) :
    text (hop.apply account properties).userId = some account.name ∧
      claimed (hop.apply account properties) =
        (senderOf properties (some account)).or (claimed properties) := by
  have user : text (some (HeaderValue.string account.name)) = some account.name := by
    simp [text, account.named]
  cases hop with
  | retry queue reason attempt =>
      exact ⟨user, publish_claimed account properties queue reason attempt⟩
  | deadLetter queue reason attempt =>
      exact ⟨user, publish_claimed account properties queue reason attempt⟩
  | redrive deadLetterId => exact ⟨user, redrive_claimed account properties deadLetterId⟩
  | brokerDeath => simp [Hop.resends] at resends
  | park => simp [Hop.resends] at resends

theorem park_claimed : claimed (parkedProperties properties) = claimed properties := by
  cases found : properties.headers with
  | none => simp [claimed, SenderProperties.header, parkedProperties, found]
  | some headers =>
      have copied : headers.jsonCopy.lookup headerSender =
          (headers.lookup headerSender).map jsonCopy :=
        List.dlookup_map₂ headerSender
      simp [claimed, SenderProperties.header, parkedProperties, found, copied, text_json_copy]

theorem broker_death_claimed (deaths : HeaderValue) (exchange queue reason : String) :
    claimed (brokerDeath properties deaths exchange queue reason) = claimed properties := by
  apply claimed_headers
  simp only [headerSender]
  split <;> simp [AList.lookup_insert_ne]

theorem keep_hop (hop : Hop) (keeps : hop.resends = false) :
    text (hop.apply account properties).userId = text properties.userId ∧
      claimed (hop.apply account properties) = claimed properties := by
  cases hop with
  | brokerDeath deaths exchange queue reason =>
      exact ⟨rfl, broker_death_claimed properties deaths exchange queue reason⟩
  | park => exact ⟨text_json_copy properties.userId, park_claimed properties⟩
  | retry => simp [Hop.resends] at keeps
  | deadLetter => simp [Hop.resends] at keeps
  | redrive => simp [Hop.resends] at keeps

theorem sender_foreign (foreign : text properties.userId ≠ some account.name) :
    senderOf properties (some account) = text properties.userId := by
  simp [senderOf, foreign]

theorem sender_own (own : text properties.userId = some account.name) :
    senderOf properties (some account) = (claimed properties).or (some account.name) := by
  simp [senderOf, claimed, own]

/-- A run of hops reads as its first republishing left it. Before any, as the
message came; after one, the recorded sender, then the claimed one, then this
service itself. -/
theorem travel_sender (hops : List Hop) :
    senderOf (travel account hops properties) (some account) =
      if hops.any Hop.resends then
        ((senderOf properties (some account)).or (claimed properties)).or (some account.name)
      else senderOf properties (some account) := by
  induction hops generalizing properties with
  | nil => simp [travel]
  | cons hop rest ih =>
      have rested := ih (hop.apply account properties)
      simp only [travel, List.foldl_cons, List.any_cons] at rested ⊢
      rw [rested]
      by_cases resends : hop.resends = true
      · obtain ⟨user, claim⟩ := resend_hop account properties hop resends
        rw [sender_own account _ user, claim]
        cases senderOf properties (some account) <;> cases claimed properties <;>
          simp [resends]
      · rw [Bool.not_eq_true] at resends
        obtain ⟨user, claim⟩ := keep_hop account properties hop resends
        rw [sender_of_same account properties _ user claim, claim]
        simp [resends]

end Claimed

section Attribution

/-- A message as some account may publish it: the broker refuses another login
in `user-id`, and nothing else is checked. -/
structure Published (publisher : Account) where
  properties : SenderProperties
  accepted : properties.userId = none ∨
    properties.userId = some (.string publisher.name)

variable {publisher : Account} (reader : Account)

def Attributed (message : Published publisher) (hops : List Hop) : Prop :=
  ∀ sender, senderOf (travel reader hops message.properties) (some reader) = some sender →
    sender = publisher.name

def Refused (expected : List String) (eventType : String) (properties : SenderProperties) :
    Prop :=
  ∃ reason, checkSender expected eventType properties (some reader) = .error reason

def RefusalKept (message : Published publisher) (hops : List Hop) : Prop :=
  ∀ expected eventType, Refused reader expected eventType message.properties →
    Refused reader expected eventType (travel reader hops message.properties)

/-- The publisher put its own account in `user-id`, and where that is the
reader's account too, its header names nobody else. -/
def Vouched (message : Published publisher) : Prop :=
  text message.properties.userId = some publisher.name ∧
    (publisher = reader → claimed message.properties = none ∨
      claimed message.properties = some publisher.name)

variable {reader}

theorem refused_iff (expected : List String) (eventType : String)
    (properties : SenderProperties) :
    Refused reader expected eventType properties ↔
      ∀ sender ∈ senderOf properties (some reader), sender ∉ expected := by
  cases sent : senderOf properties (some reader) with
  | none => simp [Refused, checkSender, sent]
  | some sender => by_cases known : sender ∈ expected <;> simp [Refused, checkSender, sent, known]

theorem vouched_sender {message : Published publisher} (vouched : Vouched reader message) :
    senderOf message.properties (some reader) = some publisher.name := by
  by_cases same : publisher = reader
  · subst same
    rw [sender_own _ _ vouched.1]
    rcases vouched.2 rfl with silent | named <;> simp [*]
  · rw [sender_foreign _ _ ?_, vouched.1]
    intro equal
    rw [vouched.1, Option.some.injEq] at equal
    cases publisher
    cases reader
    exact same (by simpa using equal)

theorem vouched_travel {message : Published publisher} (vouched : Vouched reader message)
    (hops : List Hop) :
    senderOf (travel reader hops message.properties) (some reader) = some publisher.name := by
  rw [travel_sender, vouched_sender vouched]
  simp

/-- Attribution and refusal survive a run of hops exactly when the publisher
identified itself, or when it did not and nothing published the message again. -/
theorem sender_survives_iff (message : Published publisher) (hops : List Hop) :
    Attributed reader message hops ∧ RefusalKept reader message hops ↔
      Vouched reader message ∨
        message.properties.userId = none ∧ hops.any Hop.resends = false := by
  constructor
  · rintro ⟨attributed, kept⟩
    rcases message.accepted with silent | signed
    · refine .inr ⟨silent, ?_⟩
      have unknown : senderOf message.properties (some reader) = none := by
        rw [sender_foreign] <;> simp [silent, text]
      cases resent : hops.any Hop.resends with
      | false => rfl
      | true =>
          -- Some account is read after the first republishing, so a consumer
          -- that expects exactly that account changes its mind.
          have read := travel_sender reader message.properties hops
          rw [resent, unknown, if_pos rfl] at read
          obtain ⟨sender, found⟩ : ∃ sender,
              senderOf (travel reader hops message.properties) (some reader) = some sender := by
            rw [read]
            cases claimed message.properties <;> simp
          have first : Refused reader [sender] "" message.properties := by
            rw [refused_iff, unknown]
            simp
          have later := kept [sender] "" first
          rw [refused_iff, found] at later
          simp at later
    · have user : text message.properties.userId = some publisher.name := by
        simp [signed, text, publisher.named]
      refine .inl ⟨user, fun same => ?_⟩
      subst same
      cases claim : claimed message.properties with
      | none => exact .inl rfl
      | some sender =>
          have read := travel_sender publisher message.properties hops
          rw [sender_own _ _ user, claim] at read
          exact .inr (congrArg some (attributed sender (by simpa using read)))
  · rintro (vouched | ⟨silent, kept⟩)
    · have read := vouched_travel vouched hops
      refine ⟨fun sender sent => ?_, fun expected eventType refused => ?_⟩
      · rw [read, Option.some.injEq] at sent
        exact sent.symm
      · rw [refused_iff, vouched_sender vouched] at refused
        rwa [refused_iff, read]
    · have unknown : senderOf message.properties (some reader) = none := by
        rw [sender_foreign] <;> simp [silent, text]
      have read := travel_sender reader message.properties hops
      rw [kept, unknown] at read
      refine ⟨fun sender sent => ?_, fun expected eventType refused => ?_⟩
      · simp [read] at sent
      · simp [refused_iff, read]

/-- A message without `user-id` whose header names another service. -/
def unsignedMessage : Published ⟨"order-service", by decide⟩ where
  properties :=
    { userId := none
      headers := some (AList.singleton headerSender (.string "user-service"))
      persistent := true }
  accepted := .inl rfl

/-- It is refused when it arrives, set aside, parked and redriven, and is then
believed to come from the service its header names. -/
theorem unsigned_message_believed :
    let reader : Account := ⟨"credit-service", by decide⟩
    let hops := [.deadLetter "foc.credit.user-activated" "sender unknown" (.number 1), .park,
      .redrive "d1"]
    checkSender ["user-service"] "user.activated" unsignedMessage.properties (some reader) =
        .error "sender unknown may not publish user.activated: only user-service may" ∧
      checkSender ["user-service"] "user.activated"
        (travel reader hops unsignedMessage.properties) (some reader) = .ok () ∧
      ¬ Attributed reader unsignedMessage hops ∧ ¬ RefusalKept reader unsignedMessage hops := by
  intro reader hops
  have first : checkSender ["user-service"] "user.activated" unsignedMessage.properties
      (some reader) =
        .error "sender unknown may not publish user.activated: only user-service may" := by
    decide
  have read : senderOf (travel reader hops unsignedMessage.properties) (some reader) =
      some "user-service" := by
    rw [travel_sender]
    decide
  have second : checkSender ["user-service"] "user.activated"
      (travel reader hops unsignedMessage.properties) (some reader) = .ok () := by
    simp [checkSender, read]
  refine ⟨first, second, fun attributed => ?_, fun kept => ?_⟩
  · have wrong := attributed _ read
    exact absurd wrong (by decide)
  · obtain ⟨reason, refused⟩ := kept _ _ ⟨_, first⟩
    rw [second] at refused
    exact nomatch refused

end Attribution

end Foc.Sender
