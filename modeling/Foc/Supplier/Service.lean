import Foc.Library.Json
import Foc.Library.Serial
import Mathlib.Data.Rat.Defs

/-!
Writing suppliers (`supplier-service/src/suppliers/suppliers.service.ts` over
`suppliers.repository.ts` and `db/schema.ts`): create with or without an
Idempotency-Key, update and deactivate, each one transaction under READ COMMITTED.
The unique index on an active name and building is a table of its own, an entry
for each active supplier. Reads outside transactions are left out. PostgreSQL's
`lower` and `hashtext`, SHA-256 and the text of a number are parameters.
-/
namespace Foc.Supplier
open Library.ReadCommitted Library.Transaction Library.Json

abbrev Uuid := Nat
abbrev Millis := Int

structure Settings where
  lower : String → String
  hashtext : String → Int
  sha256 : String → String
  number : Rat → Value

inductive SupplierType where
  | food | cafe | printing | shopping | landmark
  deriving DecidableEq, Repr

def SupplierType.text : SupplierType → String
  | .food => "FOOD"
  | .cafe => "CAFE"
  | .printing => "PRINTING"
  | .shopping => "SHOPPING"
  | .landmark => "LANDMARK"

inductive Day where
  | mon | tue | wed | thu | fri | sat | sun
  deriving DecidableEq, Repr

def Day.text : Day → String
  | .mon => "MON"
  | .tue => "TUE"
  | .wed => "WED"
  | .thu => "THU"
  | .fri => "FRI"
  | .sat => "SAT"
  | .sun => "SUN"

structure OpeningHours where
  day : Day
  opens : String
  closes : String
  deriving DecidableEq, Repr

/-- A validated create. A field may be absent, null or given. -/
structure SupplierInput where
  name : String
  type : SupplierType
  building : String
  floor : String
  locationDescription : String
  openingHours : Option (Option (List OpeningHours))
  latitude : Option (Option Rat)
  longitude : Option (Option Rat)
  imageUrl : Option (Option String)
  tags : Option (Option (List String))
  deriving DecidableEq

/-- A validated update: the fields present. -/
structure Changes where
  name : Option String
  type : Option SupplierType
  building : Option String
  floor : Option String
  locationDescription : Option String
  openingHours : Option (Option (List OpeningHours))
  latitude : Option (Option Rat)
  longitude : Option (Option Rat)
  imageUrl : Option (Option String)
  tags : Option (Option (List String))
  deriving DecidableEq

structure SupplierRow where
  supplierId : Uuid
  name : String
  type : SupplierType
  building : String
  floor : String
  locationDescription : String
  openingHours : Option (List OpeningHours)
  latitude : Option Rat
  longitude : Option Rat
  imageUrl : Option String
  tags : Option (List String)
  active : Bool
  version : Int
  createdAt : Millis
  updatedAt : Millis
  deriving DecidableEq

/-- The supplier a key produced, and the hash of the body that claimed it. -/
structure KeyRow where
  supplierId : Uuid
  requestHash : String
  deriving DecidableEq, Repr

/-- The primary keys and the unique index. An advisory lock is a row that is only
ever inserted and deleted again. -/
inductive Key where
  | supplier (id : Uuid)
  | named (name building : String)
  | idempotency (key : String)
  | advisory (lock : Int)
  deriving DecidableEq, Repr

@[reducible] def Row : Key → Type
  | .supplier _ => SupplierRow
  | .named _ _ => Uuid
  | .idempotency _ => KeyRow
  | .advisory _ => Unit

/-! ## Bodies and rows -/

def OpeningHours.json (hours : OpeningHours) : Value :=
  .object (ofEntries
    [ ("day", .string hours.day.text), ("opens", .string hours.opens),
      ("closes", .string hours.closes) ])

/-- A field of a body: no entry when it is absent. -/
def entry {α : Type} (key : String) (write : α → Value) : Option (Option α) →
    List (String × Value)
  | none => []
  | some none => [(key, .null)]
  | some (some value) => [(key, write value)]

def SupplierInput.json (number : Rat → Value) (input : SupplierInput) : Value :=
  .object (ofEntries
    ([ ("name", .string input.name), ("type", .string input.type.text),
       ("building", .string input.building), ("floor", .string input.floor),
       ("locationDescription", .string input.locationDescription) ] ++
      entry "openingHours" (fun hours => .array (ofItems (hours.map OpeningHours.json)))
        input.openingHours ++
      entry "latitude" number input.latitude ++ entry "longitude" number input.longitude ++
      entry "imageUrl" .string input.imageUrl ++
      entry "tags" (fun tags => .array (ofItems (tags.map .string))) input.tags))

/-- The body of a create: the input, with its keys in the order they were sent. -/
structure Body (number : Rat → Value) where
  json : Value
  input : SupplierInput
  same : Same json (input.json number)

/-- The names of the fields differ in their letters, which `localeCompare` orders as
their codes do. -/
def requestHash (settings : Settings) (body : Body settings.number) : String :=
  settings.sha256 (stringify body.json)

def newSupplier (id : Uuid) (input : SupplierInput) (now : Millis) : SupplierRow where
  supplierId := id
  name := input.name
  type := input.type
  building := input.building
  floor := input.floor
  locationDescription := input.locationDescription
  openingHours := input.openingHours.join
  latitude := input.latitude.join
  longitude := input.longitude.join
  imageUrl := input.imageUrl.join
  tags := input.tags.join
  active := true
  version := 1
  createdAt := now
  updatedAt := now

/-- What `update` sets: the fields present, the next version and the time. -/
def Changes.apply (changes : Changes) (now : Millis) (row : SupplierRow) : SupplierRow :=
  { row with
    name := changes.name.getD row.name
    type := changes.type.getD row.type
    building := changes.building.getD row.building
    floor := changes.floor.getD row.floor
    locationDescription := changes.locationDescription.getD row.locationDescription
    openingHours := changes.openingHours.getD row.openingHours
    latitude := changes.latitude.getD row.latitude
    longitude := changes.longitude.getD row.longitude
    imageUrl := changes.imageUrl.getD row.imageUrl
    tags := changes.tags.getD row.tags
    version := row.version + 1
    updatedAt := now }

def SupplierRow.deactivated (row : SupplierRow) (now : Millis) : SupplierRow :=
  { row with active := false, version := row.version + 1, updatedAt := now }

def within (least most : Nat) (text : String) : Bool :=
  decide (least ≤ text.length ∧ text.length ≤ most)

/-- The CHECKs of the table, and the range of its `integer` version. -/
def SupplierRow.storable (row : SupplierRow) : Bool :=
  within 1 200 row.name && within 1 200 row.building && within 1 50 row.floor &&
    within 1 500 row.locationDescription && row.imageUrl.all (within 1 2048) &&
    decide (1 ≤ row.version ∧ row.version ≤ 2147483647) &&
    decide (row.latitude.isNone = row.longitude.isNone) &&
    row.latitude.all (fun value => decide (-90 ≤ value ∧ value ≤ 90)) &&
    row.longitude.all (fun value => decide (-180 ≤ value ∧ value ≤ 180))

/-- The index entry of an active supplier. -/
def SupplierRow.named (settings : Settings) (row : SupplierRow) : Key :=
  .named (settings.lower row.name) (settings.lower row.building)

/-! ## Transactions -/

inductive Refusal where
  | notFound
  | staleVersion (expectedVersion : Int)
  | duplicate
  | idempotencyKeyReused
  | primaryKey
  | notStorable
  | missingRow
  deriving DecidableEq, Repr

/-- What a call answers, and how it came by the supplier. -/
inductive Result where
  | created (row : SupplierRow)
  | replayed (row : SupplierRow)
  | updated (row : SupplierRow)
  | deactivated (row : SupplierRow)
  | unchanged (row : SupplierRow)
  deriving DecidableEq

def Result.row : Result → SupplierRow
  | .created row | .replayed row | .updated row | .deactivated row | .unchanged row => row

abbrev Answer : Empty → Type := Empty.elim

abbrev Tx := Program Row Answer Refusal

def findById (id : Uuid) : Tx (Option SupplierRow) :=
  .select fun view => .done (view.lookup (.supplier id))

def findIdempotent (key : String) : Tx (Option KeyRow) :=
  .select fun view => .done (view.lookup (.idempotency key))

def insertNew (key : Key) (row : Row key) : Tx Bool := .insert key row .done

def advisoryLock (lock : Int) : Tx Unit := do
  let _ ← insertNew (.advisory lock) ()
  let _ ← lockRow (Key.advisory lock) false (fun _ => true) fun _ => none
  return ()

def deleteEntry (entry : Key) : Tx Unit := do
  let _ ← lockRow entry false (fun _ => true) fun _ => none
  return ()

/-- A new version of a row that was locked: the CHECKs, then the index. -/
def reindex (settings : Settings) (old new : SupplierRow) : Tx Unit :=
  if !new.storable then .fail .notStorable
  else if !old.active then .done ()
  else if !new.active then deleteEntry (old.named settings)
  else if old.named settings = new.named settings then .done ()
  else do
    deleteEntry (old.named settings)
    if ← insertNew (.named (settings.lower new.name) (settings.lower new.building)) new.supplierId then
      return ()
    else .fail .duplicate

/-- `repo.insert`. -/
def insertSupplier (settings : Settings) (row : SupplierRow) : Tx Unit := do
  if !row.storable then .fail .notStorable
  else if ← insertNew (.supplier row.supplierId) row then
    if ← insertNew (.named (settings.lower row.name) (settings.lower row.building)) row.supplierId then
      return ()
    else .fail .duplicate
  else .fail .primaryKey

def claimIdempotencyKey (key : String) (supplierId : Uuid) (hash : String) : Tx Bool :=
  insertNew (.idempotency key) ⟨supplierId, hash⟩

def insertFresh (settings : Settings) (supplierId : Uuid) (input : SupplierInput) (now : Millis) :
    Tx SupplierRow := do
  insertSupplier settings (newSupplier supplierId input now)
  return newSupplier supplierId input now

/-- `create`. An empty key is no key. -/
def create (settings : Settings) (body : Body settings.number) (idempotencyKey : Option String)
    (supplierId : Uuid) (now : Millis) : Tx Result :=
  match idempotencyKey.filter (· ≠ "") with
  | some key => do
      advisoryLock (settings.hashtext key)
      match ← findIdempotent key with
      | some existing =>
          if existing.requestHash ≠ requestHash settings body then .fail .idempotencyKeyReused
          else
            match ← findById existing.supplierId with
            | some row => return .replayed row
            | none => .fail .missingRow
      | none =>
          let row ← insertFresh settings supplierId body.input now
          let _ ← claimIdempotencyKey key supplierId (requestHash settings body)
          return .created row
  | none => do
      let row ← insertFresh settings supplierId body.input now
      return .created row

def update (settings : Settings) (id : Uuid) (expectedVersion : Int) (changes : Changes)
    (now : Millis) : Tx Result := do
  match ← lockRow (Key.supplier id) false (fun row => decide (row.version = expectedVersion))
      fun row => some (changes.apply now row) with
  | some old =>
      reindex settings old (changes.apply now old)
      return .updated (changes.apply now old)
  | none =>
      match ← findById id with
      | none => .fail .notFound
      | some _ => .fail (.staleVersion expectedVersion)

def deactivate (settings : Settings) (id : Uuid) (expectedVersion : Int) (now : Millis) :
    Tx Result := do
  match ← lockRow (Key.supplier id) false
      (fun row => decide (row.version = expectedVersion) && row.active)
      fun row => some (row.deactivated now) with
  | some old =>
      reindex settings old (old.deactivated now)
      return .deactivated (old.deactivated now)
  | none =>
      match ← findById id with
      | none => .fail .notFound
      | some current =>
          if !current.active && decide (current.version = expectedVersion) then
            return .unchanged current
          else .fail (.staleVersion expectedVersion)

/-- A call, with the id and the time it draws. -/
inductive Call (number : Rat → Value) where
  | create (body : Body number) (idempotencyKey : Option String) (supplierId : Uuid) (now : Millis)
  | update (id : Uuid) (expectedVersion : Int) (changes : Changes) (now : Millis)
  | deactivate (id : Uuid) (expectedVersion : Int) (now : Millis)

/-- The calls that ended, the last first. -/
abbrev Log (number : Rat → Value) := List (Call number × Except Refusal Result)

def main (settings : Settings) : Call settings.number → Tx Result
  | .create body key supplierId now => create settings body key supplierId now
  | .update id version changes now => update settings id version changes now
  | .deactivate id version now => deactivate settings id version now

def supplierService (settings : Settings) :
    Service Row Answer Refusal (Call settings.number) Result (Log settings.number) Empty where
  main := main settings
  starts := fun _ _ => true
  respond := fun _ _ ask _ => ask.elim
  finished := fun log call result => (call, .ok result) :: log
  refused := fun log call refusal => (call, .error refusal) :: log
  stimulus := fun _ stimulus => stimulus.elim

end Foc.Supplier
