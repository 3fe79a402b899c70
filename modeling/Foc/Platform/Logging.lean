import Mathlib
import Foc.Library.Double
import Foc.Library.Pattern
import Foc.Library.Utf16

/-!
What is logged of an error (`platform/logging.ts`): email addresses and password hashes are
masked in its texts, a failed query is named without the values bound to it, and its causes
and the errors it aggregates are walked, each once. Texts are UTF-16 code units.
-/
namespace Foc.Platform.Logging
open Library
open Library.Utf16 (Units ofText)

/-! ## Masking -/

def units (text : String) : Units := ofText text.toList

def between (first last : UInt16) (unit : UInt16) : Bool := first ≤ unit && unit ≤ last

/-- `[a-z]`, in any case. -/
def letter (unit : UInt16) : Bool := between 97 122 unit || between 65 90 unit

def digit (unit : UInt16) : Bool := between 48 57 unit

/-- `[a-z0-9._%+-]`, in any case. -/
def localUnit (unit : UInt16) : Bool := letter unit || digit unit || unit ∈ units "._%+-"

/-- `[a-z0-9.-]`, in any case. -/
def domainUnit (unit : UInt16) : Bool := letter unit || digit unit || unit ∈ units ".-"

/-- `[\w$+/=,.-]`. -/
def hashUnit (unit : UInt16) : Bool := letter unit || digit unit || unit ∈ units "_$+/=,.-"

/-- A text that is matched as it is; it is not empty. -/
def literal : Units → Pattern UInt16
  | [] => .many fun _ => false
  | [unit] => .one (· == unit)
  | unit :: more => .seq (.one (· == unit)) (literal more)

/-- `/[a-z0-9._%+-]{1,64}(?:@|%40)[a-z0-9.-]{1,253}\.[a-z]{2,63}/gi` -/
def emailPattern : Pattern UInt16 :=
  .seq (.seq (.one localUnit) (.upTo 63 localUnit)) <|
  .seq (.alt (literal (units "@")) (literal (units "%40"))) <|
  .seq (.seq (.one domainUnit) (.upTo 252 domainUnit)) <|
  .seq (literal (units ".")) (.seq (.one letter) (.seq (.one letter) (.upTo 61 letter)))

/-- `/\$(?:argon2(?:id|i|d)|2[abxy])\$[\w$+/=,.-]*/g` -/
def passwordHashPattern : Pattern UInt16 :=
  .seq (literal (units "$")) <|
  .seq (.alt
    (.seq (literal (units "argon2"))
      (.alt (literal (units "id")) (.alt (literal (units "i")) (literal (units "d")))))
    (.seq (literal (units "2")) (.one (· ∈ units "abxy")))) <|
  .seq (literal (units "$")) (.many hashUnit)

def maskPersonalData (text : Units) : Units :=
  passwordHashPattern.replace (units "[hash]") (emailPattern.replace (units "[email]") text)

/-! ## Errors -/

/-- Error fields that locate a fault without quoting data. -/
inductive ErrorField where
  | code | errno | syscall | address | port | constraint | table | column | schema
  deriving DecidableEq, Repr

def errorFields : List ErrorField :=
  [.code, .errno, .syscall, .address, .port, .constraint, .table, .column, .schema]

/-- A value that holds no error. -/
inductive Data where
  /-- `null`, or `undefined` in an array or a member. -/
  | null
  | bool (value : Bool)
  | number (value : Double)
  | text (text : Units)
  | array (items : List Data)
  | object (members : List (Units × Data))

/-- A string, or an object whose message is one, is not passed on as it is. -/
def Data.handled : Data → Bool
  | .text _ => true
  | .object members =>
      match members.lookup (units "message") with
      | some (.text _) => true
      | _ => false
  | _ => false

structure Plain where
  data : Data
  passes : data.handled = false

/-- What a cause or an aggregated error is. An error is known by its place in the heap. -/
inductive Value (Ref : Type) where
  | text (text : Units)
  | plain (plain : Plain)
  | error (ref : Ref)

inductive Scalar where
  | text (text : Units)
  | number (value : Double)

/-- An object whose message is a string, with the members that are read of it: `none` where it has
none of the kind that is read, and where its cause or its params are `undefined`. -/
structure ErrorNode (Ref : Type) where
  /-- The name of its constructor. -/
  type : Units
  message : Units
  stack : Option Units
  query : Option Units
  params : Option Data
  fields : ErrorField → Option Scalar
  cause : Option (Value Ref)
  errors : Option (List (Value Ref))

/-- The errors there are; they may share causes and lead back to themselves. -/
abbrev Heap (Ref : Type) := Ref → ErrorNode Ref

section Messages

variable {Ref : Type} (stringOf : Plain → Units) (heap : Heap Ref)

def failedQuery : Units := units "Failed query: "

/-- The message of a failed query ends with what was bound to it. -/
def paramsMark : Units := 10 :: units "params: "

/-- The driver's reason, or the error's own message where it is not the query builder's. -/
def reasonOf (node : ErrorNode Ref) : Units :=
  match node.cause with
  | some (.error cause) => units ": " ++ (heap cause).message
  | _ => if units "Failed query" <+: node.message then [] else units ": " ++ node.message

def nodeMessage (node : ErrorNode Ref) : Units :=
  match node.query, node.params with
  | some query, some _ => maskPersonalData (failedQuery ++ query ++ reasonOf heap node)
  | _, _ => maskPersonalData node.message

/-- `stringOf` is the language's own, of a value that is no string. -/
def errorMessage : Value Ref → Units
  | .text string => maskPersonalData string
  | .plain plain => maskPersonalData (stringOf plain)
  | .error ref => nodeMessage heap (heap ref)

end Messages

/-! ## The serializer -/

inductive Out where
  | text (text : Units)
  | plain (plain : Plain)
  | object (type message : Units) (stack : Option Units) (fields : List (ErrorField × Scalar))
      (cause : Option Out) (aggregateErrors : Option (List Out))

/-- The first place where the text has the other, replaced. -/
def replaceFirst (other mark : Units) : Units → Units
  | [] => if other = [] then mark else []
  | unit :: more =>
      if other <+: unit :: more then mark ++ (unit :: more).drop other.length
      else unit :: replaceFirst other mark more

def Scalar.masked : Scalar → Scalar
  | .text string => .text (maskPersonalData string)
  | .number value => .number value

def circular : Units := units "[circular]"

section Serializing

variable {Ref : Type} [DecidableEq Ref]

/-- The values of a list one after the other, each with what was seen before it. -/
def walk (visit : Value Ref → List Ref → Option (Out × List Ref)) :
    List (Value Ref) → List Ref → Option (List Out × List Ref)
  | [], seen => some ([], seen)
  | value :: more, seen =>
      (visit value seen).bind fun first =>
        (walk visit more first.2).map fun rest => (first.1 :: rest.1, rest.2)

def walkCause (visit : Value Ref → List Ref → Option (Out × List Ref)) :
    Option (Value Ref) → List Ref → Option (Option Out × List Ref)
  | none, seen => some (none, seen)
  | some value, seen => (visit value seen).map fun cause => (some cause.1, cause.2)

def walkErrors (visit : Value Ref → List Ref → Option (Out × List Ref)) :
    Option (List (Value Ref)) → List Ref → Option (Option (List Out) × List Ref)
  | none, seen => some (none, seen)
  | some values, seen => (walk visit values seen).map fun errors => (some errors.1, errors.2)

/-- What an error becomes, once its causes and aggregated errors are walked. -/
def described (heap : Heap Ref) (node : ErrorNode Ref) (cause : Option Out)
    (errors : Option (List Out)) : Out :=
  let message := nodeMessage heap node
  .object node.type message
    (node.stack.map fun stack => maskPersonalData (replaceFirst node.message message stack))
    (errorFields.filterMap fun field => (node.fields field).map fun value => (field, value.masked))
    cause errors

/-- `fuel` bounds the depth; `seen` are the errors that were met. -/
def serializeFrom (heap : Heap Ref) : Nat → Value Ref → List Ref → Option (Out × List Ref)
  | 0, _, _ => none
  | _ + 1, .text string, seen => some (.text (maskPersonalData string), seen)
  | _ + 1, .plain plain, seen => some (.plain plain, seen)
  | fuel + 1, .error ref, seen =>
      if ref ∈ seen then some (.text circular, seen)
      else
        (walkCause (serializeFrom heap fuel) (heap ref).cause (ref :: seen)).bind fun cause =>
          (walkErrors (serializeFrom heap fuel) (heap ref).errors cause.2).map fun errors =>
            (described heap (heap ref) cause.1 errors.1, errors.2)

/-- No chain of errors that were not met is longer than the errors there are. -/
def serializeError [Fintype Ref] (heap : Heap Ref) (value : Value Ref) : Option Out :=
  (serializeFrom heap (Fintype.card Ref + 1) value []).map Prod.fst

end Serializing

/-! ## Strings -/

def Scalar.strings : Scalar → List Units
  | .text string => [string]
  | .number _ => []

mutual

def Data.strings : Data → List Units
  | .text string => [string]
  | .array items => Data.stringsOf items
  | .object members => Data.memberStrings members
  | _ => []

def Data.stringsOf : List Data → List Units
  | [] => []
  | item :: more => item.strings ++ Data.stringsOf more

def Data.memberStrings : List (Units × Data) → List Units
  | [] => []
  | (name, value) :: more => name :: value.strings ++ Data.memberStrings more

end

mutual

/-- Every string of an output but the names of constructors. -/
def Out.strings : Out → List Units
  | .text string => [string]
  | .plain passed => passed.data.strings
  | .object _ message stack fields cause errors =>
      message :: stack.toList ++ fields.flatMap (·.2.strings) ++ Out.causeStrings cause ++
        Out.errorStrings errors

def Out.causeStrings : Option Out → List Units
  | none => []
  | some cause => cause.strings

def Out.errorStrings : Option (List Out) → List Units
  | none => []
  | some errors => Out.stringsOf errors

def Out.stringsOf : List Out → List Units
  | [] => []
  | out :: more => out.strings ++ Out.stringsOf more

end

end Foc.Platform.Logging
