import Foc.Library.Double
import Foc.Library.Utf16

/-! Request bodies as `JSON.parse` gives them, with JavaScript's strings, and the parts
of an object that a schema looks at. -/
namespace Foc.Library
open Utf16

/-- A body. An object lists each of its keys once. -/
inductive Body where
  | null
  | bool (value : Bool)
  | number (value : Double)
  | string (units : Units)
  | array (items : List Body)
  | object (entries : List (Units × Body))

def keyName (name : String) : Units := ofText name.toList

namespace Body

def at? (body : Body) (name : String) : Option Body :=
  match body with
  | .object entries => (entries.find? fun entry => entry.1 == keyName name).map Prod.snd
  | _ => none

/-- An object with no key but the named ones. -/
def strict (names : List String) : Body → Bool
  | .object entries => entries.all fun entry => (names.map keyName).contains entry.1
  | _ => false

def text? : Body → Option Units
  | .string units => some units
  | _ => none

def items : Body → List Body
  | .array items => items
  | _ => []

/-- The text that a body gives a field. -/
def TextAt (body : Body) (name : String) (units : Units) : Prop :=
  (body.at? name).bind text? = some units

end Body

end Foc.Library
