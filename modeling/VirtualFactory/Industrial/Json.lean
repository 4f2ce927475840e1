import VirtualFactory.Equipment.Equipment
import VirtualFactory.Foundation.Replace

/-!
# Texts and JSON documents

The MQTT and the REST adapter decode JSON values and fill in body templates in the
same way.  The JSON library and the number conversions of the standard library are a
parameter.
-/

namespace VirtualFactory

open Foundation

inductive Json where
  | null
  | boolean (value : Bool)
  | number (value : Double)
  | string (value : String)
  | array (items : List Json)
  | object (members : List (String × Json))

/-- A missing answer stands for an exception. -/
structure TextLib where
  stod : String -> Option Double
  number : Double -> String
  parse : String -> Option Json
  pointer : String -> Json -> Option Json
  deriving Inhabited

namespace Json

def asDouble (text : TextLib) : Json -> Option Double
  | number value => some value
  | boolean value => some (Double.ofBool value)
  | string value => text.stod value
  | _ => none

def asBool : Json -> Option Bool
  | boolean value => some value
  | number value => some (!value.isZero)
  | string value =>
      if value = "true" ∨ value = "running" ∨ value = "1" then some true
      else if value = "false" ∨ value = "stopped" ∨ value = "idle" ∨ value = "0" then
        some false
      else none
  | _ => none

end Json

/-- A body template with the parameter of a command in place of its token. -/
def substituteNumber (text : TextLib) (bodyTemplate : String) (value : Double) :
    String :=
  Replace.replaceAll "\x7b\x7bvalue\x7d\x7d" (text.number value) bodyTemplate

end VirtualFactory
