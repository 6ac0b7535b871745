import PackageRecipe.Json
import PackageRecipe.Yaml.Value

/-!
YAML values as JSON values. Keys become texts, so only strings, numbers and booleans
can be keys; a float that is not finite becomes a null.
-/

namespace PackageRecipe.Yaml

/-- Why a key cannot be a key in JSON. -/
inductive KeyFault where
  | notText
  | notFinite
  deriving DecidableEq, Repr

def KeyFault.message : KeyFault → String
  | .notText => "key must be a string"
  | .notFinite => "float key must be finite"

namespace Number

/-- A number in JSON: a positive power of ten has a sign. -/
def toJson : Number → Json
  | .integer value => .integer value
  | .float (.finite negative significand exponent) =>
      .decimal (Binary64.finiteText "+" negative significand exponent)
  | .float _ => .null

def keyText : Number → Except KeyFault String
  | .integer value => .ok (toString value)
  | .float (.finite negative significand exponent) =>
      .ok (Binary64.finiteText "+" negative significand exponent)
  | .float _ => .error .notFinite

end Number

namespace Value

def keyText : Value → Except KeyFault String
  | .string text => .ok text
  | .boolean value => .ok (toString value)
  | .number value => value.keyText
  | .null | .sequence _ | .mapping _ | .tagged _ _ => .error .notText

mutual
/-- A value under a tag becomes an object with the tag as its only key. -/
def toJson : Value → Except KeyFault Json
  | .null => .ok .null
  | .boolean value => .ok (.boolean value)
  | .number value => .ok value.toJson
  | .string text => .ok (.string text)
  | .sequence items => return .array (← itemsToJson items)
  | .mapping entries => return .object (← entriesToJson entries)
  | .tagged tag value => return .object [(tagText tag, ← value.toJson)]

def itemsToJson : List Value → Except KeyFault (List Json)
  | [] => .ok []
  | head :: tail => do
      let head ← head.toJson
      return head :: (← itemsToJson tail)

def entriesToJson : List (Value × Value) → Except KeyFault (List (String × Json))
  | [] => .ok []
  | (key, value) :: tail => do
      let key ← key.keyText
      let value ← value.toJson
      return (key, value) :: (← entriesToJson tail)
end

end Value

end PackageRecipe.Yaml
