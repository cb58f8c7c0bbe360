import LiteralLang.Json
import LiteralLang.Value

/-!
# Values in JSON

A value can be written as compact JSON at once, or turned into a document first.
-/

namespace LiteralLang

/-- The compact JSON of a scalar. -/
def Scalar.json : Scalar → String
  | .null => "null"
  | .boolean value => Json.booleanText value
  | .number value =>
      match value.jsonInteger? with
      | some integer => Json.integerText integer
      | none => if value.isFinite then value.dataText else "null"
  | .text value => Json.quoted value

def Scalar.toJson : Scalar → Json
  | .null => .null
  | .boolean value => .boolean value
  | .number value => value.toJson
  | .text value => .text value

namespace Value

mutual

/-- The compact JSON of a value. -/
def json : Value → String
  | .scalar value => value.json
  | .array elements => "[" ++ ",".intercalate (jsons elements) ++ "]"

def jsons : List Value → List String
  | [] => []
  | element :: rest => element.json :: jsons rest

end

mutual

def toJson : Value → Json
  | .scalar value => value.toJson
  | .array elements => .array (toJsons elements)

def toJsons : List Value → List Json
  | [] => []
  | element :: rest => element.toJson :: toJsons rest

end

end Value

end LiteralLang
