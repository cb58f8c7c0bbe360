import LiteralLang.Node
import LiteralLang.Value.Json

/-!
# Trees in JSON

The document that shows the structure of a tree: every node is an object whose first field names
its kind.
-/

namespace LiteralLang.Node

mutual

def toJson : Node → Json
  | .program body => .object [("type", .text "Program"), ("body", body.toJson)]
  | .literal value => .object [("type", .text "Literal"), ("value", value.toJson)]
  | .array elements =>
      .object [("type", .text "ArrayExpression"), ("elements", .array (toJsons elements))]

def toJsons : List Node → List Json
  | [] => []
  | element :: rest => element.toJson :: toJsons rest

end

end LiteralLang.Node
