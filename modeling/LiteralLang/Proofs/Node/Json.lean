import LiteralLang.Node.Json
import LiteralLang.Proofs.Node.Tree

/-!
# JSON of values and trees

A value is written as compact JSON at once or by way of a document, and so is a tree.  Both ways
give the same text, for every number.  The document of a tree shows its structure around that of its
value: without the objects that show a node, it is the document of the value.
-/

namespace LiteralLang

/-! ### Text and documents -/

/-- A scalar is written as its document is, whichever way a number takes. -/
theorem Scalar.json_eq_compact (scalar : Scalar) : scalar.json = scalar.toJson.compact := by
  cases scalar with
  | null => rfl
  | boolean value => rfl
  | number value =>
    rw [json, toJson, Binary64.toJson]
    cases value.jsonInteger? with
    | some integer => rfl
    | none => cases value.isFinite <;> rfl
  | text value => rfl

theorem Value.json_eq_compact (value : Value) : value.json = value.toJson.compact := by
  induction value with
  | scalar scalar => exact scalar.json_eq_compact
  | array elements ih =>
    have same : jsons elements = Json.compactItems (toJsons elements) := by
      induction elements with
      | nil => rfl
      | cons element elements rest =>
        rw [List.forall_mem_cons] at ih
        rw [jsons, toJsons, Json.compactItems, ih.1, rest ih.2]
    rw [json, toJson, Json.compact, same]

namespace Node

/-- The text of an object with the name of a kind and one more field. -/
def shownAs (kind field : String) (text : String) : String :=
  "\x7b\"type\":\"" ++ kind ++ "\",\"" ++ field ++ "\":" ++ text ++ "\x7d"

mutual

/-- The compact JSON of a tree. -/
def json : Node → String
  | .program body => shownAs "Program" "body" body.json
  | .literal value => shownAs "Literal" "value" value.json
  | .array elements =>
      shownAs "ArrayExpression" "elements" ("[" ++ ",".intercalate (jsons elements) ++ "]")

/-- The compact JSON of several trees. -/
def jsons : List Node → List String
  | [] => []
  | element :: rest => element.json :: jsons rest

end

/-- Names of kinds and fields are plain words, which are quoted as they are. -/
theorem compact_object {kind field : String} (value : Json)
    (plainKind : Json.quoted kind = "\"" ++ kind ++ "\"")
    (plainField : Json.quoted field = "\"" ++ field ++ "\"") :
    (Json.object [("type", .text kind), (field, value)]).compact =
      shownAs kind field value.compact := by
  have plainType : Json.quoted "type" = "\"type\"" := by decide
  rw [Json.compact, Json.compactFields, Json.compactFields, Json.compactFields, Json.compact,
    plainKind, plainField, plainType, shownAs, ← String.toList_inj]
  simp

theorem json_eq_compact (tree : Node) : tree.json = tree.toJson.compact := by
  induction tree with
  | program body ih =>
    rw [json, toJson, compact_object _ (by decide) (by decide), ih]
  | literal value =>
    rw [json, toJson, compact_object _ (by decide) (by decide), value.json_eq_compact]
  | array elements ih =>
    have same : jsons elements = Json.compactItems (toJsons elements) := by
      induction elements with
      | nil => rfl
      | cons element elements rest =>
        rw [List.forall_mem_cons] at ih
        rw [jsons, toJsons, Json.compactItems, ih.1, rest ih.2]
    rw [json, toJson, compact_object _ (by decide) (by decide), Json.compact, same]

end Node

/-! ### Documents without the objects of nodes -/

namespace Json

/-- What an object with the given fields shows, if it shows a node: the value of a literal, the
elements of an array, or the body of a program. -/
def shown : List (String × Json) → Json
  | [("type", .text "Literal"), ("value", value)] => value
  | [("type", .text "ArrayExpression"), ("elements", elements)] => elements
  | [("type", .text "Program"), ("body", body)] => body
  | fields => .object fields

mutual

/-- A document with every object that shows a node replaced by what it shows, from the inside
out. -/
def unwrapped : Json → Json
  | .array items => .array (unwrappedItems items)
  | .object fields => shown (unwrappedFields fields)
  | plain => plain

/-- Several documents, unwrapped. -/
def unwrappedItems : List Json → List Json
  | [] => []
  | item :: rest => item.unwrapped :: unwrappedItems rest

/-- Fields with their values unwrapped. -/
def unwrappedFields : List (String × Json) → List (String × Json)
  | [] => []
  | (name, value) :: rest => (name, value.unwrapped) :: unwrappedFields rest

end

end Json

/-- The document of a scalar has no objects in it. -/
theorem Scalar.unwrapped_toJson (scalar : Scalar) : scalar.toJson.unwrapped = scalar.toJson := by
  cases scalar with
  | null => rfl
  | boolean value => rfl
  | number value =>
    rw [toJson, Binary64.toJson]
    cases value.jsonInteger? with
    | some integer => rfl
    | none => cases value.isFinite <;> rfl
  | text value => rfl

namespace Node

/-- The document of a tree comes down to that of its value, also where programs stand inside. -/
theorem unwrapped_toJson (tree : Node) : tree.toJson.unwrapped = tree.value.toJson := by
  induction tree with
  | program body ih => exact ih
  | literal value => exact value.unwrapped_toJson
  | array elements ih =>
    have same : Json.unwrappedItems (toJsons elements) = Value.toJsons (values elements) := by
      induction elements with
      | nil => rfl
      | cons element elements rest =>
        rw [List.forall_mem_cons] at ih
        rw [toJsons, Json.unwrappedItems, values, Value.toJsons, ih.1, rest ih.2]
    change Json.array (Json.unwrappedItems (toJsons elements)) = _
    rw [same]
    rfl

/-- Values and trees are written alike at once and by way of their documents.  The document of a
tree, without the objects that show its nodes, is the document of its value, and so it has the text
that the value is written as. -/
theorem json_agrees_with_value :
    (∀ value : Value, value.json = value.toJson.compact) ∧
    ∀ tree : Node, tree.json = tree.toJson.compact ∧
      tree.toJson.unwrapped = tree.value.toJson ∧
      tree.toJson.unwrapped.compact = tree.value.json := by
  refine ⟨Value.json_eq_compact, ?_⟩
  intro tree
  refine ⟨tree.json_eq_compact, tree.unwrapped_toJson, ?_⟩
  rw [tree.unwrapped_toJson, Value.json_eq_compact]

/-- A negative zero is written without its sign, and infinity as null. -/
example : (program (array [literal (.number ⟨true, 0, by decide⟩),
    literal (.number .infinity)])).toJson.unwrapped.compact = "[0,null]" := by decide +kernel

end Node

end LiteralLang
