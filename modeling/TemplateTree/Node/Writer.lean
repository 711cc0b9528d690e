import TemplateTree.Json.Printer
import TemplateTree.Node.Shape

/-!
# Writing nodes as data

The written form of a node is an object: first the member that names the kind,
then all fields in their declared order. Fields that may be absent are written
even if they are empty; only the further arms of a conditional are left out
when there are none.
-/

namespace TemplateTree

mutual

def Value.toJson : Value → Json
  | .bool b => .bool b
  | .text s => .string s
  | .list items => .list (Value.toJsonAll items)

def Value.toJsonAll : List Value → List Json
  | [] => []
  | v :: vs => v.toJson :: Value.toJsonAll vs

end

mutual

def Node.toJson : Node → Json
  | .raw text => .object [(kindMember, .string Kind.raw.name), ("text", .string text)]
  | .var name => .object [(kindMember, .string Kind.var.name), ("name", .string name)]
  | .constant value =>
      .object [(kindMember, .string Kind.constant.name), ("value", value.toJson)]
  | .tag name params =>
      .object [(kindMember, .string Kind.tag.name), ("name", .string name),
        ("params", .list (toJsonAll params))]
  | .conditional chain =>
      .object ((kindMember, .string Kind.conditional.name) :: chain.toMembers)
  | .loop item source body =>
      .object [(kindMember, .string Kind.loop.name), ("variable", .string item),
        ("source", source.toJson), ("body", .list (toJsonAll body))]
  | .extend key exports =>
      .object [(kindMember, .string Kind.extend.name), ("key", .string key),
        ("exports", .object (exportsToJson exports))]
  | .block key body =>
      .object [(kindMember, .string Kind.block.name), ("key", .string key),
        ("body", .list (toJsonAll body))]
  | .slot key => .object [(kindMember, .string Kind.slot.name), ("key", .string key)]

/-- The fields of the first arm; the further arms are nested in the last of
them. -/
def Chain.toMembers : Chain → List (String × Json)
  | .last condition body =>
      [("condition", condition.toJson), ("body", .list (toJsonAll body))]
  | .more condition body next =>
      [("condition", condition.toJson), ("body", .list (toJsonAll body)),
        ("next", .object next.toMembers)]

def toJsonAll : List Node → List Json
  | [] => []
  | node :: nodes => node.toJson :: toJsonAll nodes

def exportsToJson : List (String × List Node) → List (String × Json)
  | [] => []
  | (key, body) :: exports => (key, .list (toJsonAll body)) :: exportsToJson exports

end

def Value.toJsonText (value : Value) : String :=
  value.toJson.write

def templateToJsonText (template : Template) : String :=
  (Json.list (toJsonAll template)).write

end TemplateTree
