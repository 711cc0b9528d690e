import TemplateTree.Json.Token

/-!
# JSON data

The members of an object are kept in the order of the text, with all members
of one name.
-/

namespace TemplateTree

inductive Json where
  | null
  | bool (b : Bool)
  | number (n : Number)
  | string (s : String)
  | list (items : List Json)
  | object (members : List (String × Json))

instance : Inhabited Json := ⟨.null⟩

namespace Json

mutual

/-- How deep lists and objects are nested. -/
def depth : Json → Nat
  | .list items => depthItems items + 1
  | .object members => depthMembers members + 1
  | .null | .bool _ | .number _ | .string _ => 0

def depthItems : List Json → Nat
  | [] => 0
  | item :: items => max item.depth (depthItems items)

def depthMembers : List (String × Json) → Nat
  | [] => 0
  | (_, data) :: members => max data.depth (depthMembers members)

end

end Json

end TemplateTree
