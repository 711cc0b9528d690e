import TemplateTree.Json.Basic

/-!
# Data without a format

What data formats have in common: nothing, truth values, numbers, text, lists,
and maps whose keys may be any data. Members of a map stay in order, repeated
ones included.
-/

namespace TemplateTree

/-- Data as a reader of templates sees it. -/
inductive Datum where
  | null
  | bool (b : Bool)
  | number (n : Number)
  | text (s : String)
  | list (items : List Datum)
  | map (members : List (Datum × Datum))

instance : Inhabited Datum := ⟨.null⟩

mutual

/-- JSON data, with the names of members as text. -/
def Json.toDatum : Json → Datum
  | .null => .null
  | .bool b => .bool b
  | .number n => .number n
  | .string s => .text s
  | .list items => .list (Json.toData items)
  | .object members => .map (Json.toMembers members)

def Json.toData : List Json → List Datum
  | [] => []
  | item :: items => item.toDatum :: Json.toData items

def Json.toMembers : List (String × Json) → List (Datum × Datum)
  | [] => []
  | (name, data) :: members => (.text name, data.toDatum) :: Json.toMembers members

end

end TemplateTree
