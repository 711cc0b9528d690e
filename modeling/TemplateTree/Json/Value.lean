import TemplateTree.Context
import TemplateTree.Json.Basic
import TemplateTree.SortedPairs

/-!
# Values and contexts from JSON data

Data becomes a value as far as it has a counterpart among values: nothing is
the empty text, numbers are their text, lists are converted element by
element. An object has no counterpart, except as a whole context, where each
member binds its name. The members are then taken in the order of their names,
and of several members with one name only the last counts.
-/

namespace TemplateTree

mutual

def Json.toValue : Json → Except ValueError Value
  | .null => .ok (.text "")
  | .bool b => .ok (.bool b)
  | .number n => .ok (.text (n.write Json.numberLayout))
  | .string s => .ok (.text s)
  | .list items => return .list (← Json.toValues items)
  | .object _ => .error (.unsupported "object")

def Json.toValues : List Json → Except ValueError (List Value)
  | [] => return []
  | item :: items => return (← item.toValue) :: (← Json.toValues items)

end

/-- Binds members one after the other. A value is converted before its name is
looked at. -/
def Context.bindMembers (context : Context) : List (String × Json) → Except ValueError Context
  | [] => .ok context
  | (name, data) :: members => do
      let value ← data.toValue
      (← context.insert name value).bindMembers members

/-- The context with the members of an object as bindings. -/
def Context.ofJson : Json → Except ValueError Context
  | .object members => Context.bindMembers ∅ (sortByKey members)
  | _ => .error .notAnObject

end TemplateTree
