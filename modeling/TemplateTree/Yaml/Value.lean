import TemplateTree.Context
import TemplateTree.Yaml.Basic

/-!
# Values and contexts from YAML data

Data becomes a value as far as it has a counterpart among values: nothing is
the empty text, numbers are their text, sequences are converted element by
element, and tags do not count. A mapping has no counterpart, except as a
whole context, where each member binds its name. Names are text, which may have
a tag; the members are taken in order.
-/

namespace TemplateTree

mutual

def Yaml.toValue : Yaml → Except ValueError Value
  | .null => .ok (.text "")
  | .bool b => .ok (.bool b)
  | .number n => .ok (.text (n.write Yaml.numberLayout))
  | .string s => .ok (.text s)
  | .sequence items => return .list (← Yaml.toValues items)
  | .tagged _ data => data.toValue
  | .mapping _ => .error (.unsupported "mapping")

def Yaml.toValues : List Yaml → Except ValueError (List Value)
  | [] => return []
  | item :: items => return (← item.toValue) :: (← Yaml.toValues items)

end

/-- Data as the name of a variable: text, whatever its tags. -/
def Yaml.name? : Yaml → Option String
  | .string s => some s
  | .tagged _ data => data.name?
  | _ => none

/-- Binds members one after the other. A name has to be text; then its value is
converted, and only then the name may turn out to be empty. -/
def Context.bindMapping (context : Context) : List (Yaml × Yaml) → Except ValueError Context
  | [] => .ok context
  | (key, data) :: members => do
      let name ← (key.name?).elim (.error .notAnObject) .ok
      let value ← data.toValue
      (← context.insert name value).bindMapping members

/-- The context with the members of a mapping as bindings. Nothing is the empty
context. -/
def Context.ofYaml : Yaml → Except ValueError Context
  | .mapping members => Context.bindMapping ∅ members
  | .null => .ok ∅
  | _ => .error .notAnObject

end TemplateTree
