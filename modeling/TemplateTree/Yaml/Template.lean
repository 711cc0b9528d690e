import TemplateTree.LoadError
import TemplateTree.Node.Reader
import TemplateTree.Yaml.Reader

/-!
# Templates from YAML text

A template is a sequence of nodes; a text without content, or with an empty
scalar, is the template without nodes. Inside a node no data may have a tag of
its own. The kind of a node at the top level is read as text however it is
written.
-/

namespace TemplateTree

namespace Yaml

mutual

/-- The data of a tree in which no node has a tag of its own. -/
def Tree.toDatum? : Tree → Option Datum
  | .alias _ => none
  | .scalar tag plain text =>
      match ownTag? tag, readScalar? tag plain text with
      | none, some .null => some .null
      | none, some (.bool b) => some (.bool b)
      | none, some (.number n) => some (.number n)
      | none, some (.string s) => some (.text s)
      | _, _ => none
  | .sequence tag items =>
      if (ownTag? tag).isSome then none else return .list (← itemsToDatum? items)
  | .mapping tag members =>
      if (ownTag? tag).isSome then none else return .map (← membersToDatum? members)

def itemsToDatum? : List Tree → Option (List Datum)
  | [] => return []
  | item :: items => return (← item.toDatum?) :: (← itemsToDatum? items)

def membersToDatum? : List (Tree × Tree) → Option (List (Datum × Datum))
  | [] => return []
  | (key, value) :: members =>
      return (← key.toDatum?, ← value.toDatum?) :: (← membersToDatum? members)

end

/-- A scalar as it is written. -/
def Tree.kindToDatum? : Tree → Option Datum
  | .scalar _ _ text => some (.text text)
  | _ => none

/-- A member of a node at the top level. -/
def topMemberToDatum? (member : Tree × Tree) : Option (Datum × Datum) := do
  let key ← member.1.toDatum?
  let value ← if isKindMember key then member.2.kindToDatum? else member.2.toDatum?
  return (key, value)

/-- A node at the top level. -/
def Tree.topToDatum? : Tree → Option Datum
  | .mapping tag members =>
      if (ownTag? tag).isSome then none
      else return .map (← members.mapM topMemberToDatum?)
  | .sequence tag (kind :: fields) =>
      if (ownTag? tag).isSome then none
      else return .list ((← kind.kindToDatum?) :: (← itemsToDatum? fields))
  | tree => tree.toDatum?

/-- The template that a text holds. -/
def loadTemplate? (text : String) : Option Template := do
  match ← document? text with
  | none | some (.scalar _ true "") => return []
  | some (.sequence _ items) =>
      items.mapM fun item => do ((readTopNode (← item.topToDatum?)).toOption)
  | some _ => none

end Yaml

end TemplateTree
