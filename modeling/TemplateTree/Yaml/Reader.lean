import TemplateTree.Yaml.Document
import TemplateTree.Yaml.Plain

/-!
# Reading YAML text

`parse?` gives the data of a text, or nothing if the text is malformed, has
more than one document, or has a mapping with one key twice. A text without
content is null.
-/

namespace TemplateTree.Yaml

/-- The tag of one's own that a node has, if its name is text. -/
def ownTag? (tag : Option TagName) : Option String :=
  tag.bind TagName.own?

/-- Data under its tag, if that is one of one's own. -/
def tagWith (tag : Option TagName) (data : Yaml) : Yaml :=
  match ownTag? tag with
  | none => data
  | some tag => .tagged tag data

mutual

def Tree.toData? : Tree → Option Yaml
  | .alias _ => none
  | .scalar tag plain text => return tagWith tag (← readScalar? tag plain text)
  | .sequence tag items => return tagWith tag (.sequence (← itemsToData? items))
  | .mapping tag members => return tagWith tag (.mapping (← membersToData? [] members))

def itemsToData? : List Tree → Option (List Yaml)
  | [] => return []
  | item :: items => return (← item.toData?) :: (← itemsToData? items)

/-- The data of members that stand behind others. -/
def membersToData? (before : List (Yaml × Yaml)) :
    List (Tree × Tree) → Option (List (Yaml × Yaml))
  | [] => return before
  | (key, value) :: members => do
      let key ← key.toData?
      if before.any fun other => other.1.same key then none
      let value ← value.toData?
      membersToData? (before ++ [(key, value)]) members

end

def parse? (text : String) : Option Yaml := do
  match ← document? text with
  | none => return .null
  | some tree => tree.toData?

end TemplateTree.Yaml
