import TemplateTree.Json.Reader
import TemplateTree.LoadError
import TemplateTree.Node.Reader

/-!
# Templates and values from JSON text

A text is read from left to right, and the first thing that is wrong with it
is reported, be it that the text is no JSON or that the JSON is no template.
A node at the top level counts as read when it is closed; only its kind is
looked at as soon as it is there. So a text that goes wrong inside a node
(`checkOpenNode`) can still fail because of the kind of that node, or because
of a node before it.
-/

namespace TemplateTree

/-- The error for a list or object that has been opened where something else
was expected. -/
def Json.Frame.unexpected (frame : Json.Frame) (expected : Expected) : ShapeError :=
  match frame with
  | .list _ => .invalidType .list expected
  | .object _ _ => .invalidType .map expected

/-- Refuses the innermost frames of a text if the outermost of them stands
where the kind of a node is expected. -/
def checkOpenKind : List Json.Frame → Except ShapeError Unit
  | [] => .ok ()
  | frame :: _ => .error (frame.unexpected .kindName)

/-- Refuses a node that is open if what has been read of it names no kind. -/
def checkOpenNode : List Json.Frame → Except ShapeError Unit
  | [] => .ok ()
  | .object members pending? :: inner => do
      let found? ← findKind false none (Json.toMembers members.reverse)
      if pending? = some kindMember then
        match found? with
        | some _ => .error (.duplicateField kindMember)
        | none => checkOpenKind inner
  | .list items :: inner =>
      match items.reverse with
      | [] => checkOpenKind inner
      | tag :: _ => discard (readKind false tag.toDatum)

/-- Nodes at the top level, in order. -/
def readTopNodes (items : List Json) : Except ShapeError Template :=
  items.mapM fun item => readTopNode item.toDatum

def readTemplate : Json → Except ShapeError Template
  | .list items => readTopNodes items
  | data => data.toDatum.unexpected .nodes

/-- Refuses a template that is open if what has been read of it is none. -/
def checkOpenTemplate : List Json.Frame → Except ShapeError Unit
  | [] => .ok ()
  | .object _ _ :: _ => .error (.invalidType .map .nodes)
  | .list items :: inner => do
      discard (readTopNodes items.reverse)
      checkOpenNode inner

def Json.loadTemplate (text : String) : Except LoadError Template :=
  match Json.read text with
  | .whole data => (readTemplate data).mapError .shape
  | .trailed data => do
      discard ((readTemplate data).mapError .shape)
      .error (.json .malformed)
  | .broken frames fault => do
      (checkOpenTemplate frames).mapError .shape
      .error (.json fault)

/-- The value that a text holds, where numbers and `null` do not count as
values. -/
def Json.loadValue (text : String) : Except LoadError Value :=
  match Json.read text with
  | .whole data => (readValue data.toDatum).mapError .shape
  | .trailed data => do
      discard ((readValue data.toDatum).mapError .shape)
      .error (.json .malformed)
  | .broken _ fault => .error (.json fault)

end TemplateTree
