import TemplateTree.Context
import TemplateTree.Text.Quoted
import TemplateTree.Trace

/-!
# Tags

A tag is run by a handler, which sees the call (`TagCall`: the name, the
parameters, the scope) and works on the output. A parameter comes with the
action that renders it in the scope of the call, so that a handler decides
which parameters are rendered, in which order and how often, and nothing else.

`Render` is the type of such actions. The text written and the records stay
when an action fails: a handler may catch the failure and go on from there.
`capture` gives an action a text of its own.

A `Registry` holds the handlers by name. `Registry.builtin` knows one tag,
`get`, which renders its only parameter.
-/

namespace TemplateTree

/-- The text written so far, and what was recorded meanwhile. -/
structure Output where
  text : String
  records : Array Record

def Output.empty : Output := ⟨"", #[]⟩

/-- An action on the output, which may fail. -/
abbrev Render := ExceptT RenderError (StateM Output)

namespace Render

def write (s : String) : Render Unit :=
  modify fun out => ⟨out.text ++ s, out.records⟩

def record (r : Record) : Render Unit :=
  modify fun out => ⟨out.text, out.records.push r⟩

/-- Lets an action write to an empty text of its own. The action's text is the
result; if the action fails, so does this, and that text is lost. -/
def capture (action : Render Unit) : Render String := fun out =>
  let (result, inner) := action.run.run ⟨"", out.records⟩
  (result.map fun _ => inner.text, ⟨out.text, inner.records⟩)

end Render

/-- A parameter of a tag, with the action that renders it in place. -/
structure Param where
  node : Node
  render : Render Unit

/-- What a handler sees of the tag it runs. -/
structure TagCall where
  name : String
  params : List Param
  scope : Scope

namespace TagCall

/-- Fails unless there are exactly `count` parameters. -/
def expectParams (call : TagCall) (count : Nat) : Render (List Param) :=
  if call.params.length = count then return call.params
  else throw (.invalidTagArity call.name call.params.length)

/-- A node read as a condition in the scope of the call. -/
def truth (call : TagCall) (node : Node) : Render Bool :=
  match call.scope.truth? node with
  | some b => return b
  | none => throw (.undecidableCondition node.kind)

end TagCall

/-- What a tag does. -/
abbrev Handler := TagCall → Render Unit

/-- Renders the only parameter of the call in place. -/
def getHandler : Handler := fun call => do
  (← call.expectParams 1).forM Param.render

/-- Handlers by tag name. -/
structure Registry where
  handlers : Std.ExtTreeMap String Handler

namespace Registry

def empty : Registry := ⟨∅⟩

/-- The handler now registered under `name` replaces an earlier one. -/
def insert (registry : Registry) (name : String) (handler : Handler) : Registry :=
  ⟨registry.handlers.insert name handler⟩

def erase (registry : Registry) (name : String) : Registry :=
  ⟨registry.handlers.erase name⟩

def get? (registry : Registry) (name : String) : Option Handler :=
  registry.handlers[name]?

def contains (registry : Registry) (name : String) : Bool :=
  registry.handlers.contains name

def names (registry : Registry) : List String :=
  registry.handlers.keys

/-- The names between braces, each in quotation marks. -/
def describe (registry : Registry) : String :=
  "\x7b" ++ ", ".intercalate (registry.names.map Text.quoted) ++ "\x7d"

/-- The registry that knows the tag `get` only. -/
def builtin : Registry :=
  empty.insert "get" getHandler

theorem get?_insert (registry : Registry) (name : String) (handler : Handler) (other : String) :
    (registry.insert name handler).get? other
      = if name = other then some handler else registry.get? other := by
  simp [get?, insert, Std.ExtTreeMap.getElem?_insert]

theorem get?_erase (registry : Registry) (name other : String) :
    (registry.erase name).get? other = if name = other then none else registry.get? other := by
  simp [get?, erase, Std.ExtTreeMap.getElem?_erase]

end Registry

end TemplateTree
