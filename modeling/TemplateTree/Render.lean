import TemplateTree.Inheritance
import TemplateTree.Tag

/-!
# Rendering

`render` evaluates a tree without blocks in a scope. Nodes are rendered in
order and the first failure ends the call. A name that is output or looped
over has to be bound; a condition may read a name that is not.

`Registry.render` is a whole call: the template is composed with the templates
it is built on, then evaluated in the scope of the context. There is a text at
the end only if nothing failed, but the records are there in any case.
-/

namespace TemplateTree

/-- The elements that a loop goes through. -/
def Scope.items (scope : Scope) (source : Node) : Except RenderError (List Value) :=
  match source with
  | .var name =>
      match scope.get? name with
      | none => .error (.undefinedVariable name)
      | some value => elements value
  | .constant value => elements value
  | _ => .error (.notAList source.kind none)
where
  elements : Value → Except RenderError (List Value)
    | .list items => .ok items
    | value => .error (.notAList source.kind (some value.display))

/-- A condition decided in a scope. -/
def Scope.decide (scope : Scope) (condition : Node) : Except RenderError Bool :=
  match scope.truth? condition with
  | some b => .ok b
  | none => .error (.undecidableCondition condition.kind)

mutual

/-- Renders a node in a scope. -/
def Node.render (tags : Registry) (scope : Scope) : Node → Render Unit
  | .raw text => .write text
  | .constant value => .write value.display
  | .var name =>
      match scope.get? name with
      | some value => .write value.display
      | none => throw (.undefinedVariable name)
  | .tag name params =>
      match tags.get? name with
      | none => throw (.unknownTag name)
      | some handler => do
          .record (.tag name params.length)
          handler ⟨name, parameters tags scope params, scope⟩
  | .conditional chain => chain.render tags scope
  | .loop item source body => do
      let items ← scope.items source
      .record (.loop item items.length)
      items.forM fun value => render tags (scope.bind item value) body
  | .extend _ _ => throw (.unresolvedNode .extend)
  | .block _ _ => throw (.unresolvedNode .block)
  | .slot _ => throw (.unresolvedNode .slot)

/-- Renders the body of the first arm whose condition holds. -/
def Chain.render (tags : Registry) (scope : Scope) : Chain → Render Unit
  | .last condition body => do
      if ← scope.decide condition then TemplateTree.render tags scope body
  | .more condition body next => do
      if ← scope.decide condition then TemplateTree.render tags scope body
      else next.render tags scope

/-- Renders nodes one after the other. -/
def render (tags : Registry) (scope : Scope) : List Node → Render Unit
  | [] => return
  | node :: nodes => do
      node.render tags scope
      render tags scope nodes

/-- Nodes as the parameters of a tag, none of them rendered yet. -/
def parameters (tags : Registry) (scope : Scope) : List Node → List Param
  | [] => []
  | node :: nodes => ⟨node, node.render tags scope⟩ :: parameters tags scope nodes

end

/-- The text and the records of an action on an empty output. -/
def Render.traced (action : Render Unit) : Traced String :=
  let (result, out) := action.run.run .empty
  ⟨out.records.toList, result.map fun _ => out.text⟩

/-- Evaluates a template from the store; `chain` holds the keys of the
templates that are being resolved already. -/
def Registry.renderFrom (tags : Registry) (store : Store) (chain : List String)
    (context : Context) (template : Template) : Traced String := do
  .record (.entered template.length)
  let nodes ← compose store chain template
  (render tags (.ofContext context) nodes).traced

def Registry.render (tags : Registry) (store : Store) (context : Context)
    (template : Template) : Traced String :=
  tags.renderFrom store [] context template

def Registry.renderNamed (tags : Registry) (store : Store) (context : Context)
    (key : String) : Traced String :=
  match store[key]? with
  | none => .fail (.templateNotFound key)
  | some template => tags.renderFrom store [key] context template

end TemplateTree
