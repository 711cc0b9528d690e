import TemplateTree.Node

/-!
# What can go wrong

`RenderError` lists the ways in which a render call can fail, `ValueError` the
ways in which data can be unfit for a context. Each error carries its cause;
the wording is in `message` and nowhere else.
-/

namespace TemplateTree

inductive RenderError where
  /-- A variable that nothing binds was to be output or looped over. -/
  | undefinedVariable (name : String)
  | unknownTag (name : String)
  | invalidTagArity (name : String) (got : Nat)
  /-- A template to build on, or to render by name, is not in the store. -/
  | templateNotFound (key : String)
  /-- A template builds on itself, or a block's content contains that content. -/
  | compositionCycle (key : String)
  /-- An inheritance node was met while rendering. -/
  | unresolvedNode (kind : Kind)
  | undecidableCondition (kind : Kind)
  /-- The source of a loop is a node of this kind; if it has a value, the
  value is no list and displays as `found`. -/
  | notAList (source : Kind) (found : Option String)
  deriving DecidableEq, Repr

def RenderError.message : RenderError → String
  | .undefinedVariable name => s!"undefined variable `{name}`"
  | .unknownTag name => s!"unknown tag `{name}`"
  | .invalidTagArity name got => s!"invalid number of parameters for tag `{name}`: got {got}"
  | .templateNotFound key => s!"template `{key}` not found"
  | .compositionCycle key => s!"composition cycle through `{key}`"
  | .unresolvedNode kind => s!"unresolved {kind.name} node"
  | .undecidableCondition kind => s!"{kind.name} node cannot be used as a condition"
  | .notAList source none => s!"loop source is not a sequence: {source.name}"
  | .notAList source (some found) =>
      s!"loop source is not a sequence: {source.name} `{found}`"

inductive ValueError where
  | emptyName
  /-- The data as a whole is no set of named values. -/
  | notAnObject
  /-- Data of this form has no counterpart among values. -/
  | unsupported (form : String)
  deriving DecidableEq, Repr

def ValueError.message : ValueError → String
  | .emptyName => "variable name cannot be empty"
  | .notAnObject => "context data must be an object"
  | .unsupported form => s!"unsupported {form} value"

end TemplateTree
