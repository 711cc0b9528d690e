import Std.Data.ExtTreeMap
import TemplateTree.Error

/-!
# Contexts and scopes

A `Context` is what the caller binds for one render: a finite map from names
to values, in which the empty name is never bound by `insert`. Two contexts
are equal when they bind the same names to equal values.

A `Scope` is a context seen from inside loops. Each loop around the current
place adds a frame, and a name is looked up in the frames from the innermost
outwards, then in the context. A condition is read in a scope by `truth?`: a
variable that nothing binds is false there, although it could not be output.
-/

namespace TemplateTree

/-- The bindings of one render. -/
structure Context where
  bindings : Std.ExtTreeMap String Value
  deriving DecidableEq

namespace Context

def empty : Context := ⟨∅⟩

instance : EmptyCollection Context := ⟨empty⟩
instance : Inhabited Context := ⟨∅⟩

def get? (context : Context) (name : String) : Option Value :=
  context.bindings[name]?

def contains (context : Context) (name : String) : Bool :=
  context.bindings.contains name

def size (context : Context) : Nat :=
  context.bindings.size

def isEmpty (context : Context) : Bool :=
  context.bindings.isEmpty

def toList (context : Context) : List (String × Value) :=
  context.bindings.toList

/-- The context with `name` bound to `value`; an earlier binding of the name is
replaced. The empty name is refused. -/
def insert (context : Context) (name : String) (value : Value) : Except ValueError Context :=
  if name.isEmpty then .error .emptyName
  else .ok ⟨context.bindings.insert name value⟩

/-- The bindings of a list made one after the other, up to the first that is
refused. -/
def ofList (bindings : List (String × Value)) : Except ValueError Context :=
  bindings.foldlM (fun context (name, value) => context.insert name value) ∅

@[ext]
theorem ext {c d : Context} (h : ∀ name, c.get? name = d.get? name) : c = d := by
  cases c; cases d
  exact congrArg Context.mk (Std.ExtTreeMap.ext_getElem? h)

@[simp]
theorem get?_empty (name : String) : (∅ : Context).get? name = none :=
  Std.ExtTreeMap.getElem?_empty

theorem get?_insert {c d : Context} {name : String} {value : Value}
    (h : c.insert name value = .ok d) (other : String) :
    d.get? other = if name = other then some value else c.get? other := by
  unfold insert at h
  split at h
  · cases h
  · cases h
    simp [get?, Std.ExtTreeMap.getElem?_insert]

theorem insert_eq_error_iff {c : Context} {name : String} {value : Value} {e : ValueError} :
    c.insert name value = .error e ↔ name = "" ∧ e = .emptyName := by
  unfold insert
  split
  · rename_i h
    simp [String.isEmpty_iff.1 h, eq_comm]
  · rename_i h
    simp [mt String.isEmpty_iff.2 h]

end Context

/-- A context with the bindings of the loops around the current place. -/
structure Scope where
  context : Context
  /-- The loop bindings, innermost first. -/
  frames : List (String × Value)

namespace Scope

/-- The scope outside all loops. -/
def ofContext (context : Context) : Scope := ⟨context, []⟩

/-- The scope of one round of a loop. -/
def bind (scope : Scope) (name : String) (value : Value) : Scope :=
  ⟨scope.context, (name, value) :: scope.frames⟩

/-- The innermost binding of a name. -/
def get? (scope : Scope) (name : String) : Option Value :=
  scope.frames.lookup name <|> scope.context.get? name

/-- A node read as a condition; only variables and constants have such a
reading. A variable that nothing binds is false. -/
def truth? (scope : Scope) : Node → Option Bool
  | .var name => some ((scope.get? name).any Value.isTruthy)
  | .constant value => some value.isTruthy
  | _ => none

@[simp]
theorem get?_ofContext (context : Context) (name : String) :
    (ofContext context).get? name = context.get? name := by
  simp [get?, ofContext]

theorem get?_bind (scope : Scope) (name : String) (value : Value) (other : String) :
    (scope.bind name value).get? other
      = if other = name then some value else scope.get? other := by
  by_cases h : other = name
  · simp [get?, bind, h]
  · have hne : (other == name) = false := by simp [h]
    simp [get?, bind, List.lookup_cons, h, hne]

end Scope

end TemplateTree
