/-!
# Values

What a variable name can be bound to: a truth value, a piece of text, or a
list of values. Numbers do not occur; whoever brings data in turns them into
text first.

A value has two readings. `display` is what appears in the output, where a
list is the concatenation of its elements. `isTruthy` is what a condition
sees, where text is false only when it is exactly `false` or `0`. The two do
not determine each other: the empty text is true and displays as nothing.
-/

namespace TemplateTree

/-- Data bound to a variable, or written into a template as a constant. -/
inductive Value where
  | bool (b : Bool)
  | text (s : String)
  | list (items : List Value)
  deriving Repr, Inhabited

namespace Value

mutual

/-- Values are compared part by part, lists in order. -/
def decEq : (v w : Value) → Decidable (v = w)
  | .bool b, .bool c =>
      if h : b = c then .isTrue (by rw [h]) else .isFalse (by simp [h])
  | .text s, .text t =>
      if h : s = t then .isTrue (by rw [h]) else .isFalse (by simp [h])
  | .list vs, .list ws =>
      match decEqAll vs ws with
      | .isTrue h => .isTrue (by rw [h])
      | .isFalse h => .isFalse (by simp [h])
  | .bool _, .text _ | .bool _, .list _ | .text _, .bool _
  | .text _, .list _ | .list _, .bool _ | .list _, .text _ => .isFalse (by simp)

/-- The list companion of `decEq`. -/
def decEqAll : (vs ws : List Value) → Decidable (vs = ws)
  | [], [] => .isTrue rfl
  | [], _ :: _ | _ :: _, [] => .isFalse (by simp)
  | v :: vs, w :: ws =>
      match decEq v w, decEqAll vs ws with
      | .isTrue h, .isTrue hs => .isTrue (by rw [h, hs])
      | .isFalse h, _ => .isFalse (by simp [h])
      | _, .isFalse hs => .isFalse (by simp [hs])

end

instance : DecidableEq Value := decEq

/-- The reading of a value as a condition. Text is false only when it is
exactly `false` or `0`, a list only when it is empty. -/
def isTruthy : Value → Bool
  | .bool b => b
  | .text s => s != "false" && s != "0"
  | .list items => !items.isEmpty

mutual

/-- The text a value leaves in the output: a list shows its elements one after
the other, with nothing in between. -/
def display : Value → String
  | .bool true => "true"
  | .bool false => "false"
  | .text s => s
  | .list items => displayAll items

/-- The concatenated texts of several values. -/
def displayAll : List Value → String
  | [] => ""
  | v :: vs => v.display ++ displayAll vs

end

end Value

end TemplateTree
