import TemplateTree.Number

/-!
# YAML data

The members of a mapping are kept in order, and keys may be any data. Data can
have a tag of its own, which is kept without the exclamation mark in front.

`same` is equality as mappings see it when they look for a key: whole numbers
and floating-point numbers are never equal, all values that are no numbers are,
and the members of mappings may stand in any order.
-/

namespace TemplateTree

inductive Yaml where
  | null
  | bool (b : Bool)
  | number (n : Number)
  | string (s : String)
  | sequence (items : List Yaml)
  | mapping (members : List (Yaml × Yaml))
  | tagged (tag : String) (value : Yaml)

instance : Inhabited Yaml := ⟨.null⟩

/-- Equality of numbers in data. -/
def Number.same : Number → Number → Bool
  | .integer m, .integer n => m == n
  | .float x, .float y => x == y || (x.isNaN && y.isNaN)
  | _, _ => false

namespace Yaml

mutual

def same : Yaml → Yaml → Bool
  | .null, .null => true
  | .bool b, .bool c => b == c
  | .number m, .number n => m.same n
  | .string s, .string t => s == t
  | .sequence items, .sequence others => sameItems items others
  | .mapping members, .mapping others =>
      members.length == others.length && sameMembers members others
  | .tagged s v, .tagged t w => s == t && v.same w
  | _, _ => false

def sameItems : List Yaml → List Yaml → Bool
  | [], [] => true
  | v :: vs, w :: ws => v.same w && sameItems vs ws
  | _, _ => false

/-- Whether each of the members is found among others. -/
def sameMembers : List (Yaml × Yaml) → List (Yaml × Yaml) → Bool
  | [], _ => true
  | (key, value) :: members, others =>
      others.any (fun other => key.same other.1 && value.same other.2)
        && sameMembers members others

end

/-- The members with one more; where there is a member with that key, its value
is replaced. -/
def insertMember (key value : Yaml) : List (Yaml × Yaml) → List (Yaml × Yaml)
  | [] => [(key, value)]
  | (k, v) :: members =>
      if k.same key then (k, value) :: members else (k, v) :: insertMember key value members

/-- The mapping of the given members, put in one after the other. -/
def mappingOf (members : List (Yaml × Yaml)) : Yaml :=
  .mapping (members.foldl (fun ms m => insertMember m.1 m.2 ms) [])

/-- The number text format: the point in its place for leading exponents from
-5 to 15, and no sign on positive exponents. -/
def numberLayout : Decimal.Layout where
  plainFrom := -5
  plainTo := 15
  exponentPlus := false
  nan := ".nan"
  inf := ".inf"

end Yaml

end TemplateTree
