import TemplateTree.Yaml.TagName

/-!
# The tree of a YAML document

The scalars of a tree are text still, together with their tag and with whether
they are written plainly; what they mean is decided later.

A node can have an anchor, and an alias stands for the node with that anchor.
`Tree.expand` puts the nodes in place of the aliases, within limits on the
number of aliases and on the depth, so that a node which holds an alias for
itself is an error and not an endless tree.
-/

namespace TemplateTree.Yaml

inductive Tree where
  | alias (number : Nat)
  | scalar (tag : Option TagName) (plain : Bool) (text : String)
  | sequence (tag : Option TagName) (items : List Tree)
  | mapping (tag : Option TagName) (members : List (Tree × Tree))

instance : Inhabited Tree := ⟨.scalar none true ""⟩

/-- A scalar that is not there. -/
def Tree.empty : Tree := .scalar none true ""

/-- A node that has an anchor. -/
structure Anchored where
  number : Nat
  /-- How many nodes with an anchor begin before it. -/
  order : Nat
  node : Tree

mutual

/-- How many marks a tree consists of: one for a scalar or alias, two for a
sequence or mapping. -/
def Tree.marks : Tree → Nat
  | .alias _ | .scalar _ _ _ => 1
  | .sequence _ items => marksOfItems items + 2
  | .mapping _ members => marksOfMembers members + 2

def marksOfItems : List Tree → Nat
  | [] => 0
  | item :: items => item.marks + marksOfItems items

def marksOfMembers : List (Tree × Tree) → Nat
  | [] => 0
  | (key, value) :: members => key.marks + value.marks + marksOfMembers members

end

/-- The node that an alias stands for: of those with its number the one that
begins last. -/
def lookupAnchor? (anchored : List Anchored) (number : Nat) : Option Tree :=
  let found := anchored.filter (·.number == number)
  (found.find? fun a => found.all fun b => b.order ≤ a.order).map (·.node)

/-- How many aliases may still be followed. -/
abbrev Expand := StateT Nat Option

/-- The greatest number of sequences and mappings inside one another. -/
def maxDepth : Nat := 128

mutual

/-- A tree without aliases; `depth` is how many levels it may have. -/
def Tree.expand (anchored : List Anchored) (depth : Nat) (tree : Tree) : Expand Tree := do
  let tree ←
    match tree with
    | .alias target => do
        match ← get with
        | 0 => failure
        | n + 1 => set n
        (lookupAnchor? anchored target : Option Tree)
    | tree => pure tree
  match tree, depth with
  | .alias _, _ => failure
  | .scalar tag plain text, _ => return .scalar tag plain text
  | .sequence _ _, 0 | .mapping _ _, 0 => failure
  | .sequence tag items, depth + 1 => return .sequence tag (← expandItems anchored depth items)
  | .mapping tag members, depth + 1 =>
      return .mapping tag (← expandMembers anchored depth members)
termination_by (depth, 0)

def expandItems (anchored : List Anchored) (depth : Nat) (items : List Tree) :
    Expand (List Tree) := do
  match items with
  | [] => return []
  | item :: items =>
      let item ← item.expand anchored depth
      return item :: (← expandItems anchored depth items)
termination_by (depth, items.length + 1)

def expandMembers (anchored : List Anchored) (depth : Nat) (members : List (Tree × Tree)) :
    Expand (List (Tree × Tree)) := do
  match members with
  | [] => return []
  | (key, value) :: members =>
      let key ← key.expand anchored depth
      let value ← value.expand anchored depth
      return (key, value) :: (← expandMembers anchored depth members)
termination_by (depth, members.length + 1)

end

end TemplateTree.Yaml
