import TemplateTree.Assembly
import TemplateTree.Trace

/-!
# Building one template on another

A template with an `extend` node at its top level is built on the template
stored under the key of the first such node. What it supplies is the content
of that node, and the bodies of the blocks beside it for keys the node does not
name; everything else at its top level has no effect, which is recorded.

`inherit` follows the chain of templates to its end and puts the content
together on the way back, so a missing template or a chain that returns to a
template of its own is found before any content is looked at. The chain ends:
each step visits one more key of the store (`unvisited` goes down).

`compose` is the whole of it: after it a tree holds no block and no slot at a
place that can be rendered.
-/

namespace TemplateTree

abbrev Store := Std.ExtTreeMap String Template

/-- The key and the content of a template's first top-level `extend` node. -/
def extension? : Template → Option (String × List (String × List Node))
  | [] => none
  | .extend key exports :: _ => some (key, exports)
  | _ :: nodes => extension? nodes

/-- The keys of all top-level `extend` nodes. -/
def extendKeys : Template → List String
  | [] => []
  | .extend key _ :: nodes => key :: extendKeys nodes
  | _ :: nodes => extendKeys nodes

/-- What a template supplies whose `extend` node holds `exports`: that, and the
first top-level block of each other key. -/
def supplied (nodes : Template) (exports : List (String × List Node)) : Contents :=
  nodes.foldl
    (fun contents node =>
      match node with
      | .block key body => contents.insertIfNew key body
      | _ => contents)
    (Std.ExtTreeMap.ofList exports)

/-- What is recorded about the parts of a template, built on `base`, that have
no effect. -/
def passedOver (base : String) (nodes : Template) : List Record :=
  (extendKeys nodes).tail.map (.ignoredExtend base)
    ++ nodes.filterMap fun node =>
      match node.kind with
      | .extend | .block => none
      | kind => some (.discarded kind)

/-- How many keys of the store a chain has not visited. -/
def Store.unvisited (store : Store) (chain : List String) : Nat :=
  store.keys.countP (· ∉ chain)

/-- The template put onto the template it is built on, and so on down the
chain; a template that is built on none stays as it is. `chain` holds the keys
of the templates that are being resolved. -/
def inherit (store : Store) (chain : List String) (nodes : Template) : Traced Template :=
  match extension? nodes with
  | none => pure nodes
  | some (key, exports) => do
      .recordAll (passedOver key nodes)
      if _hchain : key ∈ chain then
        .fail (.compositionCycle key)
      else
        match _hstore : store[key]? with
        | none => .fail (.templateNotFound key)
        | some base =>
            .record (.resolving key chain.length)
            let base ← inherit store (key :: chain) base
            .ofExcept ((Assembly.onto (supplied nodes exports) base).resolve [] base)
termination_by store.unvisited chain
decreasing_by
  exact countP_not_mem_cons_lt
    (Std.ExtTreeMap.mem_keys.2 (Std.ExtTreeMap.mem_iff_isSome_getElem?.2 (by simp [_hstore])))
    _hchain

/-- The tree to be rendered: built on all the templates of its chain, with the
content of every block in its place. -/
def compose (store : Store) (chain : List String) (nodes : Template) : Traced Template := do
  let nodes ← inherit store chain nodes
  .ofExcept (flatten nodes)

end TemplateTree
