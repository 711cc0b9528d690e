import TemplateTree.Block
import TemplateTree.Error

/-!
# Putting content into blocks and slots

An `Assembly` says which content goes where. A block whose key has a
replacement takes the replacement, any other block keeps its own body; a slot
takes the replacement of its key, else the default of its key, else nothing.
Content that is put in is itself assembled, so it may hold further blocks and
slots.

Content that holds itself would never end. `resolve` therefore carries the
keys whose content it is inside, and refuses to enter the content of such a
key once more. Since each entry makes one more key active, and only finitely
many keys have content, this always ends: `pending`, the number of keys with
content that are not active, goes down.
-/

namespace TemplateTree

/-- What becomes of the block around content that has been put in place. -/
inductive Marking where
  /-- The content stays in a block, so that it can be replaced once more. -/
  | keep
  /-- The content stands on its own. -/
  | splice
  deriving DecidableEq, Repr

/-- The nodes that stand for content of block `key`. -/
def Marking.wrap (marking : Marking) (key : String) (content : List Node) : List Node :=
  match marking with
  | .keep => [.block key content]
  | .splice => content

/-- Which content goes where. -/
structure Assembly where
  /-- Content that goes into blocks and slots in place of anything else. -/
  replacements : Contents
  /-- Content that goes into slots without a replacement. -/
  defaults : Contents
  marking : Marking

/-- The nodes that take the place of a block or slot; no other node is put into
place. `enter key` is the assembled content for `key`, and `own` assembles the
body of a block, where that stays. -/
def Assembly.place (a : Assembly) (enter : String → Except RenderError (List Node))
    (own : Unit → Except RenderError (List Node)) : Node → Except RenderError (List Node)
  | .block key _ =>
      return a.marking.wrap key (← if key ∈ a.replacements then enter key else own ())
  | .slot key => return a.marking.wrap key (← enter key)
  | node => .error (.unresolvedNode node.kind)

mutual

/-- The nodes that take the place of a node. `enter key` is the assembled
content for `key`. The arms of a conditional are assembled from the last to
the first. -/
def Node.expand (a : Assembly) (enter : String → Except RenderError (List Node)) :
    Node → Except RenderError (List Node)
  | .block key body => a.place enter (fun _ => expand a enter body) (.block key body)
  | .slot key => a.place enter (fun _ => return []) (.slot key)
  | .tag name params => return [.tag name (← expand a enter params)]
  | .loop item source body => return [.loop item source (← expand a enter body)]
  | .conditional chain => return [.conditional (← chain.expand a enter)]
  | .raw text => return [.raw text]
  | .var name => return [.var name]
  | .constant value => return [.constant value]
  | .extend key exports => return [.extend key exports]

def Chain.expand (a : Assembly) (enter : String → Except RenderError (List Node)) :
    Chain → Except RenderError Chain
  | .last condition body => return .last condition (← TemplateTree.expand a enter body)
  | .more condition body next => do
      let next ← next.expand a enter
      return .more condition (← TemplateTree.expand a enter body) next

def expand (a : Assembly) (enter : String → Except RenderError (List Node)) :
    List Node → Except RenderError (List Node)
  | [] => return []
  | node :: nodes => do
      let first ← node.expand a enter
      return first ++ (← expand a enter nodes)

end

namespace Assembly

/-- The content that goes into a slot of this key. -/
def content? (a : Assembly) (key : String) : Option (List Node) :=
  a.replacements[key]? <|> a.defaults[key]?

/-- The keys that have content; one may be listed twice. -/
def keys (a : Assembly) : List String :=
  a.replacements.keys ++ a.defaults.keys

theorem mem_keys_of_content? {a : Assembly} {key : String} {content : List Node}
    (h : a.content? key = some content) : key ∈ a.keys := by
  rw [keys, List.mem_append, Std.ExtTreeMap.mem_keys, Std.ExtTreeMap.mem_keys]
  rw [content?, Option.orElse_eq_orElse, Option.orElse_eq_or] at h
  rcases Option.or_eq_some_iff.1 h with h | ⟨-, h⟩
  · exact .inl (Std.ExtTreeMap.mem_iff_isSome_getElem?.2 (by simp [h]))
  · exact .inr (Std.ExtTreeMap.mem_iff_isSome_getElem?.2 (by simp [h]))

/-- How many keys with content are not active. -/
def pending (a : Assembly) (active : List String) : Nat :=
  a.keys.countP (· ∉ active)

end Assembly

/-- Listing one of the keys leaves fewer of them unlisted. -/
theorem countP_not_mem_cons_lt {key : String} {keys listed : List String}
    (hkey : key ∈ keys) (hnew : key ∉ listed) :
    keys.countP (· ∉ key :: listed) < keys.countP (· ∉ listed) := by
  induction keys with
  | nil => cases hkey
  | cons k keys ih =>
      have hle : keys.countP (· ∉ key :: listed) ≤ keys.countP (· ∉ listed) :=
        List.countP_mono_left fun x _ hx => by simp_all
      by_cases hk : k = key
      · subst hk
        rw [List.countP_cons_of_neg (by simp), List.countP_cons_of_pos (by simpa using hnew)]
        omega
      · have := ih ((List.mem_cons.1 hkey).resolve_left (Ne.symm hk))
        rw [List.countP_cons, List.countP_cons,
          show decide (k ∉ key :: listed) = decide (k ∉ listed) by simp [hk]]
        omega

namespace Assembly

/-- The nodes with all blocks and slots assembled, inside the content of the
`active` keys. -/
def resolve (a : Assembly) (active : List String) (nodes : List Node) :
    Except RenderError (List Node) :=
  expand a (fun key =>
    match _hcontent : a.content? key with
    | none => .ok []
    | some content =>
        if _hactive : key ∈ active then .error (.compositionCycle key)
        else a.resolve (key :: active) content) nodes
termination_by a.pending active
decreasing_by exact countP_not_mem_cons_lt (mem_keys_of_content? _hcontent) _hactive

/-- Content supplied by one template goes into the blocks and slots of the
template it builds on. All content stays in blocks, for the next template that
builds on the result. -/
def onto (supplied : Contents) (base : List Node) : Assembly :=
  ⟨supplied, firstBlocks base, .keep⟩

/-- The blocks of a finished tree give way to their bodies, and each slot to
the first block of its key. -/
def within (nodes : List Node) : Assembly :=
  ⟨∅, firstBlocks nodes, .splice⟩

end Assembly

/-- The tree without its blocks and slots. -/
def flatten (nodes : List Node) : Except RenderError (List Node) :=
  if hasBlocks nodes then (Assembly.within nodes).resolve [] nodes else .ok nodes

end TemplateTree
