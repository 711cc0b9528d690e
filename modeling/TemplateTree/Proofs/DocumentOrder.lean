import TemplateTree.Proofs.Places
import TemplateTree.Proofs.ExtendChain

/-!
# The blocks of a tree in document order

`addBlocks` threads a map through the tree and keeps what it found first. Here is
the order in which it finds: `blocks` lists every block with its body, a block
before the blocks inside it and otherwise from left to right, an arm of a
conditional before the arms after it. The map that is threaded is the list put in
one after the other, so `firstBlocks` answers for a key what the first entry of the
list answers, and the entries are the blocks that stand at a place of the tree.
-/

namespace TemplateTree

mutual

/-- The blocks in a node, each with its body, in document order. -/
def Node.blocks : Node → List (String × List Node)
  | .block key body => (key, body) :: blocks body
  | .tag _ params => blocks params
  | .loop _ _ body => blocks body
  | .conditional chain => chain.blocks
  | .raw _ | .var _ | .constant _ | .extend _ _ | .slot _ => []

def Chain.blocks : Chain → List (String × List Node)
  | .last _ body => TemplateTree.blocks body
  | .more _ body next => TemplateTree.blocks body ++ next.blocks

def blocks : List Node → List (String × List Node)
  | [] => []
  | node :: nodes => node.blocks ++ blocks nodes

end

theorem blocks_append (xs ys : List Node) : blocks (xs ++ ys) = blocks xs ++ blocks ys := by
  induction xs with
  | nil => rw [blocks, List.nil_append, List.nil_append]
  | cons node xs ih => rw [List.cons_append, blocks, blocks, ih, List.append_assoc]

@[simp] theorem blocks_singleton (node : Node) : blocks [node] = node.blocks := by
  rw [blocks, blocks, List.append_nil]

/-- Puts contents in one after the other; a key that is there keeps its content. -/
def Contents.addAll (found : Contents) (more : List (String × List Node)) : Contents :=
  more.foldl (fun found block => found.insertIfNew block.1 block.2) found

theorem Contents.addAll_append (found : Contents) (xs ys : List (String × List Node)) :
    found.addAll (xs ++ ys) = (found.addAll xs).addAll ys :=
  List.foldl_append

mutual

theorem Node.addBlocks_eq (node : Node) (found : Contents) :
    node.addBlocks found = found.addAll node.blocks := by
  match node with
  | .block key body =>
      rw [Node.addBlocks, Node.blocks, addBlocks_eq body]
      rfl
  | .tag _ params => rw [Node.addBlocks, Node.blocks, addBlocks_eq params]
  | .loop _ _ body => rw [Node.addBlocks, Node.blocks, addBlocks_eq body]
  | .conditional chain => rw [Node.addBlocks, Node.blocks, chain.addBlocks_eq]
  | .raw _ | .var _ | .constant _ | .extend _ _ | .slot _ =>
      rw [Node.addBlocks, Node.blocks]
      rfl

theorem Chain.addBlocks_eq (chain : Chain) (found : Contents) :
    chain.addBlocks found = found.addAll chain.blocks := by
  match chain with
  | .last _ body => rw [Chain.addBlocks, Chain.blocks, TemplateTree.addBlocks_eq body]
  | .more _ body next =>
      rw [Chain.addBlocks, Chain.blocks, TemplateTree.addBlocks_eq body, next.addBlocks_eq,
        Contents.addAll_append]

theorem addBlocks_eq (nodes : List Node) (found : Contents) :
    addBlocks nodes found = found.addAll (blocks nodes) := by
  match nodes with
  | [] =>
      rw [addBlocks, blocks]
      rfl
  | node :: nodes =>
      rw [addBlocks, blocks, node.addBlocks_eq, addBlocks_eq nodes, Contents.addAll_append]

end

theorem getElem?_addAll (more : List (String × List Node)) (found : Contents) (key : String) :
    (found.addAll more)[key]? = found[key]?.or (more.lookup key) := by
  induction more generalizing found with
  | nil => rw [Contents.addAll, List.foldl_nil, List.lookup_nil, Option.or_none]
  | cons block more ih =>
      obtain ⟨k, body⟩ := block
      have hstep : found.addAll ((k, body) :: more)
          = Contents.addAll (found.insertIfNew k body) more := rfl
      rw [hstep, ih, Std.ExtTreeMap.getElem?_insertIfNew, List.lookup_cons]
      by_cases hk : key = k
      · subst hk
        cases hfound : found[key]? with
        | none =>
            have hnot : key ∉ found := not_mem_of_getElem?_eq_none hfound
            simp [hnot]
        | some content =>
            have hmem : key ∈ found := mem_of_getElem?_eq_some hfound
            simp [hmem]
      · have hne : k ≠ key := fun heq => hk heq.symm
        have hb : (key == k) = false := by simpa using hk
        simp [hne, hb]

/-- For each key the first block in document order counts. -/
theorem getElem?_firstBlocks (nodes : List Node) (key : String) :
    (firstBlocks nodes)[key]? = (blocks nodes).lookup key := by
  rw [firstBlocks, addBlocks_eq, getElem?_addAll, Std.ExtTreeMap.getElem?_empty, Option.none_or]

/-! ## Where the blocks stand -/

mutual

theorem Node.mem_blocks_iff (node : Node) {key : String} {body : List Node} :
    (key, body) ∈ node.blocks ↔ Within (.block key body) [node] := by
  rw [Within.singleton_iff]
  match node with
  | .block k b => simp [Node.blocks, Node.parts, mem_blocks_iff b]
  | .tag _ params => simp [Node.blocks, Node.parts, mem_blocks_iff params]
  | .loop _ _ b => simp [Node.blocks, Node.parts, mem_blocks_iff b]
  | .conditional chain =>
      rw [Node.blocks, chain.mem_blocks_iff]
      simp [Node.parts]
  | .raw _ | .var _ | .constant _ | .extend _ _ | .slot _ => simp [Node.blocks, Node.parts]

theorem Chain.mem_blocks_iff (chain : Chain) {key : String} {body : List Node} :
    (key, body) ∈ chain.blocks
      ↔ ∃ part ∈ chain.arms.map (·.2), Within (.block key body) part := by
  match chain with
  | .last _ b =>
      rw [Chain.blocks, TemplateTree.mem_blocks_iff b]
      simp [Chain.arms]
  | .more _ b next =>
      rw [Chain.blocks, List.mem_append, TemplateTree.mem_blocks_iff b, next.mem_blocks_iff]
      simp [Chain.arms]

/-- The list holds the blocks that stand at a place of the tree, and no other. -/
theorem mem_blocks_iff (nodes : List Node) {key : String} {body : List Node} :
    (key, body) ∈ blocks nodes ↔ Within (.block key body) nodes := by
  match nodes with
  | [] =>
      rw [blocks]
      exact iff_of_false List.not_mem_nil Within.not_nil
  | node :: nodes =>
      rw [blocks, List.mem_append, node.mem_blocks_iff, mem_blocks_iff nodes, ← Within.cons_iff]

end

theorem blocks_of_hasBlocks {nodes : List Node} (h : hasBlocks nodes = false) :
    blocks nodes = [] := by
  refine List.eq_nil_iff_forall_not_mem.mpr fun block hblock => ?_
  have hwithin : Within (.block block.1 block.2) nodes := (mem_blocks_iff nodes).mp hblock
  exact ((hasBlocks_eq_false_iff nodes).mp h _ hwithin).1 rfl

theorem within_of_firstBlocks {nodes content : List Node} {key : String}
    (h : (firstBlocks nodes)[key]? = some content) : Within (.block key content) nodes := by
  rw [getElem?_firstBlocks] at h
  obtain ⟨before, after, hblocks, -⟩ := List.lookup_eq_some_iff.mp h
  refine (mem_blocks_iff nodes).mp ?_
  rw [hblocks]
  exact List.mem_append_right before List.mem_cons_self

end TemplateTree
