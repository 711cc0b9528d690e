import TemplateTree.Assembly

/-!
# What an assembly does to a tree, without the failures

An assembly rewrites a tree at its blocks and slots and copies the rest. `graft`
is that walk on its own: it is told what stands for a block, given the block's
rewritten body, and what stands for a slot. Two grafts in a row are one
(`graft_graft`), which is the only induction over trees that the stages of
inheritance need in order to be compared with one another.
-/

namespace TemplateTree

mutual

/-- A node with its blocks and slots replaced. `onBlock` is given the key of a
block and its body, replaced in the same way. -/
def Node.graft (onBlock : String → List Node → List Node) (onSlot : String → List Node) :
    Node → List Node
  | .block key body => onBlock key (graft onBlock onSlot body)
  | .slot key => onSlot key
  | .tag name params => [.tag name (graft onBlock onSlot params)]
  | .loop item source body => [.loop item source (graft onBlock onSlot body)]
  | .conditional chain => [.conditional (chain.graft onBlock onSlot)]
  | .raw text => [.raw text]
  | .var name => [.var name]
  | .constant value => [.constant value]
  | .extend key exports => [.extend key exports]

def Chain.graft (onBlock : String → List Node → List Node) (onSlot : String → List Node) :
    Chain → Chain
  | .last condition body => .last condition (TemplateTree.graft onBlock onSlot body)
  | .more condition body next =>
      .more condition (TemplateTree.graft onBlock onSlot body) (next.graft onBlock onSlot)

def graft (onBlock : String → List Node → List Node) (onSlot : String → List Node) :
    List Node → List Node
  | [] => []
  | node :: nodes => node.graft onBlock onSlot ++ graft onBlock onSlot nodes

end

section Graft

variable {b₁ b₂ b₃ : String → List Node → List Node} {s₁ s₂ s₃ : String → List Node}

@[simp] theorem graft_singleton (node : Node) : graft b₁ s₁ [node] = node.graft b₁ s₁ := by
  rw [graft, graft, List.append_nil]

theorem graft_append (xs ys : List Node) :
    graft b₁ s₁ (xs ++ ys) = graft b₁ s₁ xs ++ graft b₁ s₁ ys := by
  induction xs with
  | nil => rw [graft, List.nil_append, List.nil_append]
  | cons node xs ih => rw [List.cons_append, graft, graft, ih, List.append_assoc]

mutual

theorem Node.graft_graft (hb : ∀ key body, graft b₂ s₂ (b₁ key body) = b₃ key (graft b₂ s₂ body))
    (hs : ∀ key, graft b₂ s₂ (s₁ key) = s₃ key) (node : Node) :
    graft b₂ s₂ (node.graft b₁ s₁) = node.graft b₃ s₃ := by
  match node with
  | .block key body => rw [Node.graft, Node.graft, hb, graft_graft hb hs body]
  | .slot key => rw [Node.graft, Node.graft, hs]
  | .tag name params =>
      rw [Node.graft, Node.graft, graft_singleton, Node.graft, graft_graft hb hs params]
  | .loop item source body =>
      rw [Node.graft, Node.graft, graft_singleton, Node.graft, graft_graft hb hs body]
  | .conditional chain =>
      rw [Node.graft, Node.graft, graft_singleton, Node.graft, chain.graft_graft hb hs]
  | .raw _ | .var _ | .constant _ | .extend _ _ =>
      rw [Node.graft, Node.graft, graft_singleton, Node.graft]

theorem Chain.graft_graft (hb : ∀ key body, graft b₂ s₂ (b₁ key body) = b₃ key (graft b₂ s₂ body))
    (hs : ∀ key, graft b₂ s₂ (s₁ key) = s₃ key) (chain : Chain) :
    (chain.graft b₁ s₁).graft b₂ s₂ = chain.graft b₃ s₃ := by
  match chain with
  | .last condition body =>
      rw [Chain.graft, Chain.graft, Chain.graft, TemplateTree.graft_graft hb hs body]
  | .more condition body next =>
      rw [Chain.graft, Chain.graft, Chain.graft, TemplateTree.graft_graft hb hs body,
        next.graft_graft hb hs]

/-- Two grafts in a row are one, if that is so for a single block and a single
slot. -/
theorem graft_graft (hb : ∀ key body, graft b₂ s₂ (b₁ key body) = b₃ key (graft b₂ s₂ body))
    (hs : ∀ key, graft b₂ s₂ (s₁ key) = s₃ key) (nodes : List Node) :
    graft b₂ s₂ (graft b₁ s₁ nodes) = graft b₃ s₃ nodes := by
  match nodes with
  | [] => rw [graft, graft, graft]
  | node :: nodes =>
      rw [graft, graft_append, graft, node.graft_graft hb hs, graft_graft hb hs nodes]

end

mutual

theorem Node.graft_of_hasBlocks {node : Node} (h : node.hasBlocks = false) :
    node.graft b₁ s₁ = [node] := by
  match node with
  | .block _ _ | .slot _ => cases h
  | .tag name params => rw [Node.hasBlocks] at h; rw [Node.graft, graft_of_hasBlocks h]
  | .loop item source body => rw [Node.hasBlocks] at h; rw [Node.graft, graft_of_hasBlocks h]
  | .conditional chain => rw [Node.hasBlocks] at h; rw [Node.graft, chain.graft_of_hasBlocks h]
  | .raw _ | .var _ | .constant _ | .extend _ _ => rw [Node.graft]

theorem Chain.graft_of_hasBlocks {chain : Chain} (h : chain.hasBlocks = false) :
    chain.graft b₁ s₁ = chain := by
  match chain with
  | .last condition body =>
      rw [Chain.hasBlocks] at h
      rw [Chain.graft, TemplateTree.graft_of_hasBlocks h]
  | .more condition body next =>
      rw [Chain.hasBlocks, Bool.or_eq_false_iff] at h
      rw [Chain.graft, TemplateTree.graft_of_hasBlocks h.1, next.graft_of_hasBlocks h.2]

/-- A graft copies a tree without blocks and slots. -/
theorem graft_of_hasBlocks {nodes : List Node} (h : hasBlocks nodes = false) :
    graft b₁ s₁ nodes = nodes := by
  match nodes with
  | [] => rw [graft]
  | node :: nodes =>
      rw [hasBlocks, Bool.or_eq_false_iff] at h
      rw [graft, node.graft_of_hasBlocks h.1, graft_of_hasBlocks h.2, List.singleton_append]

end

end Graft

end TemplateTree
