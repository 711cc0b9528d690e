import TemplateTree.Proofs.Reference

/-!
# The places of a tree

Four walks read a tree at the same places: `hasBlocks` and `addBlocks` look for
blocks there, `expand` puts content there, and `render` writes what stands there.
`Within` says which places these are without walking: the top level, the
parameters of tags, the bodies of loops and blocks and the arms of conditionals,
at every depth, and so neither conditions, nor sources of loops, nor what an
`extend` node supplies.

What holds of every node at such a place is carried through an assembly by one
induction over the tree (`Assembly.forall_within_fill`) and one over the keys left
to enter (`Assembly.forall_within_resolve`). The first thing that is carried
through is the absence of blocks and slots: an assembly that leaves no blocks
around its contents leaves none at all.
-/

namespace TemplateTree

/-- The lists of nodes inside a node that can be rendered. -/
def Node.parts : Node → List (List Node)
  | .tag _ params => [params]
  | .loop _ _ body => [body]
  | .block _ body => [body]
  | .conditional chain => chain.arms.map (·.2)
  | .raw _ | .var _ | .constant _ | .extend _ _ | .slot _ => []

/-- The node stands at a place of the tree that can be rendered. -/
inductive Within (node : Node) : List Node → Prop where
  | here {nodes : List Node} (hnode : node ∈ nodes) : Within node nodes
  | inside {nodes part : List Node} {outer : Node} (houter : outer ∈ nodes)
      (hpart : part ∈ outer.parts) (hwithin : Within node part) : Within node nodes

/-- The names that a node binds in its parts. -/
def Node.binds : Node → List String
  | .loop item _ _ => [item]
  | _ => []

/-- The node stands at such a place, inside loops that bind these names, the innermost
first. -/
inductive Stands (node : Node) : List String → List Node → Prop where
  | here {nodes : List Node} (hnode : node ∈ nodes) : Stands node [] nodes
  | inside {bound : List String} {nodes part : List Node} {outer : Node} (houter : outer ∈ nodes)
      (hpart : part ∈ outer.parts) (h : Stands node bound part) :
      Stands node (bound ++ outer.binds) nodes

/-- The node stands for itself, being neither block nor slot. -/
def Node.Fixed (node : Node) : Prop :=
  node.kind ≠ .block ∧ node.kind ≠ .slot

instance (node : Node) : Decidable node.Fixed :=
  inferInstanceAs (Decidable (_ ∧ _))

namespace Within

variable {node : Node} {xs ys : List Node}

theorem append_iff : Within node (xs ++ ys) ↔ Within node xs ∨ Within node ys := by
  constructor
  · intro h
    cases h with
    | here hnode => exact (List.mem_append.mp hnode).imp .here .here
    | inside houter hpart hwithin =>
        exact (List.mem_append.mp houter).imp (.inside · hpart hwithin) (.inside · hpart hwithin)
  · rintro (h | h)
    · cases h with
      | here hnode => exact .here (List.mem_append_left ys hnode)
      | inside houter hpart hwithin => exact .inside (List.mem_append_left ys houter) hpart hwithin
    · cases h with
      | here hnode => exact .here (List.mem_append_right xs hnode)
      | inside houter hpart hwithin => exact .inside (List.mem_append_right xs houter) hpart hwithin

theorem cons_iff {first : Node} :
    Within node (first :: ys) ↔ Within node [first] ∨ Within node ys := by
  rw [← List.singleton_append, append_iff]

theorem not_nil : ¬ Within node [] := by
  intro h
  cases h with
  | here hnode => cases hnode
  | inside houter _ _ => cases houter

theorem singleton_iff {outer : Node} :
    Within node [outer] ↔ node = outer ∨ ∃ part ∈ outer.parts, Within node part := by
  constructor
  · intro h
    cases h with
    | here hnode => exact .inl (List.mem_singleton.mp hnode)
    | inside houter hpart hwithin =>
        obtain rfl := List.mem_singleton.mp houter
        exact .inr ⟨_, hpart, hwithin⟩
  · rintro (rfl | ⟨part, hpart, hwithin⟩)
    · exact .here List.mem_cons_self
    · exact .inside List.mem_cons_self hpart hwithin

theorem of_mem {outer : Node} (houter : outer ∈ xs) (h : Within node [outer]) :
    Within node xs := by
  cases h with
  | here hnode =>
      obtain rfl := List.mem_singleton.mp hnode
      exact .here houter
  | inside houter' hpart hwithin =>
      obtain rfl := List.mem_singleton.mp houter'
      exact .inside houter hpart hwithin

/-- A place inside a place is a place. -/
theorem trans {outer : Node} {part : List Node} (h : Within node part)
    (hpart : part ∈ outer.parts) (houter : Within outer xs) : Within node xs := by
  induction houter with
  | here hnode => exact .inside hnode hpart h
  | inside houter hpart' _ ih => exact .inside houter hpart' ih

end Within

theorem forall_within_cons {P : Node → Prop} {first : Node} {nodes : List Node} :
    (∀ n, Within n (first :: nodes) → P n)
      ↔ (∀ n, Within n [first] → P n) ∧ ∀ n, Within n nodes → P n := by
  rw [← forall_and]
  refine forall_congr' fun n => ?_
  rw [← or_imp, ← Within.cons_iff]

theorem forall_within_singleton {P : Node → Prop} {outer : Node} :
    (∀ n, Within n [outer] → P n)
      ↔ P outer ∧ ∀ part ∈ outer.parts, ∀ n, Within n part → P n := by
  constructor
  · intro h
    exact ⟨h outer (.here List.mem_cons_self), fun part hpart n hn =>
      h n (.inside List.mem_cons_self hpart hn)⟩
  · rintro ⟨houter, hparts⟩ n hn
    rcases Within.singleton_iff.mp hn with rfl | ⟨part, hpart, hwithin⟩
    · exact houter
    · exact hparts part hpart n hwithin

theorem Within.exists_stands {node : Node} {nodes : List Node} (h : Within node nodes) :
    ∃ bound, Stands node bound nodes := by
  induction h with
  | here hnode => exact ⟨[], .here hnode⟩
  | inside houter hpart _ ih =>
      obtain ⟨bound, hstands⟩ := ih
      exact ⟨_, .inside houter hpart hstands⟩

theorem Stands.not_nil {node : Node} {bound : List String} : ¬ Stands node bound [] := by
  intro h
  cases h with
  | here hnode => cases hnode
  | inside houter _ _ => cases houter

theorem Stands.of_mem {node outer : Node} {bound : List String} {nodes : List Node}
    (houter : outer ∈ nodes) (h : Stands node bound [outer]) : Stands node bound nodes := by
  cases h with
  | here hnode =>
      obtain rfl := List.mem_singleton.mp hnode
      exact .here houter
  | inside houter' hpart hstands =>
      obtain rfl := List.mem_singleton.mp houter'
      exact .inside houter hpart hstands

theorem forall_stands_cons {P : Node → List String → Prop} {first : Node} {nodes : List Node} :
    (∀ node bound, Stands node bound (first :: nodes) → P node bound)
      ↔ P first []
        ∧ (∀ part ∈ first.parts, ∀ node bound, Stands node bound part →
          P node (bound ++ first.binds))
        ∧ ∀ node bound, Stands node bound nodes → P node bound := by
  constructor
  · intro h
    refine ⟨h first [] (.here List.mem_cons_self), fun part hpart node bound hstands =>
      h node _ (.inside List.mem_cons_self hpart hstands), fun node bound hstands => ?_⟩
    cases hstands with
    | here hnode => exact h node [] (.here (List.mem_cons_of_mem _ hnode))
    | inside houter hpart hstands =>
        exact h node _ (.inside (List.mem_cons_of_mem _ houter) hpart hstands)
  · rintro ⟨hfirst, hparts, hrest⟩ node bound hstands
    cases hstands with
    | here hnode =>
        rcases List.mem_cons.mp hnode with rfl | hnode
        · exact hfirst
        · exact hrest node [] (.here hnode)
    | inside houter hpart hstands =>
        rcases List.mem_cons.mp houter with rfl | houter
        · exact hparts _ hpart node _ hstands
        · exact hrest node _ (.inside houter hpart hstands)

/-! ## Going into the parts -/

theorem Chain.sizeOf_lt_of_mem_arms {part : List Node} {chain : Chain}
    (hpart : part ∈ chain.arms.map (·.2)) : sizeOf part < sizeOf chain := by
  match chain with
  | .last condition body =>
      obtain rfl : part = body := List.mem_singleton.mp hpart
      rw [last.sizeOf_spec]
      omega
  | .more condition body next =>
      rw [arms, List.map_cons, List.mem_cons] at hpart
      rw [more.sizeOf_spec]
      rcases hpart with rfl | hpart
      · omega
      · have := next.sizeOf_lt_of_mem_arms hpart
        omega

theorem Node.sizeOf_lt_of_mem_parts {node outer : Node} {part : List Node}
    (hpart : part ∈ outer.parts) (hnode : node ∈ part) : sizeOf node < sizeOf outer := by
  have hlt : sizeOf node < sizeOf part := List.sizeOf_lt_of_mem hnode
  cases outer with
  | tag _ _ | loop _ _ _ | block _ _ =>
      obtain rfl := List.mem_singleton.mp hpart
      simp
      omega
  | conditional chain =>
      have := chain.sizeOf_lt_of_mem_arms hpart
      simp
      omega
  | _ => cases hpart

/-- What holds of a node whenever it holds of the nodes in its parts holds of all. -/
@[elab_as_elim]
theorem Node.induct_parts {P : Node → Prop}
    (step : ∀ outer, (∀ part ∈ outer.parts, ∀ node ∈ part, P node) → P outer) (node : Node) :
    P node :=
  step node fun _ hpart inner hinner =>
    have := Node.sizeOf_lt_of_mem_parts hpart hinner
    inner.induct_parts step
termination_by sizeOf node

/-! ## Looking for blocks -/

mutual

theorem Node.hasBlocks_eq_false_iff (node : Node) :
    node.hasBlocks = false ↔ ∀ n, Within n [node] → n.Fixed := by
  rw [forall_within_singleton]
  match node with
  | .block _ _ | .slot _ => simp [Node.hasBlocks, Node.Fixed, Node.kind]
  | .tag _ params =>
      rw [Node.hasBlocks, hasBlocks_eq_false_iff params]
      simp [Node.Fixed, Node.kind, Node.parts]
  | .loop _ _ body =>
      rw [Node.hasBlocks, hasBlocks_eq_false_iff body]
      simp [Node.Fixed, Node.kind, Node.parts]
  | .conditional chain =>
      rw [Node.hasBlocks, chain.hasBlocks_eq_false_iff]
      simp [Node.Fixed, Node.kind, Node.parts]
  | .raw _ | .var _ | .constant _ | .extend _ _ =>
      simp [Node.hasBlocks, Node.Fixed, Node.kind, Node.parts]

theorem Chain.hasBlocks_eq_false_iff (chain : Chain) :
    chain.hasBlocks = false
      ↔ ∀ part ∈ chain.arms.map (·.2), ∀ n, Within n part → n.Fixed := by
  match chain with
  | .last _ body =>
      rw [Chain.hasBlocks, TemplateTree.hasBlocks_eq_false_iff body]
      simp [Chain.arms]
  | .more _ body next =>
      rw [Chain.hasBlocks, Bool.or_eq_false_iff, TemplateTree.hasBlocks_eq_false_iff body,
        next.hasBlocks_eq_false_iff, Chain.arms, List.map_cons, List.forall_mem_cons]

theorem hasBlocks_eq_false_iff (nodes : List Node) :
    hasBlocks nodes = false ↔ ∀ n, Within n nodes → n.Fixed := by
  match nodes with
  | [] => simp [hasBlocks, Within.not_nil]
  | node :: nodes =>
      rw [hasBlocks, Bool.or_eq_false_iff, node.hasBlocks_eq_false_iff,
        hasBlocks_eq_false_iff nodes]
      exact forall_within_cons.symm

end

/-! ## Through a graft -/

section Graft

variable {onBlock : String → List Node → List Node} {onSlot : String → List Node}

theorem Chain.arms_graft (chain : Chain) :
    (chain.graft onBlock onSlot).arms
      = chain.arms.map fun arm => (arm.1, TemplateTree.graft onBlock onSlot arm.2) := by
  match chain with
  | .last _ _ => rw [Chain.graft, Chain.arms, Chain.arms, List.map_singleton]
  | .more _ _ next =>
      rw [Chain.graft, Chain.arms, Chain.arms, List.map_cons, next.arms_graft]

/-- A node that stands for itself is copied, and the graft goes on inside. -/
theorem Node.graft_of_fixed (onBlock : String → List Node → List Node)
    (onSlot : String → List Node) {node : Node} (h : node.Fixed) :
    ∃ copy, node.graft onBlock onSlot = [copy] ∧ copy.kind = node.kind
      ∧ copy.parts = node.parts.map (TemplateTree.graft onBlock onSlot) := by
  match node with
  | .block _ _ => exact absurd rfl h.1
  | .slot _ => exact absurd rfl h.2
  | .conditional chain =>
      rw [Node.graft]
      refine ⟨_, rfl, rfl, ?_⟩
      rw [Node.parts, Node.parts, Chain.arms_graft, List.map_map, List.map_map]
      rfl
  | .tag _ _ | .loop _ _ _ | .raw _ | .var _ | .constant _ | .extend _ _ =>
      rw [Node.graft]
      exact ⟨_, rfl, rfl, rfl⟩

/-- Fixed nodes are as many after a graft as before. -/
theorem length_graft_of_fixed {nodes : List Node} (h : ∀ node ∈ nodes, node.Fixed) :
    (graft onBlock onSlot nodes).length = nodes.length := by
  induction nodes with
  | nil => rw [graft]
  | cons node nodes ih =>
      rw [List.forall_mem_cons] at h
      obtain ⟨copy, hcopy, -, -⟩ := Node.graft_of_fixed onBlock onSlot h.1
      rw [graft, hcopy, List.singleton_append, List.length_cons, List.length_cons, ih h.2]

theorem within_graft_of_mem {node outer : Node} {nodes : List Node} (houter : outer ∈ nodes)
    (h : Within node (outer.graft onBlock onSlot)) : Within node (graft onBlock onSlot nodes) := by
  induction nodes with
  | nil => cases houter
  | cons first nodes ih =>
      rw [graft, Within.append_iff]
      rcases List.mem_cons.mp houter with rfl | houter
      · exact .inl h
      · exact .inr (ih houter)

/-- A node that is copied as it stands keeps a place, unless a block takes it
away. -/
theorem Within.graft {node : Node} (hcopy : node.graft onBlock onSlot = [node])
    (hblock : ∀ key body, Within node body → Within node (onBlock key body))
    {nodes : List Node} (h : Within node nodes) :
    Within node (TemplateTree.graft onBlock onSlot nodes) := by
  induction h with
  | here hnode =>
      refine within_graft_of_mem hnode ?_
      rw [hcopy]
      exact .here List.mem_cons_self
  | @inside nodes part outer houter hpart _ ih =>
      refine within_graft_of_mem houter ?_
      by_cases hfixed : outer.Fixed
      · obtain ⟨copy, hgraft, -, hparts⟩ := Node.graft_of_fixed onBlock onSlot hfixed
        rw [hgraft]
        refine .inside List.mem_cons_self ?_ ih
        rw [hparts]
        exact List.mem_map_of_mem hpart
      · cases outer with
        | block key body =>
            obtain rfl := List.mem_singleton.mp hpart
            rw [Node.graft]
            exact hblock key _ ih
        | slot _ => cases hpart
        | _ => exact absurd (by simp [Node.Fixed, Node.kind]) hfixed

end Graft

/-! ## Through an assembly -/

section Fill

variable {a : Assembly} {content : String → List Node} {P : Node → Prop}

mutual

theorem Node.forall_within_fill (hfixed : ∀ n : Node, n.Fixed → P n)
    (hblock : ∀ key body, key ∉ a.replacements → (∀ n, Within n body → P n) →
      ∀ n, Within n (a.marking.wrap key body) → P n)
    {node : Node} (hneeded : ∀ key ∈ node.needed a.replacements,
      ∀ n, Within n (a.marking.wrap key (content key)) → P n) :
    ∀ n, Within n (node.graft (a.onBlock content) (a.onSlot content)) → P n := by
  match node with
  | .block key body =>
      rw [Node.needed] at hneeded
      rw [Node.graft, Assembly.onBlock]
      by_cases hkey : key ∈ a.replacements
      · rw [if_pos hkey] at hneeded ⊢
        exact hneeded key List.mem_cons_self
      · rw [if_neg hkey] at hneeded ⊢
        exact hblock key _ hkey (forall_within_fill hfixed hblock hneeded)
  | .slot key =>
      rw [Node.needed] at hneeded
      rw [Node.graft, Assembly.onSlot]
      exact hneeded key List.mem_cons_self
  | .tag name params =>
      rw [Node.needed] at hneeded
      rw [Node.graft, forall_within_singleton]
      refine ⟨hfixed _ (by simp [Node.Fixed, Node.kind]), ?_⟩
      intro part hpart
      obtain rfl := List.mem_singleton.mp hpart
      exact forall_within_fill hfixed hblock hneeded
  | .loop item source body =>
      rw [Node.needed] at hneeded
      rw [Node.graft, forall_within_singleton]
      refine ⟨hfixed _ (by simp [Node.Fixed, Node.kind]), ?_⟩
      intro part hpart
      obtain rfl := List.mem_singleton.mp hpart
      exact forall_within_fill hfixed hblock hneeded
  | .conditional chain =>
      rw [Node.needed] at hneeded
      rw [Node.graft, forall_within_singleton]
      refine ⟨hfixed _ (by simp [Node.Fixed, Node.kind]), ?_⟩
      intro part hpart
      exact chain.forall_within_fill hfixed hblock hneeded part hpart
  | .raw _ | .var _ | .constant _ | .extend _ _ =>
      rw [Node.graft, forall_within_singleton]
      exact ⟨hfixed _ (by simp [Node.Fixed, Node.kind]), fun _ hpart => nomatch hpart⟩

theorem Chain.forall_within_fill (hfixed : ∀ n : Node, n.Fixed → P n)
    (hblock : ∀ key body, key ∉ a.replacements → (∀ n, Within n body → P n) →
      ∀ n, Within n (a.marking.wrap key body) → P n)
    {chain : Chain} (hneeded : ∀ key ∈ chain.needed a.replacements,
      ∀ n, Within n (a.marking.wrap key (content key)) → P n) :
    ∀ part ∈ (chain.graft (a.onBlock content) (a.onSlot content)).arms.map (·.2),
      ∀ n, Within n part → P n := by
  match chain with
  | .last condition body =>
      rw [Chain.needed] at hneeded
      rw [Chain.graft, Chain.arms, List.map_singleton, List.forall_mem_singleton]
      exact TemplateTree.forall_within_fill hfixed hblock hneeded
  | .more condition body next =>
      rw [Chain.needed, List.forall_mem_append] at hneeded
      rw [Chain.graft, Chain.arms, List.map_cons, List.forall_mem_cons]
      exact ⟨TemplateTree.forall_within_fill hfixed hblock hneeded.2,
        next.forall_within_fill hfixed hblock hneeded.1⟩

/-- What holds of every node that is copied, and of every node of the needed
contents, holds of every node of the tree that is filled with them. -/
theorem forall_within_fill (hfixed : ∀ n : Node, n.Fixed → P n)
    (hblock : ∀ key body, key ∉ a.replacements → (∀ n, Within n body → P n) →
      ∀ n, Within n (a.marking.wrap key body) → P n)
    {nodes : List Node} (hneeded : ∀ key ∈ needed a.replacements nodes,
      ∀ n, Within n (a.marking.wrap key (content key)) → P n) :
    ∀ n, Within n (a.fill content nodes) → P n := by
  match nodes with
  | [] =>
      rw [Assembly.fill, graft]
      exact fun _ hn => absurd hn Within.not_nil
  | node :: nodes =>
      rw [needed, List.forall_mem_append] at hneeded
      rw [Assembly.fill, graft]
      intro n hn
      rcases Within.append_iff.mp hn with hn | hn
      · exact node.forall_within_fill hfixed hblock hneeded.1 n hn
      · exact forall_within_fill hfixed hblock hneeded.2 n hn

end

end Fill

namespace Assembly

variable {a : Assembly} {active : List String} {nodes out : List Node}

/-- What holds of every node that is copied, and is not lost where content is put
in place, holds throughout an assembled tree. -/
theorem forall_within_resolve {P : Node → Prop} (hfixed : ∀ n : Node, n.Fixed → P n)
    (hwrap : ∀ key body, (∀ n, Within n body → P n) →
      ∀ n, Within n (a.marking.wrap key body) → P n)
    (h : a.resolve active nodes = .ok out) : ∀ n, Within n out → P n := by
  induction active, nodes using resolve.induct (a := a) generalizing out with
  | case1 active nodes ih =>
      rw [resolve_eq, expand_eq_ok_iff] at h
      obtain ⟨hok, rfl⟩ := h
      refine forall_within_fill hfixed (fun key body _ => hwrap key body) fun key hkey => ?_
      refine hwrap key _ ?_
      cases hcontent : a.content? key with
      | none =>
          rw [enter_of_none hcontent, contentOf]
          exact fun _ hn => absurd hn Within.not_nil
      | some content =>
          obtain ⟨hactive, hinner⟩ := resolve_of_failure?_enter hcontent (hok key hkey)
          exact ih key content hcontent hactive hinner

/-- An assembly that splices its contents leaves no block and no slot. -/
theorem fixed_of_resolve (hmarking : a.marking = .splice)
    (h : a.resolve active nodes = .ok out) : ∀ n, Within n out → n.Fixed := by
  refine forall_within_resolve (fun _ hfixed => hfixed) (fun key body hbody => ?_) h
  rw [hmarking]
  exact hbody

end Assembly

end TemplateTree
