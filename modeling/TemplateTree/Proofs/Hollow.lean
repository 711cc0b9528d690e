import TemplateTree.Proofs.DocumentOrder

/-!
# Trees with some bodies left out

To compare trees that differ in the bodies of the blocks of one key, leave those
bodies out. `hollow key` does so wherever the body is plain, that is, brings no
blocks and slots of its own; a body that does is kept, and made hollow inside. Two
trees are hollow alike exactly if they differ in plain bodies of blocks of `key` and
in nothing else.

A plain body has no part in an assembly that leaves blocks around its contents: it
needs no content, it offers none for another key, and it is copied as it stands. So
such an assembly can be run on hollow trees and ends in the hollow result
(`Assembly.map_hollow_resolve`), cycles included. And an assembly that replaces the
key itself does not even see the bodies: what it makes of a tree, it makes of the
hollow tree (`Assembly.resolve_hollow`).
-/

namespace TemplateTree

/-- A body of block `k`, or nothing if the block is one of `key` and the body plain. -/
def emptied (key k : String) (body : List Node) : List Node :=
  if k = key ∧ hasBlocks body = false then [] else body

/-- The tree with nothing in the blocks of `key` whose bodies are plain. -/
def hollow (key : String) : List Node → List Node :=
  graft (fun k body => [.block k (emptied key k body)]) fun k => [.slot k]

def Chain.hollow (key : String) : Chain → Chain :=
  Chain.graft (fun k body => [.block k (emptied key k body)]) fun k => [.slot k]

theorem emptied_of_ne {key k : String} (h : k ≠ key) (body : List Node) :
    emptied key k body = body := by
  rw [emptied, if_neg fun hand => h hand.1]

theorem emptied_cases (key k : String) (body : List Node) :
    (hasBlocks body = false ∧ emptied key k body = []) ∨ emptied key k body = body := by
  rw [emptied]
  split
  · next h => exact .inl ⟨h.2, rfl⟩
  · exact .inr rfl

@[simp] theorem emptied_nil (key k : String) : emptied key k [] = [] := by
  rcases emptied_cases key k [] with ⟨-, h⟩ | h
  · exact h
  · exact h

@[simp] theorem hollow_nil (key : String) : hollow key [] = [] := by
  rw [hollow, graft]

theorem hollow_append (key : String) (xs ys : List Node) :
    hollow key (xs ++ ys) = hollow key xs ++ hollow key ys :=
  graft_append xs ys

theorem hollow_block (key k : String) (body : List Node) :
    hollow key [.block k body] = [.block k (emptied key k (hollow key body))] := by
  rw [hollow, graft_singleton, Node.graft]

theorem hollow_tag (key name : String) (params : List Node) :
    hollow key [.tag name params] = [.tag name (hollow key params)] := by
  rw [hollow, graft_singleton, Node.graft]

theorem hollow_loop (key item : String) (source : Node) (body : List Node) :
    hollow key [.loop item source body] = [.loop item source (hollow key body)] := by
  rw [hollow, graft_singleton, Node.graft]

theorem hollow_conditional (key : String) (chain : Chain) :
    hollow key [.conditional chain] = [.conditional (chain.hollow key)] := by
  rw [hollow, graft_singleton, Node.graft, Chain.hollow]

theorem Chain.hollow_last (key : String) (condition : Node) (body : List Node) :
    (Chain.last condition body).hollow key = .last condition (TemplateTree.hollow key body) := by
  rw [Chain.hollow, Chain.graft, TemplateTree.hollow]

theorem Chain.hollow_more (key : String) (condition : Node) (body : List Node) (next : Chain) :
    (Chain.more condition body next).hollow key
      = .more condition (TemplateTree.hollow key body) (next.hollow key) := by
  rw [Chain.hollow, Chain.graft, TemplateTree.hollow]

/-- What copies plain trees, and makes no other tree plain, can be done before a
plain body is left out or after it. -/
theorem map_emptied {f : List Node → List Node}
    (hcopy : ∀ body, hasBlocks body = false → f body = body)
    (hplain : ∀ body, hasBlocks (f body) = hasBlocks body) (key k : String) (body : List Node) :
    f (emptied key k body) = emptied key k (f body) := by
  by_cases h : k = key ∧ hasBlocks body = false
  · rw [emptied, if_pos h, emptied, hplain, if_pos h, hcopy [] rfl]
  · rw [emptied, if_neg h, emptied, hplain, if_neg h]

/-! ## Grafts that leave blocks where there were blocks -/

theorem hasBlocks_append (xs ys : List Node) :
    hasBlocks (xs ++ ys) = (hasBlocks xs || hasBlocks ys) := by
  induction xs with
  | nil => rw [List.nil_append, hasBlocks, Bool.false_or]
  | cons node xs ih => rw [List.cons_append, hasBlocks, hasBlocks, ih, Bool.or_assoc]

@[simp] theorem hasBlocks_singleton (node : Node) : hasBlocks [node] = node.hasBlocks := by
  rw [hasBlocks, hasBlocks, Bool.or_false]

section HasBlocks

variable {onBlock : String → List Node → List Node} {onSlot : String → List Node}

mutual

theorem Node.hasBlocks_graft (hb : ∀ key body, hasBlocks (onBlock key body) = true)
    (hs : ∀ key, hasBlocks (onSlot key) = true) (node : Node) :
    hasBlocks (node.graft onBlock onSlot) = node.hasBlocks := by
  match node with
  | .block key body => rw [Node.graft, Node.hasBlocks, hb]
  | .slot key => rw [Node.graft, Node.hasBlocks, hs]
  | .tag name params =>
      rw [Node.graft, hasBlocks_singleton, Node.hasBlocks, Node.hasBlocks, hasBlocks_graft hb hs]
  | .loop item source body =>
      rw [Node.graft, hasBlocks_singleton, Node.hasBlocks, Node.hasBlocks, hasBlocks_graft hb hs]
  | .conditional chain =>
      rw [Node.graft, hasBlocks_singleton, Node.hasBlocks, Node.hasBlocks,
        chain.hasBlocks_graft hb hs]
  | .raw _ | .var _ | .constant _ | .extend _ _ => rw [Node.graft, hasBlocks_singleton]

theorem Chain.hasBlocks_graft (hb : ∀ key body, hasBlocks (onBlock key body) = true)
    (hs : ∀ key, hasBlocks (onSlot key) = true) (chain : Chain) :
    (chain.graft onBlock onSlot).hasBlocks = chain.hasBlocks := by
  match chain with
  | .last condition body =>
      rw [Chain.graft, Chain.hasBlocks, Chain.hasBlocks, TemplateTree.hasBlocks_graft hb hs]
  | .more condition body next =>
      rw [Chain.graft, Chain.hasBlocks, Chain.hasBlocks, TemplateTree.hasBlocks_graft hb hs,
        next.hasBlocks_graft hb hs]

theorem hasBlocks_graft (hb : ∀ key body, hasBlocks (onBlock key body) = true)
    (hs : ∀ key, hasBlocks (onSlot key) = true) (nodes : List Node) :
    hasBlocks (graft onBlock onSlot nodes) = hasBlocks nodes := by
  match nodes with
  | [] => rw [graft]
  | node :: nodes =>
      rw [graft, hasBlocks_append, node.hasBlocks_graft hb hs, hasBlocks_graft hb hs, hasBlocks]

end

end HasBlocks

theorem hollow_of_hasBlocks {key : String} {nodes : List Node} (h : hasBlocks nodes = false) :
    hollow key nodes = nodes :=
  graft_of_hasBlocks h

/-- A hollow tree needs the keys that the tree needs. -/
theorem needed_hollow {replaced replaced' : Contents} (hkeys : ∀ k, k ∈ replaced' ↔ k ∈ replaced)
    (key : String) (nodes : List Node) :
    needed replaced' (hollow key nodes) = needed replaced nodes := by
  rw [← List.flatMap_singleton' (needed replaced nodes)]
  refine needed_graft (fun k body body' hbody => ?_) (fun k => ?_) nodes
  · rw [List.flatMap_singleton'] at hbody ⊢
    have hempty : needed replaced' (emptied key k body') = needed replaced body := by
      rcases emptied_cases key k body' with ⟨hplain, h⟩ | h
      · rw [h, ← hbody, needed_of_hasBlocks hplain, needed]
      · rw [h, hbody]
    rw [needed_singleton, Node.needed, Node.needed, hempty]
    simp only [hkeys k]
  · rw [needed_singleton, Node.needed]

/-! ## Hollow assemblies -/

/-- Contents with nothing for `key` if what there is is plain, and the other contents
hollow. -/
def Contents.hollow (key : String) (contents : Contents) : Contents :=
  contents.map fun k body => emptied key k (TemplateTree.hollow key body)

theorem Contents.getElem?_hollow (key : String) (contents : Contents) (k : String) :
    (contents.hollow key)[k]?
      = contents[k]?.map fun body => emptied key k (TemplateTree.hollow key body) :=
  Std.ExtTreeMap.getElem?_map

theorem Contents.mem_hollow {key : String} {contents : Contents} {k : String} :
    k ∈ contents.hollow key ↔ k ∈ contents :=
  Std.ExtTreeMap.mem_map

def Assembly.hollow (key : String) (a : Assembly) : Assembly :=
  ⟨a.replacements.hollow key, a.defaults.hollow key, a.marking⟩

theorem Assembly.content?_hollow (key : String) (a : Assembly) (k : String) :
    (a.hollow key).content? k
      = (a.content? k).map fun body => emptied key k (TemplateTree.hollow key body) := by
  rw [content?, content?, Assembly.hollow, Contents.getElem?_hollow, Contents.getElem?_hollow]
  cases a.replacements[k]? with
  | none => rfl
  | some body => rfl

section Fill

variable {a : Assembly} {key : String}

theorem hasBlocks_fill (hmarking : a.marking = .keep) (content : String → List Node)
    (nodes : List Node) : hasBlocks (a.fill content nodes) = hasBlocks nodes := by
  refine hasBlocks_graft (fun k body => ?_) (fun k => ?_) nodes
  · rw [Assembly.onBlock, hmarking, Marking.wrap, hasBlocks_singleton, Node.hasBlocks]
  · rw [Assembly.onSlot, hmarking, Marking.wrap, hasBlocks_singleton, Node.hasBlocks]

theorem fill_of_hasBlocks {content : String → List Node} {nodes : List Node}
    (h : hasBlocks nodes = false) : a.fill content nodes = nodes :=
  graft_of_hasBlocks h

/-- A tree is hollow after it is filled if it was before, and the contents are. -/
theorem hollow_fill (hmarking : a.marking = .keep) (content : String → List Node)
    (nodes : List Node) :
    hollow key (a.fill content nodes)
      = (a.hollow key).fill (fun k => emptied key k (hollow key (content k)))
          (hollow key nodes) := by
  let given : String → List Node := fun k => emptied key k (hollow key (content k))
  -- Either way is this one graft, in which a body is emptied last of all.
  let onBlock : String → List Node → List Node := fun k body =>
    [.block k (if k ∈ a.replacements then given k else emptied key k body)]
  let onSlot : String → List Node := fun k => [.block k (given k)]
  have hbefore : hollow key (a.fill content nodes) = graft onBlock onSlot nodes := by
    refine graft_graft (fun k body => ?_) (fun k => ?_) nodes
    · show hollow key (a.marking.wrap k (if k ∈ a.replacements then content k else body))
        = [.block k (if k ∈ a.replacements then given k else emptied key k (hollow key body))]
      rw [hmarking, Marking.wrap, hollow_block]
      split
      · rfl
      · rfl
    · show hollow key (a.marking.wrap k (content k)) = [.block k (given k)]
      rw [hmarking, Marking.wrap, hollow_block]
  have hafter : (a.hollow key).fill given (hollow key nodes) = graft onBlock onSlot nodes := by
    have hkeep : (a.hollow key).marking = .keep := hmarking
    refine graft_graft (fun k body => ?_) (fun k => ?_) nodes
    · rw [graft_singleton, Node.graft]
      show (a.hollow key).marking.wrap k (if k ∈ (a.hollow key).replacements then given k
          else (a.hollow key).fill given (emptied key k body))
        = [.block k (if k ∈ a.replacements then given k
          else emptied key k ((a.hollow key).fill given body))]
      rw [hkeep, Marking.wrap,
        map_emptied (fun _ => fill_of_hasBlocks) (hasBlocks_fill hkeep given)]
      have hmem : k ∈ (a.hollow key).replacements ↔ k ∈ a.replacements := Contents.mem_hollow
      simp only [hmem]
    · rw [graft_singleton, Node.graft]
      show (a.hollow key).marking.wrap k (given k) = [.block k (given k)]
      rw [hkeep, Marking.wrap]
  rw [hbefore, ← hafter]

end Fill

namespace Assembly

variable {a : Assembly} {key : String}

theorem hasBlocks_of_resolve (hmarking : a.marking = .keep) {active : List String}
    {nodes out : List Node} (h : a.resolve active nodes = .ok out) :
    hasBlocks out = hasBlocks nodes := by
  rw [resolve_eq, expand_eq_ok_iff] at h
  rw [h.2, hasBlocks_fill hmarking]

theorem resolve_emptied (hmarking : a.marking = .keep) (active : List String) (k : String)
    (nodes : List Node) :
    a.resolve active (emptied key k nodes) = (a.resolve active nodes).map (emptied key k) := by
  by_cases h : k = key ∧ hasBlocks nodes = false
  · rw [resolve_of_hasBlocks h.2, emptied, if_pos h, resolve_of_hasBlocks rfl, Except.map, emptied,
      if_pos h]
  · rw [emptied, if_neg h]
    cases hresolve : a.resolve active nodes with
    | error e => rfl
    | ok out =>
        rw [Except.map, emptied, hasBlocks_of_resolve hmarking hresolve, if_neg h]

/-- An assembly that leaves blocks around its contents does not depend on plain
bodies of the blocks of a key: it ends on the hollow tree, with hollow contents, as
it does on the tree, and fails as it does. -/
theorem map_hollow_resolve (hmarking : a.marking = .keep) (key : String) (active : List String)
    (nodes : List Node) :
    (a.resolve active nodes).map (TemplateTree.hollow key)
      = (a.hollow key).resolve active (TemplateTree.hollow key nodes) := by
  have hkeep : (a.hollow key).marking = .keep := hmarking
  induction active, nodes using resolve.induct (a := a) with
  | case1 active nodes ih =>
      have hneeded : needed (a.hollow key).replacements (TemplateTree.hollow key nodes)
          = needed a.replacements nodes :=
        needed_hollow (fun _ => Contents.mem_hollow) key nodes
      have henter : ∀ k, (a.enter active k).map
          (fun body => emptied key k (TemplateTree.hollow key body))
            = (a.hollow key).enter active k := by
        intro k
        refine map_enter (by rw [hollow_nil, emptied_nil]) (content?_hollow key a k) ?_
        intro content hcontent hactive
        rw [resolve_emptied hkeep, ← ih k content hcontent hactive]
        cases a.resolve (k :: active) content with
        | error e => rfl
        | ok out => rfl
      have hcontents : ∀ k, contentOf ((a.hollow key).enter active k)
          = emptied key k (TemplateTree.hollow key (contentOf (a.enter active k))) := by
        intro k
        rw [← henter, contentOf_map (by rw [hollow_nil, emptied_nil])]
      have hfail : ∀ k, failure? ((a.hollow key).enter active k) = failure? (a.enter active k) := by
        intro k
        rw [← henter, failure?_map]
      rw [resolve_eq, resolve_eq, expand_eq, expand_eq, map_settle, hollow_fill hmarking, hneeded]
      simp only [hcontents, hfail]

end Assembly

/-! ## The blocks of a hollow tree -/

/-- The blocks of a tree, each with the body it has in the hollow tree. -/
def hollowBlocks (key : String) (found : List (String × List Node)) : List (String × List Node) :=
  found.map fun block => (block.1, emptied key block.1 (hollow key block.2))

theorem lookup_hollowBlocks (key k : String) (found : List (String × List Node)) :
    (hollowBlocks key found).lookup k
      = (found.lookup k).map fun body => emptied key k (hollow key body) := by
  induction found with
  | nil => rfl
  | cons block found ih =>
      rw [hollowBlocks, List.map_cons, ← hollowBlocks, List.lookup_cons, List.lookup_cons, ih]
      by_cases hk : k = block.1
      · subst hk
        simp
      · have hb : (k == block.1) = false := beq_false_of_ne hk
        simp [hb]

theorem hollowBlocks_append (key : String) (xs ys : List (String × List Node)) :
    hollowBlocks key (xs ++ ys) = hollowBlocks key xs ++ hollowBlocks key ys :=
  List.map_append

mutual

theorem Node.blocks_hollow (key : String) (node : Node) :
    blocks (hollow key [node]) = hollowBlocks key node.blocks := by
  match node with
  | .block k body =>
      have hbody : blocks (emptied key k (hollow key body)) = hollowBlocks key (blocks body) := by
        rw [← blocks_hollow key body]
        rcases emptied_cases key k (hollow key body) with ⟨hplain, h⟩ | h
        · rw [h, blocks_of_hasBlocks hplain, blocks]
        · rw [h]
      rw [hollow_block, blocks_singleton, Node.blocks, Node.blocks, hollowBlocks, List.map_cons,
        ← hollowBlocks, ← hbody]
  | .tag _ params =>
      rw [hollow_tag, blocks_singleton, Node.blocks, Node.blocks, blocks_hollow key params]
  | .loop _ _ body =>
      rw [hollow_loop, blocks_singleton, Node.blocks, Node.blocks, blocks_hollow key body]
  | .conditional chain =>
      rw [hollow_conditional, blocks_singleton, Node.blocks, Node.blocks, chain.blocks_hollow key]
  | .slot _ | .raw _ | .var _ | .constant _ | .extend _ _ =>
      rw [hollow, graft_singleton, Node.graft, blocks_singleton]
      rfl

theorem Chain.blocks_hollow (key : String) (chain : Chain) :
    (chain.hollow key).blocks = hollowBlocks key chain.blocks := by
  match chain with
  | .last _ body =>
      rw [Chain.hollow_last, Chain.blocks, Chain.blocks, TemplateTree.blocks_hollow key body]
  | .more _ body next =>
      rw [Chain.hollow_more, Chain.blocks, Chain.blocks, hollowBlocks_append,
        next.blocks_hollow key, TemplateTree.blocks_hollow key body]

theorem blocks_hollow (key : String) (nodes : List Node) :
    blocks (hollow key nodes) = hollowBlocks key (blocks nodes) := by
  match nodes with
  | [] =>
      rw [hollow_nil, blocks]
      rfl
  | node :: nodes =>
      rw [blocks, hollowBlocks_append, ← node.blocks_hollow key, ← blocks_hollow key nodes,
        ← blocks_append, ← hollow_append, List.singleton_append]

end

theorem firstBlocks_hollow (key : String) (nodes : List Node) :
    firstBlocks (hollow key nodes) = (firstBlocks nodes).hollow key := by
  refine Std.ExtTreeMap.ext_getElem? fun k => ?_
  rw [getElem?_firstBlocks, blocks_hollow, lookup_hollowBlocks, Contents.getElem?_hollow,
    getElem?_firstBlocks]

/-! ## One template put onto another -/

/-- A layer on a hollow tree is the hollow layer on the tree. -/
theorem map_hollow_layer (key : String) (contents : Contents) (base : List Node) :
    (layer contents base).map (hollow key) = layer (contents.hollow key) (hollow key base) := by
  rw [layer, layer, Assembly.map_hollow_resolve rfl, Assembly.onto, Assembly.onto,
    firstBlocks_hollow]
  rfl

section Replaced

variable {a : Assembly} {key : String}

theorem fill_hollow (hkey : key ∈ a.replacements) (content : String → List Node)
    (nodes : List Node) : a.fill content (hollow key nodes) = a.fill content nodes := by
  refine graft_graft (fun k body => ?_) (fun k => ?_) nodes
  · rw [graft_singleton, Node.graft, Assembly.onBlock, Assembly.onBlock]
    by_cases hk : k = key
    · rw [if_pos (hk ▸ hkey), if_pos (hk ▸ hkey)]
    · rw [emptied_of_ne hk]
  · rw [graft_singleton, Node.graft]

/-- An assembly that replaces the key makes of the hollow tree what it makes of the
tree. -/
theorem Assembly.resolve_hollow (hkey : key ∈ a.replacements) (active : List String)
    (nodes : List Node) :
    a.resolve active (TemplateTree.hollow key nodes) = a.resolve active nodes := by
  rw [resolve_eq, resolve_eq, expand_eq, expand_eq, fill_hollow hkey,
    needed_hollow (fun _ => Iff.rfl)]

theorem Assembly.content?_hollow_defaults (hkey : key ∈ a.replacements) (k : String) :
    Assembly.content? { a with defaults := a.defaults.hollow key } k = a.content? k
      ∨ Assembly.content? { a with defaults := a.defaults.hollow key } k
        = (a.content? k).map (TemplateTree.hollow key) := by
  rw [content?, content?]
  cases hreplacement : a.replacements[k]? with
  | some content => exact .inl rfl
  | none =>
      have hk : k ≠ key := fun heq => not_mem_of_getElem?_eq_none hreplacement (heq ▸ hkey)
      refine .inr ?_
      rw [Contents.getElem?_hollow]
      simp only [emptied_of_ne hk]
      rfl

/-- Nor does it depend on what hollow defaults leave out. -/
theorem Assembly.resolve_hollow_defaults (hkey : key ∈ a.replacements) (active : List String)
    (nodes : List Node) :
    Assembly.resolve { a with defaults := a.defaults.hollow key } active nodes
      = a.resolve active nodes := by
  let b : Assembly := { a with defaults := a.defaults.hollow key }
  show b.resolve active nodes = a.resolve active nodes
  induction active, nodes using resolve.induct (a := a) with
  | case1 active nodes ih =>
      have henter : ∀ k, b.enter active k = a.enter active k := by
        intro k
        have hmap : (a.enter active k).map id = b.enter active k := by
          rcases content?_hollow_defaults hkey k with hcontent | hcontent
          · rw [← Option.map_id_apply (x := a.content? k)] at hcontent
            refine map_enter rfl hcontent fun content hsome hactive => ?_
            rw [Except.map_id]
            exact (ih k content hsome hactive).symm
          · refine map_enter rfl hcontent fun content hsome hactive => ?_
            rw [resolve_hollow (a := b) hkey, Except.map_id]
            exact (ih k content hsome hactive).symm
        rw [Except.map_id] at hmap
        exact hmap.symm
      rw [resolve_eq, resolve_eq, funext henter, expand_eq, expand_eq]
      rfl

/-- To put a template onto another is not to depend on the blocks of a key that it
supplies. -/
theorem layer_hollow {contents : Contents} (hkey : key ∈ contents) (base : List Node) :
    layer contents (hollow key base) = layer contents base := by
  have hdefaults : Assembly.onto contents (hollow key base)
      = { Assembly.onto contents base with defaults := (firstBlocks base).hollow key } := by
    rw [Assembly.onto, Assembly.onto, firstBlocks_hollow]
  rw [layer, layer, hdefaults, Assembly.resolve_hollow hkey]
  exact Assembly.resolve_hollow_defaults hkey [] base

end Replaced

end TemplateTree
