import TemplateTree.Proofs.DocumentOrder
import TemplateTree.Proofs.StoredTemplate

/-!
# A template in between that adds nothing

A template may be built on one that only passes on what it is built on itself. What
comes up through it is not the tree below: every slot has become a block, with the
default of its key inside, and the templates further up see those blocks instead. The
theorems here say that nothing is lost by it, as long as the tree below has no block
twice: whatever is put onto the tree that has been passed on gives what it gives when
it is put onto the tree itself (`layer_lower_iff`). All that is built on it in a store can
so be pointed at the tree below, or some of it (`inherit_repointed_iff`).

Two things change for whatever is put on top. Where there was a slot its default is read
in place, and no longer entered; to read it there needs what entering it needed, and gives
the same (`Assembly.resolve_fillSlots_iff`). And the first block of a key is another one,
but all blocks of the key hold what is passed on for it (`getElem?_firstBlocks_passed`).
What is put onto the tree and what is put onto the tree that came up is then compared by
one induction each way, over what is entered on the side where it ends well.

One thing is not passed on. The defaults are entered in between, whether or not a
template further up replaces them, so a cycle among them is met there. A template that
would have broken the cycle comes too late, although it could have been built on the
tree itself.
-/

namespace TemplateTree

/-! ## Slots filled in place -/

/-- The tree with content in its slots, each in a block of the slot's key. -/
def fillSlots (content : String → List Node) : List Node → List Node :=
  graft (fun key body => [.block key body]) fun key => [.block key (content key)]

section FillSlots

variable {content : String → List Node}

mutual

theorem Node.mem_blocks_fillSlots (node : Node) {key : String} {body : List Node} :
    (key, body) ∈ blocks (fillSlots content [node])
      ↔ (∃ old, (key, old) ∈ node.blocks ∧ body = fillSlots content old)
        ∨ ∃ k ∈ node.needed ∅, (key, body) ∈ (k, content k) :: blocks (content k) := by
  match node with
  | .block k old =>
      have hout : blocks (fillSlots content [.block k old])
          = (k, fillSlots content old) :: blocks (fillSlots content old) := by
        rw [fillSlots, graft_singleton, Node.graft, blocks_singleton, Node.blocks]
      rw [hout, List.mem_cons, mem_blocks_fillSlots old, Node.needed,
        if_neg Std.ExtTreeMap.not_mem_empty, Node.blocks, ← or_assoc]
      refine or_congr_left ?_
      simp only [List.mem_cons, Prod.mk.injEq, or_and_right, exists_or, and_assoc,
        exists_eq_left, exists_and_left]
  | .slot k =>
      rw [fillSlots, graft_singleton, Node.graft, blocks_singleton, Node.blocks, Node.needed,
        Node.blocks]
      simp
  | .tag _ params =>
      rw [fillSlots, graft_singleton, Node.graft, blocks_singleton, Node.blocks, Node.needed,
        Node.blocks]
      exact mem_blocks_fillSlots params
  | .loop _ _ inner =>
      rw [fillSlots, graft_singleton, Node.graft, blocks_singleton, Node.blocks, Node.needed,
        Node.blocks]
      exact mem_blocks_fillSlots inner
  | .conditional chain =>
      rw [fillSlots, graft_singleton, Node.graft, blocks_singleton, Node.blocks, Node.needed,
        Node.blocks]
      exact chain.mem_blocks_fillSlots
  | .raw _ | .var _ | .constant _ | .extend _ _ =>
      rw [fillSlots, graft_singleton, Node.graft, blocks_singleton, Node.blocks, Node.needed]
      simp

theorem Chain.mem_blocks_fillSlots (chain : Chain) {key : String} {body : List Node} :
    (key, body) ∈ (chain.graft (fun key body => [.block key body])
        fun key => [.block key (content key)]).blocks
      ↔ (∃ old, (key, old) ∈ chain.blocks ∧ body = fillSlots content old)
        ∨ ∃ k ∈ chain.needed ∅, (key, body) ∈ (k, content k) :: blocks (content k) := by
  match chain with
  | .last _ inner =>
      rw [Chain.graft, Chain.blocks, Chain.blocks, Chain.needed]
      exact TemplateTree.mem_blocks_fillSlots inner
  | .more _ inner next =>
      rw [Chain.graft, Chain.blocks, Chain.blocks, Chain.needed, List.mem_append,
        next.mem_blocks_fillSlots, or_comm]
      refine (or_congr_right (TemplateTree.mem_blocks_fillSlots inner)).trans ?_
      rw [or_or_or_comm, or_comm (a := ∃ old, (key, old) ∈ next.blocks ∧ _)]
      simp only [List.mem_append, or_and_right, exists_or]

/-- The blocks of a tree whose slots have been filled: those of the tree, filled inside,
and those that have come in with the contents. -/
theorem mem_blocks_fillSlots (nodes : List Node) {key : String} {body : List Node} :
    (key, body) ∈ blocks (fillSlots content nodes)
      ↔ (∃ old, (key, old) ∈ blocks nodes ∧ body = fillSlots content old)
        ∨ ∃ k ∈ needed ∅ nodes, (key, body) ∈ (k, content k) :: blocks (content k) := by
  match nodes with
  | [] =>
      rw [fillSlots, graft, blocks, needed]
      simp
  | node :: nodes =>
      have hout : blocks (fillSlots content (node :: nodes))
          = blocks (fillSlots content [node]) ++ blocks (fillSlots content nodes) := by
        rw [fillSlots, graft, blocks_append, graft_singleton]
      rw [hout, List.mem_append, node.mem_blocks_fillSlots, mem_blocks_fillSlots nodes,
        or_or_or_comm, blocks, needed]
      simp only [List.mem_append, or_and_right, exists_or]

end

/-- What an assembly needs of a filled tree: for each key that it replaces that key, for
any other what it needs of the content that has been filled in. -/
theorem needed_fillSlots (replaced : Contents) (nodes : List Node) :
    needed replaced (fillSlots content nodes)
      = (needed replaced nodes).flatMap fun key =>
          if key ∈ replaced then [key] else needed replaced (content key) := by
  refine needed_graft (fun key body body' hbody => ?_) (fun key => ?_) nodes
  · rw [needed_singleton, Node.needed, Node.needed]
    by_cases hkey : key ∈ replaced
    · rw [if_pos hkey, if_pos hkey, List.flatMap_singleton, if_pos hkey]
    · rw [if_neg hkey, if_neg hkey, hbody]
  · rw [needed_singleton, Node.needed]

/-- To fill the blocks of a tree whose slots have been filled before is to fill the tree
itself, for the keys that are not replaced with what is made of those contents. -/
theorem fill_fillSlots (a : Assembly) (inner : String → List Node) (nodes : List Node) :
    a.fill inner (fillSlots content nodes)
      = a.fill (fun key => if key ∈ a.replacements then inner key else a.fill inner (content key))
          nodes := by
  refine graft_graft (fun key body => ?_) (fun key => ?_) nodes
  · rw [graft_singleton, Node.graft, Assembly.onBlock, Assembly.onBlock]
    by_cases hkey : key ∈ a.replacements
    · rw [if_pos hkey, if_pos hkey, if_pos hkey]
    · rw [if_neg hkey, if_neg hkey]
  · rw [graft_singleton, Node.graft, Assembly.onBlock, Assembly.onSlot]
    rfl

end FillSlots

/-! ## What is inside a block -/

mutual

theorem Node.mem_needed_empty_iff (node : Node) {key : String} :
    key ∈ node.needed ∅ ↔ Within (.slot key) [node] := by
  rw [Within.singleton_iff]
  match node with
  | .block k body =>
      rw [Node.needed, if_neg Std.ExtTreeMap.not_mem_empty, mem_needed_empty_iff body]
      simp [Node.parts]
  | .slot k => simp [Node.needed, Node.parts]
  | .tag _ params => simp [Node.needed, Node.parts, mem_needed_empty_iff params]
  | .loop _ _ body => simp [Node.needed, Node.parts, mem_needed_empty_iff body]
  | .conditional chain =>
      rw [Node.needed, chain.mem_needed_empty_iff]
      simp [Node.parts]
  | .raw _ | .var _ | .constant _ | .extend _ _ => simp [Node.needed, Node.parts]

theorem Chain.mem_needed_empty_iff (chain : Chain) {key : String} :
    key ∈ chain.needed ∅ ↔ ∃ part ∈ chain.arms.map (·.2), Within (.slot key) part := by
  match chain with
  | .last _ body =>
      rw [Chain.needed, TemplateTree.mem_needed_empty_iff body]
      simp [Chain.arms]
  | .more _ body next =>
      rw [Chain.needed, List.mem_append, TemplateTree.mem_needed_empty_iff body,
        next.mem_needed_empty_iff, or_comm]
      simp [Chain.arms]

/-- Where nothing is replaced, it is the slots that need content. -/
theorem mem_needed_empty_iff (nodes : List Node) {key : String} :
    key ∈ needed ∅ nodes ↔ Within (.slot key) nodes := by
  match nodes with
  | [] =>
      rw [needed]
      exact iff_of_false List.not_mem_nil Within.not_nil
  | node :: nodes =>
      rw [needed, List.mem_append, node.mem_needed_empty_iff, mem_needed_empty_iff nodes,
        ← Within.cons_iff]

end

theorem lookup_of_nodup {pairs : List (String × List Node)} (h : (pairs.map (·.1)).Nodup)
    {key : String} {body : List Node} (hmem : (key, body) ∈ pairs) :
    pairs.lookup key = some body := by
  obtain ⟨before, after, rfl⟩ := List.append_of_mem hmem
  refine List.lookup_eq_some_iff.mpr ⟨before, after, rfl, fun pair hpair => ?_⟩
  rw [List.map_append, List.nodup_append] at h
  exact bne_iff_ne.mpr fun heq =>
    h.2.2 pair.1 (List.mem_map_of_mem hpair) key List.mem_cons_self heq.symm

section Inside

variable {nodes body : List Node} {key : String} (hblock : (key, body) ∈ blocks nodes)
include hblock

theorem blocks_subset_of_mem_blocks : blocks body ⊆ blocks nodes := by
  intro block hinside
  have houter : Within (.block key body) nodes := (mem_blocks_iff nodes).mp hblock
  have hinner : Within (.block block.1 block.2) body := (mem_blocks_iff body).mp hinside
  exact (mem_blocks_iff nodes).mpr (hinner.trans List.mem_cons_self houter)

theorem needed_subset_of_mem_blocks : needed ∅ body ⊆ needed ∅ nodes := by
  intro slot hinside
  have houter : Within (.block key body) nodes := (mem_blocks_iff nodes).mp hblock
  have hinner : Within (.slot slot) body := (mem_needed_empty_iff body).mp hinside
  exact (mem_needed_empty_iff nodes).mpr (hinner.trans List.mem_cons_self houter)

end Inside

/-! ## What is passed on -/

/-- The default of a key in the tree, as it is when nothing is put onto the tree. -/
def passed (base : List Node) (key : String) : List Node :=
  contentOf ((Assembly.onto ∅ base).enter [] key)

theorem content?_onto_empty (base : List Node) (key : String) :
    (Assembly.onto ∅ base).content? key = (firstBlocks base)[key]? := by
  rw [Assembly.content?, Assembly.onto, Std.ExtTreeMap.getElem?_empty]
  rfl

theorem fill_onto_empty (base : List Node) (content : String → List Node) (nodes : List Node) :
    (Assembly.onto ∅ base).fill content nodes = fillSlots content nodes := by
  have hblock : (Assembly.onto ∅ base).onBlock content = fun key body => [.block key body] := by
    funext key body
    exact congrArg (fun body => [Node.block key body]) (if_neg Std.ExtTreeMap.not_mem_empty)
  rw [Assembly.fill, hblock]
  rfl

section Passed

variable {base lower nodes body : List Node} {key : String}

theorem passed_of_none (h : (firstBlocks base)[key]? = none) : passed base key = [] := by
  rw [← content?_onto_empty] at h
  rw [passed, Assembly.enter_of_none h, contentOf]

theorem eq_fillSlots_of_layer (h : layer ∅ base = .ok lower) :
    lower = fillSlots (passed base) base := by
  rw [layer, Assembly.resolve_eq, expand_eq_ok_iff, fill_onto_empty] at h
  exact h.2

/-- What has only slots of the tree is resolved when the tree is. -/
theorem resolve_of_needed_subset (h : layer ∅ base = .ok lower)
    (hnodes : needed ∅ nodes ⊆ needed ∅ base) :
    (Assembly.onto ∅ base).resolve [] nodes = .ok (fillSlots (passed base) nodes) := by
  obtain ⟨content, hcontent, -⟩ := Assembly.exists_enter_of_resolve h
  rw [← fill_onto_empty]
  refine Assembly.resolve_eq_ok_of_enter fun slot hslot => ?_
  rw [passed, hcontent slot (hnodes hslot), contentOf]

theorem resolve_default (h : layer ∅ base = .ok lower) (hkey : (firstBlocks base)[key]? = some body) :
    (Assembly.onto ∅ base).resolve [] body = .ok (fillSlots (passed base) body) :=
  resolve_of_needed_subset h
    (needed_subset_of_mem_blocks ((mem_blocks_iff base).mpr (within_of_firstBlocks hkey)))

theorem passed_eq (h : layer ∅ base = .ok lower) (hkey : (firstBlocks base)[key]? = some body) :
    passed base key = fillSlots (passed base) body := by
  have henter : (Assembly.onto ∅ base).enter [] key = .ok (fillSlots (passed base) body) :=
    (Assembly.enter_nil_eq_ok_iff ((content?_onto_empty base key).trans hkey)).mpr
      (resolve_default h hkey)
  rw [passed, henter, contentOf]

theorem eq_passed_of_mem_blocks_fillSlots (h : layer ∅ base = .ok lower)
    (honce : ((blocks base).map (·.1)).Nodup) {nodes out : List Node}
    (hresolve : (Assembly.onto ∅ base).resolve [] nodes = .ok out) :
    blocks nodes ⊆ blocks base → ∀ key body,
      (key, body) ∈ blocks (fillSlots (passed base) nodes) → body = passed base key := by
  refine Assembly.resolve_induction hresolve fun nodes ih hnodes key body hblock => ?_
  rcases (mem_blocks_fillSlots nodes).mp hblock with ⟨old, hold, rfl⟩ | ⟨slot, hslot, hblock⟩
  · have hfirst : (firstBlocks base)[key]? = some old := by
      rw [getElem?_firstBlocks]
      exact lookup_of_nodup honce (hnodes hold)
    exact (passed_eq h hfirst).symm
  · rcases List.mem_cons.mp hblock with heq | hblock
    · cases heq
      rfl
    · cases hfirst : (firstBlocks base)[slot]? with
      | none =>
          rw [passed_of_none hfirst, blocks] at hblock
          cases hblock
      | some content =>
          have hwithin := (mem_blocks_iff base).mpr (within_of_firstBlocks hfirst)
          rw [passed_eq h hfirst] at hblock
          exact ih slot hslot content ((content?_onto_empty base slot).trans hfirst)
            (blocks_subset_of_mem_blocks hwithin) key body hblock

/-- If the tree has no block twice, every block in what comes up holds what is passed on
for its key, whether it was a block of the tree or stands where there was a slot. -/
theorem eq_passed_of_mem_blocks (h : layer ∅ base = .ok lower)
    (honce : ((blocks base).map (·.1)).Nodup) (hblock : (key, body) ∈ blocks lower) :
    body = passed base key := by
  rw [eq_fillSlots_of_layer h] at hblock
  exact eq_passed_of_mem_blocks_fillSlots h honce h (List.Subset.refl _) key body hblock

/-- The default of a key in what comes up is what is passed on for the key. -/
theorem getElem?_firstBlocks_passed (h : layer ∅ base = .ok lower)
    (honce : ((blocks base).map (·.1)).Nodup) (key : String) :
    (firstBlocks lower)[key]?.getD [] = passed base key := by
  cases hlower : (firstBlocks lower)[key]? with
  | some body =>
      exact eq_passed_of_mem_blocks h honce ((mem_blocks_iff lower).mpr (within_of_firstBlocks hlower))
  | none =>
      cases hbase : (firstBlocks base)[key]? with
      | none => exact (passed_of_none hbase).symm
      | some body =>
          have hblock : (key, fillSlots (passed base) body) ∈ blocks lower := by
            rw [eq_fillSlots_of_layer h, mem_blocks_fillSlots]
            exact .inl ⟨body, (mem_blocks_iff base).mpr (within_of_firstBlocks hbase), rfl⟩
          rw [getElem?_firstBlocks, List.lookup_eq_none_iff] at hlower
          exact absurd (hlower _ hblock) (by simp)

end Passed

/-! ## Put onto the one and onto the other -/

namespace Assembly

theorem enter_nil_eq_resolve_iff {a : Assembly} {key : String} {out : List Node} :
    a.enter [] key = .ok out ↔ a.resolve [] ((a.content? key).getD []) = .ok out := by
  cases hcontent : a.content? key with
  | some content => exact enter_nil_eq_ok_iff hcontent
  | none => rw [enter_of_none hcontent, Option.getD_none, resolve_of_hasBlocks rfl]

/-- Where a slot stands for content, that content can as well stand there itself. -/
theorem resolve_fillSlots_iff {a : Assembly} {content : String → List Node}
    {nodes out : List Node}
    (h : ∀ key ∈ needed a.replacements nodes, key ∉ a.replacements →
      ∀ inner, a.enter [] key = .ok inner ↔ a.resolve [] (content key) = .ok inner) :
    a.resolve [] (fillSlots content nodes) = .ok out ↔ a.resolve [] nodes = .ok out := by
  have hback : ∀ {out}, a.resolve [] (fillSlots content nodes) = .ok out →
      a.resolve [] nodes = .ok out := by
    intro out hout
    obtain ⟨inner, hinner, rfl⟩ := exists_enter_of_resolve hout
    rw [fill_fillSlots]
    rw [needed_fillSlots] at hinner
    refine resolve_eq_ok_of_enter fun key hkey => ?_
    by_cases hreplaced : key ∈ a.replacements
    · rw [if_pos hreplaced]
      exact hinner key (List.mem_flatMap.mpr ⟨key, hkey, by simp [hreplaced]⟩)
    · rw [if_neg hreplaced, h key hkey hreplaced]
      refine resolve_eq_ok_of_enter fun k hk => ?_
      exact hinner k (List.mem_flatMap.mpr ⟨key, hkey, by simpa [hreplaced] using hk⟩)
  refine ⟨hback, fun hout => ?_⟩
  obtain ⟨inner, hinner, -⟩ := exists_enter_of_resolve hout
  -- Every key that is needed inside the contents has been entered on the way to them.
  have henter : ∀ key ∈ needed a.replacements (fillSlots content nodes),
      a.enter [] key = .ok (contentOf (a.enter [] key)) := by
    intro key hkey
    rw [needed_fillSlots] at hkey
    obtain ⟨k, hk, hkey⟩ := List.mem_flatMap.mp hkey
    by_cases hreplaced : k ∈ a.replacements
    · rw [if_pos hreplaced, List.mem_singleton] at hkey
      rw [hkey, hinner k hk, contentOf]
    · rw [if_neg hreplaced] at hkey
      obtain ⟨deeper, hdeeper, -⟩ :=
        exists_enter_of_resolve ((h k hk hreplaced (inner k)).mp (hinner k hk))
      rw [hdeeper key hkey, contentOf]
  have hfilled := resolve_eq_ok_of_enter henter
  rw [hfilled, ← hback hfilled, hout]

/-- If each content comes out as it does over another tree, so do the nodes. -/
theorem resolve_of_enter_imp {contents : Contents} {below below' nodes out : List Node}
    (h : ∀ key ∈ needed contents nodes, ∀ inner,
      (onto contents below).enter [] key = .ok inner →
      (onto contents below').enter [] key = .ok inner)
    (hout : (onto contents below).resolve [] nodes = .ok out) :
    (onto contents below').resolve [] nodes = .ok out := by
  obtain ⟨content, hcontent, rfl⟩ := exists_enter_of_resolve hout
  exact resolve_eq_ok_of_enter fun key hkey => h key hkey _ (hcontent key hkey)

/-- What holds of the content of a key when it has some, holds of what stands in its
place when it has none. -/
theorem resolve_of_enter {a b : Assembly} {key : String} {inner : List Node}
    (h : ∀ content, a.content? key = some content → ∀ inner,
      a.resolve [] content = .ok inner → b.resolve [] content = .ok inner)
    (hinner : a.enter [] key = .ok inner) :
    b.resolve [] ((a.content? key).getD []) = .ok inner := by
  rw [enter_nil_eq_resolve_iff] at hinner
  cases hcontent : a.content? key with
  | some content =>
      rw [hcontent] at hinner
      exact h content hcontent inner hinner
  | none =>
      rw [hcontent, Option.getD_none, resolve_of_hasBlocks rfl] at hinner
      rw [Option.getD_none, resolve_of_hasBlocks rfl]
      exact hinner

section Content

variable {contents : Contents} {base : List Node} {key : String}

theorem content?_onto_of_mem (h : key ∈ contents) :
    (onto contents base).content? key = contents[key]? := by
  obtain ⟨content, hcontent⟩ := mem_iff_getElem?_eq_some.mp h
  rw [content?, onto, hcontent]
  rfl

theorem content?_onto_of_not_mem (h : key ∉ contents) :
    (onto contents base).content? key = (firstBlocks base)[key]? := by
  rw [content?, onto, Std.ExtTreeMap.getElem?_eq_none h]
  rfl

end Content

end Assembly

section Onto

variable {base lower : List Node} (contents : Contents)

theorem enter_lower_iff (h : layer ∅ base = .ok lower) (honce : ((blocks base).map (·.1)).Nodup)
    {key : String} (hkey : key ∉ contents) {inner : List Node} :
    (Assembly.onto contents lower).enter [] key = .ok inner
      ↔ (Assembly.onto contents lower).resolve [] (passed base key) = .ok inner := by
  rw [Assembly.enter_nil_eq_resolve_iff, Assembly.content?_onto_of_not_mem hkey,
    getElem?_firstBlocks_passed h honce]

theorem resolve_fillSlots_lower_iff (h : layer ∅ base = .ok lower)
    (honce : ((blocks base).map (·.1)).Nodup) {nodes out : List Node} :
    (Assembly.onto contents lower).resolve [] (fillSlots (passed base) nodes) = .ok out
      ↔ (Assembly.onto contents lower).resolve [] nodes = .ok out :=
  Assembly.resolve_fillSlots_iff fun _ _ hkey _ => enter_lower_iff contents h honce hkey

theorem enter_base_iff_of_default (h : layer ∅ base = .ok lower) {key : String}
    (hkey : key ∉ contents)
    (hdefault : ∀ body, (firstBlocks base)[key]? = some body → ∀ inner,
      (Assembly.onto contents base).resolve [] (fillSlots (passed base) body) = .ok inner
        ↔ (Assembly.onto contents base).resolve [] body = .ok inner)
    {inner : List Node} :
    (Assembly.onto contents base).enter [] key = .ok inner
      ↔ (Assembly.onto contents base).resolve [] (passed base key) = .ok inner := by
  rw [Assembly.enter_nil_eq_resolve_iff, Assembly.content?_onto_of_not_mem hkey]
  cases hfirst : (firstBlocks base)[key]? with
  | none => rw [passed_of_none hfirst, Option.getD_none]
  | some body =>
      rw [passed_eq h hfirst, Option.getD_some]
      exact (hdefault body hfirst inner).symm

/-- In the tree below a default that is read in place of its slot may hold further slots, so
here it takes an induction over what is entered below, where nothing is replaced. -/
theorem resolve_fillSlots_base_iff (h : layer ∅ base = .ok lower) {nodes out : List Node}
    (hresolve : (Assembly.onto ∅ base).resolve [] nodes = .ok out) : ∀ inner,
    (Assembly.onto contents base).resolve [] (fillSlots (passed base) nodes) = .ok inner
      ↔ (Assembly.onto contents base).resolve [] nodes = .ok inner := by
  refine Assembly.resolve_induction hresolve fun nodes ih inner => ?_
  refine Assembly.resolve_fillSlots_iff fun key hneeded hkey inner => ?_
  have hslot : key ∈ needed ∅ nodes := (mem_needed (fun k => by simp) hneeded).resolve_left hkey
  refine enter_base_iff_of_default contents h hkey fun body hfirst => ?_
  exact ih key hslot body ((content?_onto_empty base key).trans hfirst)

theorem enter_base_iff (h : layer ∅ base = .ok lower) {key : String} (hkey : key ∉ contents)
    {inner : List Node} :
    (Assembly.onto contents base).enter [] key = .ok inner
      ↔ (Assembly.onto contents base).resolve [] (passed base key) = .ok inner :=
  enter_base_iff_of_default contents h hkey fun _ hfirst =>
    resolve_fillSlots_base_iff contents h (resolve_default h hfirst)

theorem resolve_lower_of_resolve_base (h : layer ∅ base = .ok lower)
    (honce : ((blocks base).map (·.1)).Nodup) {nodes out : List Node}
    (hresolve : (Assembly.onto contents base).resolve [] nodes = .ok out) : ∀ out,
    (Assembly.onto contents base).resolve [] nodes = .ok out →
      (Assembly.onto contents lower).resolve [] nodes = .ok out := by
  refine Assembly.resolve_induction hresolve fun nodes ih out hout => ?_
  refine Assembly.resolve_of_enter_imp (fun key hneeded inner hinner => ?_) hout
  have hcontent := Assembly.resolve_of_enter (ih key hneeded) hinner
  by_cases hkey : key ∈ contents
  · rw [Assembly.content?_onto_of_mem hkey] at hcontent
    rw [Assembly.enter_nil_eq_resolve_iff, Assembly.content?_onto_of_mem hkey]
    exact hcontent
  · rw [Assembly.content?_onto_of_not_mem hkey] at hcontent
    rw [enter_lower_iff contents h honce hkey]
    cases hfirst : (firstBlocks base)[key]? with
    | none =>
        rw [hfirst, Option.getD_none] at hcontent
        rw [passed_of_none hfirst]
        exact hcontent
    | some body =>
        rw [hfirst, Option.getD_some] at hcontent
        rw [passed_eq h hfirst]
        exact (resolve_fillSlots_lower_iff contents h honce).mpr hcontent

theorem resolve_base_of_resolve_lower (h : layer ∅ base = .ok lower)
    (honce : ((blocks base).map (·.1)).Nodup) {nodes out : List Node}
    (hresolve : (Assembly.onto contents lower).resolve [] nodes = .ok out) : ∀ out,
    (Assembly.onto contents lower).resolve [] nodes = .ok out →
      (Assembly.onto contents base).resolve [] nodes = .ok out := by
  refine Assembly.resolve_induction hresolve fun nodes ih out hout => ?_
  refine Assembly.resolve_of_enter_imp (fun key hneeded inner hinner => ?_) hout
  have hcontent := Assembly.resolve_of_enter (ih key hneeded) hinner
  by_cases hkey : key ∈ contents
  · rw [Assembly.content?_onto_of_mem hkey] at hcontent
    rw [Assembly.enter_nil_eq_resolve_iff, Assembly.content?_onto_of_mem hkey]
    exact hcontent
  · rw [Assembly.content?_onto_of_not_mem hkey, getElem?_firstBlocks_passed h honce] at hcontent
    exact (enter_base_iff contents h hkey).mpr hcontent

/-- What is put onto a tree that has come up gives what it gives when it is put onto the
tree below. -/
theorem layer_lower_iff (h : layer ∅ base = .ok lower) (honce : ((blocks base).map (·.1)).Nodup)
    {merged : List Node} : layer contents lower = .ok merged ↔ layer contents base = .ok merged := by
  have hfilled : (Assembly.onto contents lower).resolve [] lower = .ok merged
      ↔ (Assembly.onto contents lower).resolve [] base = .ok merged := by
    nth_rewrite 2 [eq_fillSlots_of_layer h]
    exact resolve_fillSlots_lower_iff contents h honce
  rw [layer, layer, hfilled]
  constructor
  · intro hmerged
    exact resolve_base_of_resolve_lower contents h honce hmerged merged hmerged
  · intro hmerged
    exact resolve_lower_of_resolve_base contents h honce hmerged merged hmerged

theorem layer_bind_flatten_iff_inlines {tree : List Node} :
    layer contents base >>= flatten = .ok tree ↔ (Assembly.onto contents base).Inlines base tree := by
  have hflatten : flatten = fun merged => (Assembly.within merged).resolve [] merged :=
    funext Assembly.flatten_eq_resolve
  rw [layer, hflatten, Assembly.resolve_onto_bind_resolve_within,
    Assembly.resolve_spliced_eq_ok_iff]

end Onto

/-! ## Rendering through it -/

/-- The template with its `extend` nodes for one key pointed at another. -/
def repoint (key target : String) (nodes : Template) : Template :=
  nodes.map fun
    | .extend k exports => .extend (if k = key then target else k) exports
    | node => node

section Repoint

variable {key target : String}

theorem extension?_repoint (nodes : Template) :
    extension? (repoint key target nodes)
      = (extension? nodes).map fun built => (if built.1 = key then target else built.1, built.2) := by
  induction nodes with
  | nil => rfl
  | cons node nodes ih =>
      cases node with
      | extend k exports => rfl
      | _ => exact ih

theorem supplied_repoint (nodes : Template) (exports : List (String × List Node)) :
    supplied (repoint key target nodes) exports = supplied nodes exports := by
  rw [supplied, supplied, repoint, List.foldl_map]
  refine congrArg (List.foldl · _ nodes) ?_
  funext contents node
  cases node with
  | _ => rfl

theorem repoint_of_root {nodes : Template} (h : extension? nodes = none) :
    repoint key target nodes = nodes := by
  rw [extension?_eq_none_iff] at h
  refine (List.map_congr_left fun node hnode => ?_).trans (List.map_id nodes)
  cases node with
  | extend k exports => exact absurd rfl (h _ hnode)
  | _ => rfl

/-- What is left of it when the template has been pointed elsewhere, or has not. -/
theorem extension?_of_repointed {nodes nodes' : Template}
    (h : nodes' = nodes ∨ nodes' = repoint key target nodes) {k : String}
    {exports : List (String × List Node)} (hextends : extension? nodes = some (k, exports)) :
    supplied nodes' exports = supplied nodes exports
      ∧ (extension? nodes' = some (k, exports)
        ∨ (k = key ∧ extension? nodes' = some (target, exports))) := by
  rcases h with rfl | rfl
  · exact ⟨rfl, .inl hextends⟩
  · refine ⟨supplied_repoint nodes exports, ?_⟩
    rw [extension?_repoint, hextends, Option.map_some]
    by_cases hkey : k = key
    · exact .inr ⟨hkey, by rw [if_pos hkey]⟩
    · exact .inl (by rw [if_neg hkey])

/-- The template under a key is the same in both stores, or is pointed at another key in the
second. -/
def Store.Repointed (key target : String) (store store' : Store) : Prop :=
  ∀ name : String, store'[name]? = store[name]?
    ∨ store'[name]? = store[name]?.map (repoint key target)

namespace Store.Repointed

variable {store store' : Store} {name : String} {nodes : Template}

theorem insert (h : store[name]? = some nodes) :
    store.Repointed key target (store.insert name (repoint key target nodes)) := by
  intro other
  rw [Std.ExtTreeMap.getElem?_insert]
  split
  · next heq =>
      obtain rfl : name = other := by simpa using heq
      exact .inr (by rw [h, Option.map_some])
  · exact .inl rfl

theorem missing (h : store.Repointed key target store') (hname : store[name]? = none) :
    store'[name]? = none := by
  refine (h name).elim (·.trans hname) fun heq => ?_
  rw [heq, hname, Option.map_none]

theorem stored (h : store.Repointed key target store') (hname : store[name]? = some nodes) :
    ∃ nodes', store'[name]? = some nodes' ∧ (nodes' = nodes ∨ nodes' = repoint key target nodes) := by
  rcases h name with heq | heq
  · exact ⟨nodes, heq.trans hname, .inl rfl⟩
  · exact ⟨_, heq.trans (by rw [hname, Option.map_some]), .inr rfl⟩

end Store.Repointed

end Repoint

section Through

variable {store store' : Store} {m b : String} {base lower : Template} {chain : List String}
  {nodes nodes' : Template} {exports : List (String × List Node)}

theorem inherit_of_extends_base (hbase : store[b]? = some base) (hroot : extension? base = none)
    (hextends : extension? nodes = some (b, exports)) (hb : b ∉ chain) :
    (inherit store chain nodes).result = layer (supplied nodes exports) base := by
  rw [inherit_of_base hextends hb hbase, inherit_of_root hroot]
  rfl

variable (hmiddle : store[m]? = some [.extend b []]) (hbase : store[b]? = some base)
  (hroot : extension? base = none)

include hmiddle hbase hroot

theorem ne_middle : b ≠ m := by
  rintro rfl
  rw [hmiddle] at hbase
  cases hbase
  cases hroot

/-- Neither the template in between nor the one below it can be pointed elsewhere. -/
theorem repointed_middle_base (hstore : store.Repointed m b store') :
    store'[m]? = some [.extend b []] ∧ store'[b]? = some base := by
  constructor
  · obtain ⟨middle, hmiddle', hsame⟩ := hstore.stored hmiddle
    have hrepoint : repoint m b [.extend b []] = [.extend b []] :=
      congrArg (fun key => [Node.extend key []]) (if_neg (ne_middle hmiddle hbase hroot))
    rw [hmiddle', hsame.elim id (·.trans hrepoint)]
  · obtain ⟨below, hbase', hsame⟩ := hstore.stored hbase
    rw [hbase', hsame.elim id (·.trans (repoint_of_root hroot))]

/-- In between the tree is composed on its own, before anything is put onto it. -/
theorem inherit_of_extends_middle (hextends : extension? nodes = some (m, exports))
    (hm : m ∉ chain) (hb : b ∉ chain) :
    (inherit store chain nodes).result = layer ∅ base >>= layer (supplied nodes exports) := by
  have hb' : b ∉ m :: chain := by
    rw [List.mem_cons, not_or]
    exact ⟨ne_middle hmiddle hbase hroot, hb⟩
  have hempty : supplied [Node.extend b []] [] = ∅ := supplied_of_no_block (by simp [Node.kind])
  rw [inherit_of_base hextends hm hmiddle, inherit_of_extends_base hbase hroot rfl hb', hempty]

/-- A cycle in the tree below is met in between. -/
theorem inherit_of_extends_middle_of_cycle (hcycle : (Assembly.within base).ReachesCycle base)
    (hextends : extension? nodes = some (m, exports)) (hm : m ∉ chain) (hb : b ∉ chain) :
    ∃ key, (inherit store chain nodes).result = .error (.compositionCycle key) := by
  rw [inherit_of_extends_middle hmiddle hbase hroot hextends hm hb]
  cases h : layer ∅ base with
  | error e =>
      obtain ⟨key, rfl, -, -⟩ := Assembly.exists_cycle_of_resolve_eq_error h
      exact ⟨key, rfl⟩
  | ok lower =>
      have hacyclic : ¬ (Assembly.onto ∅ base).ReachesCycle base := Assembly.not_reachesCycle h
      exact absurd hcycle hacyclic

variable (hlower : layer ∅ base = .ok lower) (honce : ((blocks base).map (·.1)).Nodup)

include hlower honce

theorem inherit_of_extends_middle_iff (hextends : extension? nodes = some (m, exports))
    (hm : m ∉ chain) (hb : b ∉ chain) (merged : Template) :
    (inherit store chain nodes).result = .ok merged
      ↔ layer (supplied nodes exports) base = .ok merged := by
  rw [inherit_of_extends_middle hmiddle hbase hroot hextends hm hb, hlower]
  exact layer_lower_iff _ hlower honce

/-- To point some of the templates of a store at the one below, and the template that is
built on them or not, changes nothing. -/
theorem inherit_repointed_iff (hstore : store.Repointed m b store') (hm : m ∉ chain)
    (hb : b ∉ chain) (hnodes : nodes' = nodes ∨ nodes' = repoint m b nodes) (merged : Template) :
    (inherit store chain nodes).result = .ok merged
      ↔ (inherit store' chain nodes').result = .ok merged := by
  obtain ⟨hmiddle', hbase'⟩ := repointed_middle_base hmiddle hbase hroot hstore
  induction chain, nodes using inherit.induct store generalizing nodes' merged with
  | case1 chain nodes hnone =>
      have hsame : nodes' = nodes := hnodes.elim id (·.trans (repoint_of_root hnone))
      rw [hsame, inherit_of_root hnone, inherit_of_root hnone]
  | case2 chain nodes key exports hextends ih =>
      obtain ⟨hsupplied, hpointed⟩ := extension?_of_repointed hnodes hextends
      by_cases hkey : key = m
      · subst hkey
        rw [inherit_of_extends_middle_iff hmiddle hbase hroot hlower honce hextends hm hb,
          ← hsupplied]
        rcases hpointed with hextends' | ⟨-, hextends'⟩
        · exact (inherit_of_extends_middle_iff hmiddle' hbase' hroot hlower honce hextends' hm hb
            merged).symm
        · rw [inherit_of_extends_base hbase' hroot hextends' hb]
      have hextends' : extension? nodes' = some (key, exports) :=
        hpointed.resolve_right fun h => hkey h.1
      by_cases hchain : key ∈ chain
      · rw [inherit_of_mem hextends hchain, inherit_of_mem hextends' hchain]
      by_cases hbelow : key = b
      · subst hbelow
        rw [inherit_of_extends_base hbase hroot hextends hb,
          inherit_of_extends_base hbase' hroot hextends' hb, hsupplied]
      cases hnext : store[key]? with
      | none =>
          rw [inherit_of_missing hextends hchain hnext,
            inherit_of_missing hextends' hchain (hstore.missing hnext)]
      | some next =>
          obtain ⟨next', hnext', hsame⟩ := hstore.stored hnext
          rw [inherit_of_base hextends hchain hnext, inherit_of_base hextends' hchain hnext',
            hsupplied, bind_eq_ok_iff, bind_eq_ok_iff]
          refine exists_congr fun below => and_congr_left' ?_
          exact ih hchain next hnext (by simp [hm, Ne.symm hkey]) (by simp [hb, Ne.symm hbelow])
            hsame below

theorem compose_repointed_iff (hstore : store.Repointed m b store') (hm : m ∉ chain)
    (hb : b ∉ chain) (hnodes : nodes' = nodes ∨ nodes' = repoint m b nodes) (tree : List Node) :
    (compose store chain nodes).result = .ok tree
      ↔ (compose store' chain nodes').result = .ok tree := by
  rw [compose_eq, compose_eq, bind_eq_ok_iff, bind_eq_ok_iff]
  refine exists_congr fun merged => and_congr_left' ?_
  exact inherit_repointed_iff hmiddle hbase hroot hlower honce hstore hm hb hnodes merged

/-- The two templates themselves are composed of the tree below alone. -/
theorem renderNamed_repointed_iff (hstore : store.Repointed m b store') (tags : Registry)
    (context : Context) (key text : String) :
    (tags.renderNamed store context key).result = .ok text
      ↔ (tags.renderNamed store' context key).result = .ok text := by
  obtain ⟨hmiddle', hbase'⟩ := repointed_middle_base hmiddle hbase hroot hstore
  by_cases hkey : key = m
  · subst hkey
    have hb : b ∉ [key] := by simpa using ne_middle hmiddle hbase hroot
    rw [result_renderNamed hmiddle, result_renderNamed hmiddle', compose_eq, compose_eq,
      inherit_of_extends_base hbase hroot rfl hb, inherit_of_extends_base hbase' hroot rfl hb]
  by_cases hbelow : key = b
  · subst hbelow
    rw [result_renderNamed hbase, result_renderNamed hbase', compose_eq, compose_eq,
      inherit_of_root hroot, inherit_of_root hroot]
  cases hstored : store[key]? with
  | none => rw [Registry.renderNamed, Registry.renderNamed, hstored, hstore.missing hstored]
  | some nodes =>
      obtain ⟨nodes', hstored', hsame⟩ := hstore.stored hstored
      rw [result_renderNamed hstored, result_renderNamed hstored', bind_eq_ok_iff, bind_eq_ok_iff]
      refine exists_congr fun tree => and_congr_left' ?_
      exact compose_repointed_iff hmiddle hbase hroot hlower honce hstore
        (by simpa using Ne.symm hkey) (by simpa using Ne.symm hbelow) hsame tree

end Through

/-- A template under `m` that does nothing but build on the one under `b`, which is built on
none and has no block twice, is not noticed, unless references among the blocks of `b` run
in a circle. Then everything renders as it does when it is built on `b` itself, and so it
does when only some of the templates are built so; and what a template supplies that is
built on `m` goes into the blocks of `b`. If the references do run in a circle, nothing that
is built on `m` can be rendered, whatever it supplies. -/
theorem render_through (tags : Registry) (store : Store) (context : Context) {m b : String}
    {base : Template} (hmiddle : store[m]? = some [.extend b []]) (hbase : store[b]? = some base)
    (hroot : extension? base = none) (honce : ((blocks base).map (·.1)).Nodup) :
    (¬ (Assembly.within base).ReachesCycle base →
        (∀ store', store.Repointed m b store' →
          (∀ nodes nodes', nodes' = nodes ∨ nodes' = repoint m b nodes →
            ∀ text, (tags.render store context nodes).result = .ok text
              ↔ (tags.render store' context nodes').result = .ok text)
          ∧ ∀ key text, (tags.renderNamed store context key).result = .ok text
            ↔ (tags.renderNamed store' context key).result = .ok text)
        ∧ ∀ nodes exports, extension? nodes = some (m, exports) →
          ∀ tree, (compose store [] nodes).result = .ok tree
            ↔ (Assembly.onto (supplied nodes exports) base).Inlines base tree)
      ∧ ((Assembly.within base).ReachesCycle base →
        ∀ nodes exports, extension? nodes = some (m, exports) →
          ∃ key, (tags.render store context nodes).result = .error (.compositionCycle key)) := by
  refine ⟨fun hacyclic => ?_, fun hcycle nodes exports hextends => ?_⟩
  · have hacyclic' : ¬ (Assembly.onto ∅ base).ReachesCycle base := hacyclic
    obtain ⟨lower, hlower⟩ : ∃ lower, layer ∅ base = .ok lower :=
      (Assembly.exists_resolve_eq_ok_iff (Assembly.onto ∅ base) base).mpr hacyclic'
    refine ⟨fun store' hstore => ⟨fun nodes nodes' hnodes text => ?_, fun key text => ?_⟩, ?_⟩
    · rw [Registry.render, Registry.render, result_renderFrom, result_renderFrom, bind_eq_ok_iff,
        bind_eq_ok_iff]
      refine exists_congr fun tree => and_congr_left' ?_
      exact compose_repointed_iff hmiddle hbase hroot hlower honce hstore List.not_mem_nil
        List.not_mem_nil hnodes tree
    · exact renderNamed_repointed_iff hmiddle hbase hroot hlower honce hstore tags context key text
    · intro nodes exports hextends tree
      rw [compose_eq, ← layer_bind_flatten_iff_inlines, bind_eq_ok_iff, bind_eq_ok_iff]
      refine exists_congr fun merged => and_congr_left' ?_
      exact inherit_of_extends_middle_iff hmiddle hbase hroot hlower honce hextends
        List.not_mem_nil List.not_mem_nil merged
  · obtain ⟨key, hkey⟩ := inherit_of_extends_middle_of_cycle hmiddle hbase hroot hcycle hextends
      List.not_mem_nil List.not_mem_nil
    refine ⟨key, ?_⟩
    rw [Registry.render, result_renderFrom, compose_eq, hkey]
    rfl

/-- A page with a headline that is shown twice, a template in between, and one with a name
that is built on it. -/
def headline : Template :=
  [.block "head" [.raw "Hello ", .slot "name"], .block "name" [.raw "you"], .slot "head"]

def headlineStore : Store :=
  .ofList [("page", headline), ("middle", [.extend "page" []]),
    ("mine", [.extend "middle" [("name", [.raw "me"])]])]

theorem render_through_headline :
    (Registry.builtin.render headlineStore ∅
      [.extend "mine" [("head", [.raw "Dear ", .slot "name"])]]).result
      = .ok "Dear memeDear me" := by
  have hflatten : flatten headline
      = .ok [.raw "Hello ", .raw "you", .raw "you", .raw "Hello ", .raw "you"] := by
    decide +kernel
  rw [Assembly.flatten_eq_resolve] at hflatten
  have hacyclic : ¬ (Assembly.within headline).ReachesCycle headline :=
    Assembly.not_reachesCycle hflatten
  have hmine : headlineStore["mine"]? = some [.extend "middle" [("name", [.raw "me"])]] := by
    decide +kernel
  have hthrough := @render_through Registry.builtin headlineStore ∅ "middle" "page" headline
    (by decide +kernel) (by decide +kernel) rfl (by decide)
  refine (((hthrough.1 hacyclic).1 _ (.insert hmine)).1 _ _ (.inl rfl) _).mpr ?_
  decide +kernel

/-- A block whose default is its own slot. -/
def selfReferring : Template :=
  [.block "a" [.slot "a"]]

def selfStore : Store :=
  .ofList [("page", selfReferring), ("middle", [Node.extend "page" []])]

/-- The circle is met in between, where nothing replaces the default; a template that does
renders only without. -/
theorem render_through_self :
    selfStore["middle"]? = some [.extend "page" []]
      ∧ selfStore["page"]? = some selfReferring
      ∧ extension? selfReferring = none
      ∧ ((blocks selfReferring).map (·.1)).Nodup
      ∧ (Registry.builtin.render selfStore ∅ [.extend "middle" [("a", [.raw "x"])]]).result
        = .error (.compositionCycle "a")
      ∧ (Registry.builtin.render selfStore ∅
          (repoint "middle" "page" [.extend "middle" [("a", [.raw "x"])]])).result
        = .ok "x" := by
  refine ⟨by decide +kernel, by decide +kernel, rfl, by decide, by decide +kernel, ?_⟩
  decide +kernel

end TemplateTree
