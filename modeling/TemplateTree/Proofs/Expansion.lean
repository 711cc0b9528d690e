import TemplateTree.Proofs.Graft

/-!
# Assembling, one level deep

`expand` asks for the content of some keys and rewrites the tree with it.
`needed` lists those keys in the order in which it asks, and `fill` is the
rewriting once every content is there, a graft. `expand_eq` says that this is
all: `expand` fails with the first failure among the needed keys, and is `fill`
when there is none. Which of several failures comes out is decided by the order
of `needed` alone, so everything after this file reasons about lists of keys and
grafts and never opens `expand` again.

A tree in which nothing is needed when nothing is replaced holds no slot; that
is how `needed ∅ nodes = []` is read below.
-/

namespace TemplateTree

mutual

/-- The keys whose content goes into a node when the keys of `replaced` are
replaced: those of its slots and of its replaced blocks, but not of what is
inside a replaced block. They stand in the order in which `expand` asks for
them, the arms of a conditional from the last to the first. -/
def Node.needed (replaced : Contents) : Node → List String
  | .block key body => if key ∈ replaced then [key] else needed replaced body
  | .slot key => [key]
  | .tag _ params => needed replaced params
  | .loop _ _ body => needed replaced body
  | .conditional chain => chain.needed replaced
  | .raw _ | .var _ | .constant _ | .extend _ _ => []

def Chain.needed (replaced : Contents) : Chain → List String
  | .last _ body => TemplateTree.needed replaced body
  | .more _ body next => next.needed replaced ++ TemplateTree.needed replaced body

def needed (replaced : Contents) : List Node → List String
  | [] => []
  | node :: nodes => node.needed replaced ++ needed replaced nodes

end

/-- What stands for a block when `content` gives the content of each key. -/
def Assembly.onBlock (a : Assembly) (content : String → List Node) (key : String)
    (body : List Node) : List Node :=
  a.marking.wrap key (if key ∈ a.replacements then content key else body)

/-- What stands for a slot when `content` gives the content of each key. -/
def Assembly.onSlot (a : Assembly) (content : String → List Node) (key : String) : List Node :=
  a.marking.wrap key (content key)

/-- The nodes with the given content in their blocks and slots. -/
def Assembly.fill (a : Assembly) (content : String → List Node) (nodes : List Node) : List Node :=
  graft (a.onBlock content) (a.onSlot content) nodes

/-- Fails as told, else gives the value. -/
def settle {α : Type} (failure? : Option RenderError) (value : α) : Except RenderError α :=
  match failure? with
  | some e => .error e
  | none => .ok value

/-- Why an outcome is none. -/
def failure? {α : Type} : Except RenderError α → Option RenderError
  | .error e => some e
  | .ok _ => none

/-- The content that an outcome gives; none if it failed. -/
def contentOf : Except RenderError (List Node) → List Node
  | .error _ => []
  | .ok content => content

theorem bind_eq_ok_iff {ε α β : Type} {x : Except ε α} {f : α → Except ε β} {b : β} :
    x >>= f = .ok b ↔ ∃ a, x = .ok a ∧ f a = .ok b := by
  constructor
  · intro h
    cases x with
    | error e => cases h
    | ok a => exact ⟨a, rfl, h⟩
  · rintro ⟨a, rfl, h⟩
    exact h

theorem bind_eq_error_iff {ε α β : Type} {x : Except ε α} {f : α → Except ε β} {e : ε} :
    x >>= f = .error e ↔ x = .error e ∨ ∃ a, x = .ok a ∧ f a = .error e := by
  constructor
  · intro h
    cases x with
    | error e' =>
        cases h
        exact .inl rfl
    | ok a => exact .inr ⟨a, rfl, h⟩
  · rintro (rfl | ⟨a, rfl, h⟩)
    · rfl
    · exact h

theorem bind_pure_eq_error_iff {ε α β : Type} {x : Except ε α} {f : α → β} {e : ε} :
    (x >>= fun a => pure (f a)) = .error e ↔ x = .error e := by
  cases x with
  | error e' =>
      show Except.error e' = .error e ↔ _
      rw [Except.error.injEq, Except.error.injEq]
  | ok a =>
      constructor
      · intro h
        cases h
      · intro h
        cases h

theorem map_eq_ok_iff {ε α β : Type} {x : Except ε α} {f : α → β} {b : β} :
    x.map f = .ok b ↔ ∃ a, x = .ok a ∧ f a = b := by
  constructor
  · intro h
    cases x with
    | error e => cases h
    | ok a => exact ⟨a, rfl, Except.ok.inj h⟩
  · rintro ⟨a, rfl, rfl⟩
    rfl

theorem mapError_eq_ok_iff {ε ε' α : Type} {f : ε → ε'} {result : Except ε α} {a : α} :
    result.mapError f = .ok a ↔ result = .ok a := by
  cases result with
  | error e =>
      constructor
      · intro h
        cases h
      · intro h
        cases h
  | ok a' =>
      show Except.ok a' = .ok a ↔ _
      rw [Except.ok.injEq, Except.ok.injEq]

theorem settle_bind {α β : Type} (first? second? : Option RenderError) (a : α)
    {f : α → Except RenderError β} {b : β} (hf : f a = settle second? b) :
    (settle first? a >>= f) = settle (first?.or second?) b := by
  cases first? with
  | none => exact hf
  | some e => rfl

theorem settle_bind_pure {α β : Type} (first? : Option RenderError) (a : α) (f : α → β) :
    (settle first? a >>= fun a => pure (f a)) = settle first? (f a) := by
  cases first? with
  | none => rfl
  | some e => rfl

theorem settle_failure?_contentOf (outcome : Except RenderError (List Node)) :
    settle (failure? outcome) (contentOf outcome) = outcome := by
  cases outcome with
  | error e => rfl
  | ok content => rfl

section Expand

variable (a : Assembly) (enter : String → Except RenderError (List Node))

mutual

theorem Node.expand_eq (node : Node) :
    node.expand a enter
      = settle ((node.needed a.replacements).findSome? fun key => failure? (enter key))
          (node.graft (a.onBlock fun key => contentOf (enter key))
            (a.onSlot fun key => contentOf (enter key))) := by
  match node with
  | .block key body =>
      rw [Node.expand, Assembly.place, Node.needed, Node.graft, Assembly.onBlock]
      by_cases hkey : key ∈ a.replacements
      · rw [if_pos hkey, if_pos hkey, if_pos hkey, List.findSome?_singleton,
          ← settle_bind_pure, settle_failure?_contentOf]
      · rw [if_neg hkey, if_neg hkey, if_neg hkey, expand_eq body, settle_bind_pure,
          Assembly.fill]
  | .slot key =>
      rw [Node.expand, Assembly.place, Node.needed, Node.graft, Assembly.onSlot,
        List.findSome?_singleton,
        ← settle_bind_pure, settle_failure?_contentOf]
  | .tag name params =>
      rw [Node.expand, Node.needed, Node.graft, expand_eq params, settle_bind_pure,
        Assembly.fill]
  | .loop item source body =>
      rw [Node.expand, Node.needed, Node.graft, expand_eq body, settle_bind_pure,
        Assembly.fill]
  | .conditional chain =>
      rw [Node.expand, Node.needed, Node.graft, chain.expand_eq, settle_bind_pure]
  | .raw _ | .var _ | .constant _ | .extend _ _ =>
      rw [Node.expand, Node.needed, Node.graft]
      rfl

theorem Chain.expand_eq (chain : Chain) :
    chain.expand a enter
      = settle ((chain.needed a.replacements).findSome? fun key => failure? (enter key))
          (chain.graft (a.onBlock fun key => contentOf (enter key))
            (a.onSlot fun key => contentOf (enter key))) := by
  match chain with
  | .last condition body =>
      rw [Chain.expand, Chain.needed, Chain.graft, TemplateTree.expand_eq body, settle_bind_pure,
        Assembly.fill]
  | .more condition body next =>
      rw [Chain.expand, Chain.needed, Chain.graft, List.findSome?_append, next.expand_eq]
      refine settle_bind _ _ _ ?_
      rw [TemplateTree.expand_eq body, settle_bind_pure, Assembly.fill]

/-- Assembling fails with the first failure among the needed keys, and fills in
what they give when there is none. -/
theorem expand_eq (nodes : List Node) :
    expand a enter nodes
      = settle ((needed a.replacements nodes).findSome? fun key => failure? (enter key))
          (a.fill (fun key => contentOf (enter key)) nodes) := by
  match nodes with
  | [] =>
      rw [expand, needed, Assembly.fill, graft]
      rfl
  | node :: nodes =>
      rw [expand, needed, Assembly.fill, graft, List.findSome?_append, node.expand_eq]
      refine settle_bind _ _ _ ?_
      rw [expand_eq nodes, settle_bind_pure, Assembly.fill]

end

end Expand

/-- Assembling succeeds exactly if every needed key gives its content. -/
theorem expand_eq_ok_iff {a : Assembly} {enter : String → Except RenderError (List Node)}
    {nodes out : List Node} :
    expand a enter nodes = .ok out ↔
      (∀ key ∈ needed a.replacements nodes, failure? (enter key) = none)
        ∧ out = a.fill (fun key => contentOf (enter key)) nodes := by
  rw [expand_eq, ← List.findSome?_eq_none_iff]
  cases (needed a.replacements nodes).findSome? fun key => failure? (enter key) with
  | none => simp [settle, eq_comm]
  | some e => simp [settle]

/-- A failure to assemble is the failure of a needed key. -/
theorem exists_of_expand_eq_error {a : Assembly}
    {enter : String → Except RenderError (List Node)} {nodes : List Node} {e : RenderError}
    (h : expand a enter nodes = .error e) :
    ∃ key ∈ needed a.replacements nodes, enter key = .error e := by
  rw [expand_eq] at h
  cases hfirst : (needed a.replacements nodes).findSome? fun key => failure? (enter key) with
  | none => rw [hfirst] at h; cases h
  | some e' =>
      rw [hfirst] at h
      cases h
      obtain ⟨key, hkey, hfail⟩ := List.exists_of_findSome?_eq_some hfirst
      refine ⟨key, hkey, ?_⟩
      cases houtcome : enter key with
      | ok content => rw [houtcome] at hfail; cases hfail
      | error e' => rw [houtcome] at hfail; cases hfail; rfl

/-! ## Which keys are needed -/

mutual

theorem Node.needed_of_hasBlocks {replaced : Contents} {node : Node}
    (h : node.hasBlocks = false) : node.needed replaced = [] := by
  match node with
  | .block _ _ | .slot _ => cases h
  | .tag name params => rw [Node.hasBlocks] at h; rw [Node.needed, needed_of_hasBlocks h]
  | .loop item source body => rw [Node.hasBlocks] at h; rw [Node.needed, needed_of_hasBlocks h]
  | .conditional chain => rw [Node.hasBlocks] at h; rw [Node.needed, chain.needed_of_hasBlocks h]
  | .raw _ | .var _ | .constant _ | .extend _ _ => rw [Node.needed]

theorem Chain.needed_of_hasBlocks {replaced : Contents} {chain : Chain}
    (h : chain.hasBlocks = false) : chain.needed replaced = [] := by
  match chain with
  | .last condition body =>
      rw [Chain.hasBlocks] at h
      rw [Chain.needed, TemplateTree.needed_of_hasBlocks h]
  | .more condition body next =>
      rw [Chain.hasBlocks, Bool.or_eq_false_iff] at h
      rw [Chain.needed, TemplateTree.needed_of_hasBlocks h.1, next.needed_of_hasBlocks h.2,
        List.append_nil]

/-- A tree without blocks and slots needs nothing. -/
theorem needed_of_hasBlocks {replaced : Contents} {nodes : List Node}
    (h : hasBlocks nodes = false) : needed replaced nodes = [] := by
  match nodes with
  | [] => rw [needed]
  | node :: nodes =>
      rw [hasBlocks, Bool.or_eq_false_iff] at h
      rw [needed, node.needed_of_hasBlocks h.1, needed_of_hasBlocks h.2, List.append_nil]

end

section Replaced

variable {upper lower replaced : Contents}

mutual

theorem Node.mem_needed (hreplaced : ∀ key, key ∈ replaced ↔ key ∈ upper ∨ key ∈ lower)
    {node : Node} {key : String} (h : key ∈ node.needed replaced) :
    key ∈ upper ∨ key ∈ node.needed lower := by
  match node with
  | .block k body =>
      rw [Node.needed] at h ⊢
      split at h
      · next hk =>
          obtain rfl := List.mem_singleton.mp h
          rcases (hreplaced key).mp hk with hupper | hlower
          · exact .inl hupper
          · rw [if_pos hlower]
            exact .inr h
      · next hk =>
          rw [if_neg fun hlower => hk ((hreplaced k).mpr (.inr hlower))]
          exact mem_needed hreplaced h
  | .slot _ => exact .inr h
  | .tag _ params => rw [Node.needed] at h ⊢; exact mem_needed hreplaced h
  | .loop _ _ body => rw [Node.needed] at h ⊢; exact mem_needed hreplaced h
  | .conditional chain => rw [Node.needed] at h ⊢; exact chain.mem_needed hreplaced h
  | .raw _ | .var _ | .constant _ | .extend _ _ => rw [Node.needed] at h; cases h

theorem Chain.mem_needed (hreplaced : ∀ key, key ∈ replaced ↔ key ∈ upper ∨ key ∈ lower)
    {chain : Chain} {key : String} (h : key ∈ chain.needed replaced) :
    key ∈ upper ∨ key ∈ chain.needed lower := by
  match chain with
  | .last _ body => rw [Chain.needed] at h ⊢; exact TemplateTree.mem_needed hreplaced h
  | .more _ body next =>
      rw [Chain.needed, List.mem_append] at h ⊢
      rcases h with h | h
      · exact (next.mem_needed hreplaced h).imp_right .inl
      · exact (TemplateTree.mem_needed hreplaced h).imp_right .inr

/-- To replace more keys is to need those keys, and otherwise no more than
before. -/
theorem mem_needed (hreplaced : ∀ key, key ∈ replaced ↔ key ∈ upper ∨ key ∈ lower)
    {nodes : List Node} {key : String} (h : key ∈ needed replaced nodes) :
    key ∈ upper ∨ key ∈ needed lower nodes := by
  match nodes with
  | [] => rw [needed] at h; cases h
  | node :: nodes =>
      rw [needed, List.mem_append] at h ⊢
      rcases h with h | h
      · exact (node.mem_needed hreplaced h).imp_right .inl
      · exact (mem_needed hreplaced h).imp_right .inr

end

end Replaced

section Graft

variable {onBlock : String → List Node → List Node} {onSlot : String → List Node}

@[simp] theorem needed_singleton (replaced : Contents) (node : Node) :
    needed replaced [node] = node.needed replaced := by
  rw [needed, needed, List.append_nil]

theorem needed_append (replaced : Contents) (xs ys : List Node) :
    needed replaced (xs ++ ys) = needed replaced xs ++ needed replaced ys := by
  induction xs with
  | nil => rw [needed, List.nil_append, List.nil_append]
  | cons node xs ih => rw [List.cons_append, needed, needed, ih, List.append_assoc]

section Keys

variable {replaced replaced' : Contents} {keysOf : String → List String}

mutual

theorem Node.needed_graft
    (hb : ∀ key body body', needed replaced' body' = (needed replaced body).flatMap keysOf →
      needed replaced' (onBlock key body')
        = ((Node.block key body).needed replaced).flatMap keysOf)
    (hs : ∀ key, needed replaced' (onSlot key) = keysOf key) (node : Node) :
    needed replaced' (node.graft onBlock onSlot) = (node.needed replaced).flatMap keysOf := by
  match node with
  | .block key body => rw [Node.graft]; exact hb key body _ (needed_graft hb hs body)
  | .slot key => rw [Node.graft, Node.needed, List.flatMap_singleton]; exact hs key
  | .tag name params =>
      rw [Node.graft, needed_singleton, Node.needed, Node.needed, needed_graft hb hs params]
  | .loop item source body =>
      rw [Node.graft, needed_singleton, Node.needed, Node.needed, needed_graft hb hs body]
  | .conditional chain =>
      rw [Node.graft, needed_singleton, Node.needed, Node.needed, chain.needed_graft hb hs]
  | .raw _ | .var _ | .constant _ | .extend _ _ =>
      rw [Node.graft, needed_singleton, Node.needed, Node.needed, List.flatMap_nil]

theorem Chain.needed_graft
    (hb : ∀ key body body', needed replaced' body' = (needed replaced body).flatMap keysOf →
      needed replaced' (onBlock key body')
        = ((Node.block key body).needed replaced).flatMap keysOf)
    (hs : ∀ key, needed replaced' (onSlot key) = keysOf key) (chain : Chain) :
    (chain.graft onBlock onSlot).needed replaced' = (chain.needed replaced).flatMap keysOf := by
  match chain with
  | .last condition body =>
      rw [Chain.graft, Chain.needed, Chain.needed, TemplateTree.needed_graft hb hs body]
  | .more condition body next =>
      rw [Chain.graft, Chain.needed, Chain.needed, TemplateTree.needed_graft hb hs body,
        next.needed_graft hb hs, List.flatMap_append]

/-- What a grafted tree needs, key by key: if what stands for a block or a slot needs
`keysOf` of the keys that the block or the slot needed, so does the tree. -/
theorem needed_graft
    (hb : ∀ key body body', needed replaced' body' = (needed replaced body).flatMap keysOf →
      needed replaced' (onBlock key body')
        = ((Node.block key body).needed replaced).flatMap keysOf)
    (hs : ∀ key, needed replaced' (onSlot key) = keysOf key) (nodes : List Node) :
    needed replaced' (graft onBlock onSlot nodes) = (needed replaced nodes).flatMap keysOf := by
  match nodes with
  | [] => rw [graft, needed, needed, List.flatMap_nil]
  | node :: nodes =>
      rw [graft, needed_append, node.needed_graft hb hs, needed_graft hb hs nodes, needed,
        List.flatMap_append]

end

end Keys

/-- A graft that puts no slot anywhere leaves none. -/
theorem needed_graft_eq_nil
    (hb : ∀ key body, needed ∅ body = [] → needed ∅ (onBlock key body) = [])
    (hs : ∀ key, needed ∅ (onSlot key) = []) (nodes : List Node) :
    needed ∅ (graft onBlock onSlot nodes) = [] := by
  have hnil : ∀ keys : List String, keys.flatMap (fun _ => ([] : List String)) = [] :=
    fun keys => List.flatMap_eq_nil_iff.mpr fun _ _ => rfl
  have hneeded : needed ∅ (graft onBlock onSlot nodes) = (needed ∅ nodes).flatMap fun _ => [] := by
    refine needed_graft (fun key body body' hbody => ?_) hs nodes
    rw [hnil] at hbody ⊢
    exact hb key body' hbody
  rw [hneeded, hnil]

end Graft

/-! ## Filling -/

section Fill

variable {a : Assembly} {f g : String → List Node}

mutual

theorem Node.fill_congr {node : Node}
    (h : ∀ key ∈ node.needed a.replacements, f key = g key) :
    node.graft (a.onBlock f) (a.onSlot f) = node.graft (a.onBlock g) (a.onSlot g) := by
  match node with
  | .block key body =>
      rw [Node.needed] at h
      rw [Node.graft, Node.graft, Assembly.onBlock, Assembly.onBlock]
      by_cases hkey : key ∈ a.replacements
      · rw [if_pos hkey] at h
        rw [if_pos hkey, if_pos hkey, h key List.mem_cons_self]
      · rw [if_neg hkey] at h
        have hbody := fill_congr h
        rw [Assembly.fill, Assembly.fill] at hbody
        rw [if_neg hkey, if_neg hkey, hbody]
  | .slot key =>
      rw [Node.needed] at h
      rw [Node.graft, Node.graft, Assembly.onSlot, Assembly.onSlot, h key List.mem_cons_self]
  | .tag name params =>
      rw [Node.needed] at h
      exact congrArg (fun nodes => [Node.tag name nodes]) (fill_congr h)
  | .loop item source body =>
      rw [Node.needed] at h
      exact congrArg (fun nodes => [Node.loop item source nodes]) (fill_congr h)
  | .conditional chain =>
      rw [Node.needed] at h
      rw [Node.graft, Node.graft, chain.fill_congr h]
  | .raw _ | .var _ | .constant _ | .extend _ _ => rw [Node.graft, Node.graft]

theorem Chain.fill_congr {chain : Chain}
    (h : ∀ key ∈ chain.needed a.replacements, f key = g key) :
    chain.graft (a.onBlock f) (a.onSlot f) = chain.graft (a.onBlock g) (a.onSlot g) := by
  match chain with
  | .last condition body =>
      rw [Chain.needed] at h
      exact congrArg (Chain.last condition) (TemplateTree.fill_congr h)
  | .more condition body next =>
      rw [Chain.needed, List.forall_mem_append] at h
      rw [Chain.graft, Chain.graft, next.fill_congr h.1]
      exact congrArg (Chain.more condition · _) (TemplateTree.fill_congr h.2)

/-- Only the needed content counts. -/
theorem fill_congr {nodes : List Node}
    (h : ∀ key ∈ needed a.replacements nodes, f key = g key) :
    a.fill f nodes = a.fill g nodes := by
  match nodes with
  | [] => rw [Assembly.fill, Assembly.fill, graft, graft]
  | node :: nodes =>
      rw [needed, List.forall_mem_append] at h
      rw [Assembly.fill, Assembly.fill, graft, graft, node.fill_congr h.1]
      exact congrArg (_ ++ ·) (fill_congr h.2)

end

end Fill

end TemplateTree
