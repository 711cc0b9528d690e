import TemplateTree.Proofs.Reference

/-!
# Inheritance is inlining

Content that one template supplies for another is put in place in two stages.
The first leaves every content inside a block, so that a template further up
can still replace it, and the second takes the blocks away at the very end.
Neither stage is what a reader of a template has in mind, which is that a block
or a slot simply stands for its content. `Inlines` says just that, with no list
of active keys and no blocks left over. The two stages give what inlining gives,
and fail exactly if references lead to a cycle.

The way there is that the blocks the first stage leaves do not matter.
`splice` takes the blocks away at once; splicing what one assembly leaves is the
same, failures included, as running the assembly that splices as it goes
(`map_splice_resolve`). And what is left for the second stage holds no slot, so
all that it does is to splice.
-/

namespace TemplateTree

/-- The nodes with `content key` in the place of each slot and each block whose
key is in `replaced`; any other block gives way to its body. -/
def inline (replaced : Contents) (content : String → List Node) : List Node → List Node :=
  graft (fun key body => if key ∈ replaced then content key else body) content

/-- Inlining, to the bottom: the contents that are put in are themselves inlined
in the same way, and a key without content stands for nothing. -/
inductive Assembly.Inlines (a : Assembly) : List Node → List Node → Prop where
  | intro (nodes : List Node) (content : String → List Node)
      (absent : ∀ key ∈ needed a.replacements nodes, a.content? key = none → content key = [])
      (present : ∀ key ∈ needed a.replacements nodes, ∀ body,
        a.content? key = some body → Inlines a body (content key)) :
      Inlines a nodes (inline a.replacements content nodes)

/-- The nodes with the bodies of blocks in the place of the blocks, and nothing
in the place of slots. -/
def splice : List Node → List Node :=
  graft (fun _ body => body) fun _ => []

/-! ## Splicing -/

/-- The same content, with no blocks left around it. -/
def Assembly.spliced (a : Assembly) : Assembly := { a with marking := .splice }

theorem splice_wrap (marking : Marking) (key : String) (content : List Node) :
    splice (marking.wrap key content) = splice content := by
  cases marking with
  | keep => rw [Marking.wrap, splice, graft_singleton, Node.graft]
  | splice => rw [Marking.wrap]

/-- Splicing what is left around the content is to leave nothing around it. -/
theorem splice_fill (a : Assembly) (content : String → List Node) (nodes : List Node) :
    splice (a.fill content nodes) = a.spliced.fill (fun key => splice (content key)) nodes := by
  refine graft_graft (fun key body => ?_) (fun key => ?_) nodes
  · refine (splice_wrap a.marking key _).trans ?_
    show splice (if key ∈ a.replacements then content key else body)
      = if key ∈ a.replacements then splice (content key) else splice body
    split
    · rfl
    · rfl
  · exact splice_wrap a.marking key _

theorem map_settle {α β : Type} (f : α → β) (cause? : Option RenderError) (a : α) :
    (settle cause? a).map f = settle cause? (f a) := by
  cases cause? with
  | none => rfl
  | some e => rfl

theorem failure?_map {α β : Type} (f : α → β) (outcome : Except RenderError α) :
    failure? (outcome.map f) = failure? outcome := by
  cases outcome with
  | error e => rfl
  | ok a => rfl

theorem contentOf_map {f : List Node → List Node} (hnil : f [] = [])
    (outcome : Except RenderError (List Node)) :
    contentOf (outcome.map f) = f (contentOf outcome) := by
  cases outcome with
  | error e => rw [contentOf, hnil]; rfl
  | ok content => rfl

theorem splice_nil : splice [] = [] := by
  rw [splice, graft]

namespace Assembly

/-- The blocks an assembly leaves can be taken away afterwards or not be left in
the first place: the outcome is the same, and so is the failure. -/
theorem map_splice_resolve (a : Assembly) (active : List String) (nodes : List Node) :
    (a.resolve active nodes).map splice = a.spliced.resolve active nodes := by
  induction active, nodes using resolve.induct (a := a) with
  | case1 active nodes ih =>
      have henter : ∀ key, (a.enter active key).map splice = a.spliced.enter active key := by
        intro key
        have hcontent : a.spliced.content? key = (a.content? key).map id := by
          rw [Option.map_id]
          rfl
        exact map_enter splice_nil hcontent fun content hsome hactive =>
          ih key content hsome hactive
      rw [resolve_eq, resolve_eq, expand_eq, expand_eq, map_settle, splice_fill]
      simp only [← henter, failure?_map, contentOf_map splice_nil]
      rfl

/-! ## The second stage -/

/-- What is resolved with its blocks kept holds no slot. -/
theorem needed_empty_of_resolve {a : Assembly} (hmarking : a.marking = .keep)
    {active : List String} {nodes out : List Node} (h : a.resolve active nodes = .ok out) :
    needed ∅ out = [] := by
  have hwrap : ∀ key content, needed ∅ content = [] →
      needed ∅ (a.marking.wrap key content) = [] := by
    intro key content hcontent
    rw [hmarking, Marking.wrap, needed_singleton, Node.needed,
      if_neg Std.ExtTreeMap.not_mem_empty, hcontent]
  induction active, nodes using resolve.induct (a := a) generalizing out with
  | case1 active nodes ih =>
      have henter : ∀ key, needed ∅ (contentOf (a.enter active key)) = [] := by
        intro key
        cases hcontent : a.content? key with
        | none => rw [enter_of_none hcontent, contentOf, needed]
        | some content =>
            by_cases hactive : key ∈ active
            · rw [enter_of_mem hcontent hactive, contentOf, needed]
            · rw [enter_of_not_mem hcontent hactive]
              cases hinner : a.resolve (key :: active) content with
              | error e => rw [contentOf, needed]
              | ok inner => exact ih key content hcontent hactive hinner
      rw [resolve_eq, expand_eq_ok_iff] at h
      rw [h.2]
      refine needed_graft_eq_nil (fun key body hbody => hwrap key _ ?_)
        (fun key => hwrap key _ (henter key)) nodes
      split
      · exact henter key
      · exact hbody

/-- To take the blocks away from a tree without slots is to splice it. -/
theorem resolve_within_of_needed_empty {base nodes : List Node} {active : List String}
    (h : needed ∅ nodes = []) : (within base).resolve active nodes = .ok (splice nodes) := by
  have hneeded : needed (within base).replacements nodes = [] := h
  have hbody : (within base).onBlock (fun _ => []) = fun _ body => body := by
    funext key body
    show (if key ∈ (∅ : Contents) then [] else body) = body
    rw [if_neg Std.ExtTreeMap.not_mem_empty]
  rw [resolve_eq, expand_eq, hneeded, List.findSome?_nil, settle,
    fill_congr (g := fun _ => []) (by simp [hneeded]), fill, hbody]
  rfl

theorem flatten_of_hasBlocks {nodes : List Node} (h : hasBlocks nodes = false) :
    flatten nodes = .ok nodes := by
  rw [flatten, h]
  rfl

theorem flatten_eq_resolve (nodes : List Node) :
    flatten nodes = (within nodes).resolve [] nodes := by
  cases hblocks : hasBlocks nodes with
  | true => rw [flatten, if_pos hblocks]
  | false => rw [flatten_of_hasBlocks hblocks, resolve_of_hasBlocks hblocks]

/-- The tree without blocks of what has been put onto another tree is always
there. -/
theorem flatten_of_resolve {a : Assembly} (hmarking : a.marking = .keep)
    {active : List String} {nodes merged : List Node} (h : a.resolve active nodes = .ok merged) :
    flatten merged = .ok (splice merged) := by
  rw [flatten_eq_resolve]
  exact resolve_within_of_needed_empty (needed_empty_of_resolve hmarking h)

theorem resolve_onto_bind_resolve_within (supplied : Contents) (base nodes : List Node) :
    ((onto supplied base).resolve [] nodes >>= fun merged => (within merged).resolve [] merged)
      = (onto supplied base).spliced.resolve [] nodes := by
  rw [← map_splice_resolve]
  cases h : (onto supplied base).resolve [] nodes with
  | error e => rfl
  | ok merged => exact resolve_within_of_needed_empty (needed_empty_of_resolve rfl h)

/-! ## Inlining -/

theorem inlines_of_resolve {a : Assembly} {active : List String} {nodes out : List Node}
    (h : a.spliced.resolve active nodes = .ok out) : a.Inlines nodes out := by
  induction active, nodes using resolve.induct (a := a) generalizing out with
  | case1 active nodes ih =>
      rw [resolve_eq, expand_eq_ok_iff] at h
      obtain ⟨hok, rfl⟩ := h
      refine Inlines.intro nodes _ (fun key _ hnone => ?_) (fun key hkey body hbody => ?_)
      · rw [enter_of_none (a := a.spliced) hnone, contentOf]
      · obtain ⟨hactive, hinner⟩ :=
          resolve_of_failure?_enter (a := a.spliced) hbody (hok key hkey)
        exact ih key body hbody hactive hinner

/-- Inlining ends only if the references it follows do. -/
theorem Inlines.acc {a : Assembly} {nodes out : List Node} (h : a.Inlines nodes out) :
    ∀ key, a.RefersTo nodes key → Acc (fun other key => a.Refers key other) key := by
  induction h with
  | intro nodes content _ _ ih =>
      intro key hkey
      obtain ⟨body, hbody⟩ := Option.isSome_iff_exists.mp hkey.2
      refine Acc.intro key fun other hother => ?_
      obtain ⟨body', hbody', hrefers⟩ := hother
      obtain rfl : body = body' := Option.some.inj (hbody.symm.trans hbody')
      exact ih key hkey.1 body hbody other hrefers

theorem Inlines.not_reachesCycle {a : Assembly} {nodes out : List Node}
    (h : a.Inlines nodes out) : ¬ a.ReachesCycle nodes := by
  rintro ⟨key, ⟨first, hfirst, hpath⟩, hcycle⟩
  -- Accessibility goes along the path to the cycle, and there it descends for ever.
  have hacc : Acc (fun other key => a.Refers key other) key := by
    clear hcycle
    induction hpath with
    | refl => exact h.acc first hfirst
    | tail _ hstep ih => exact ih.inv hstep
  clear hpath
  induction hacc with
  | intro key _ ih =>
      obtain ⟨other, hother, hback⟩ := Relation.TransGen.head'_iff.mp hcycle
      exact ih other hother (Relation.TransGen.tail' hback hother)

theorem Inlines.unique {a : Assembly} {nodes out out' : List Node} (h : a.Inlines nodes out)
    (h' : a.Inlines nodes out') : out = out' := by
  induction h generalizing out' with
  | intro nodes content absent _ ih =>
      cases h' with
      | intro _ content' absent' present' =>
          refine fill_congr (a := ⟨a.replacements, ∅, .splice⟩) fun key hkey => ?_
          cases hbody : a.content? key with
          | none => rw [absent key hkey hbody, absent' key hkey hbody]
          | some body => exact ih key hkey body hbody (present' key hkey body hbody)

theorem resolve_spliced_eq_ok_iff (a : Assembly) (nodes out : List Node) :
    a.spliced.resolve [] nodes = .ok out ↔ a.Inlines nodes out := by
  constructor
  · exact inlines_of_resolve
  · intro h
    obtain ⟨out', hout'⟩ := (exists_resolve_eq_ok_iff a.spliced nodes).mpr h.not_reachesCycle
    rw [hout', (inlines_of_resolve hout').unique h]

/-- Putting `supplied` into a tree and then taking the blocks away succeeds
exactly if no cycle of references can be reached from the tree, and then gives
the tree with all content inlined. -/
theorem resolve_onto_within_iff (supplied : Contents) (base : List Node) :
    ((∃ out, ((onto supplied base).resolve [] base >>= fun merged =>
          (within merged).resolve [] merged) = .ok out)
        ↔ ¬ (onto supplied base).ReachesCycle base)
      ∧ ∀ out, ((onto supplied base).resolve [] base >>= fun merged =>
          (within merged).resolve [] merged) = .ok out
        ↔ (onto supplied base).Inlines base out := by
  rw [resolve_onto_bind_resolve_within]
  exact ⟨exists_resolve_eq_ok_iff (onto supplied base).spliced base,
    resolve_spliced_eq_ok_iff (onto supplied base) base⟩

end Assembly

end TemplateTree
