import TemplateTree.Proofs.ExtendChain

/-!
# A chain of templates is one template

Every template of a chain may replace content that the ones below it supply, and
the one furthest up wins. This file turns that into an equation: as long as the
contents supplied above the last link bring no blocks and slots of their own,
the whole chain composes to what a single template composes to that is built on
the end of the chain and supplies, for each key, the content furthest up.

The step is `layer_layer`, two layers in one. What the lower layer leaves is a
tree of blocks without slots, each of which holds content of that layer or a
default, and the upper layer then exchanges the contents of its own keys
(`override`). Run as one, the two meet the same keys in the same places, except
that a key of the upper layer is not entered any more; so the merged run has
fewer keys to enter than the lower layer had, and finds no cycle where that one
found none. Nothing is said of chains that fail: the merged template can do
without content in which a cycle is.
-/

namespace TemplateTree

/-- The tree of blocks with the given contents in place of their own. -/
def override (contents : Contents) : List Node → List Node :=
  graft (fun key body => [.block key (contents[key]?.getD body)])
    fun key => [.block key (contents[key]?.getD [])]

/-- Several contents in one; for each key the first that has any counts. -/
def merged (contents : List Contents) : Contents :=
  contents.foldr (fun upper lower => lower ∪ upper) ∅

theorem getElem?_merged (contents : List Contents) (key : String) :
    (merged contents)[key]? = contents.findSome? (·[key]?) := by
  induction contents with
  | nil => rw [merged, List.foldr_nil, List.findSome?_nil, Std.ExtTreeMap.getElem?_empty]
  | cons upper contents ih =>
      rw [merged] at ih ⊢
      rw [List.foldr_cons, Std.ExtTreeMap.getElem?_union, ih, List.findSome?_cons]
      cases upper[key]? with
      | none => rfl
      | some content => rfl

theorem merged_cons (upper : Contents) (contents : List Contents) :
    merged (upper :: contents) = merged contents ∪ upper :=
  List.foldr_cons

theorem merged_singleton (contents : Contents) : merged [contents] = contents := by
  refine Std.ExtTreeMap.ext_getElem? fun key => ?_
  rw [getElem?_merged, List.findSome?_singleton]

/-- No content brings blocks or slots of its own. -/
def BlockFree (contents : Contents) : Prop :=
  ∀ (key : String) (content : List Node), contents[key]? = some content → hasBlocks content = false

theorem blockFree_iff {contents : Contents} :
    BlockFree contents ↔ ∀ pair ∈ contents.toList, hasBlocks pair.2 = false := by
  constructor
  · intro h pair hpair
    exact h pair.1 pair.2 (Std.ExtTreeMap.mem_toList_iff_getElem?_eq_some.mp hpair)
  · intro h key content hcontent
    exact h (key, content) (Std.ExtTreeMap.mem_toList_iff_getElem?_eq_some.mpr hcontent)

instance (contents : Contents) : Decidable (BlockFree contents) :=
  decidable_of_iff _ blockFree_iff.symm

/-! ## Two layers are one -/

section Layers

variable {upper lower : Contents} {root : List Node}

theorem content?_onto_union (key : String) :
    (Assembly.onto (lower ∪ upper) root).content? key
      = upper[key]?.or ((Assembly.onto lower root).content? key) := by
  rw [Assembly.content?, Assembly.content?, Assembly.onto, Assembly.onto,
    Std.ExtTreeMap.getElem?_union]
  cases upper[key]? with
  | none => rfl
  | some content => rfl

/-- Exchanging contents in a tree that has been filled is to fill it with those
contents, the others exchanged throughout. -/
theorem override_fill (content : String → List Node) (nodes : List Node) :
    override upper ((Assembly.onto lower root).fill content nodes)
      = (Assembly.onto (lower ∪ upper) root).fill
          (fun key => upper[key]?.getD (override upper (content key))) nodes := by
  refine graft_graft (fun key body => ?_) (fun key => ?_) nodes
  · show override upper [.block key (if key ∈ lower then content key else body)]
      = [.block key (if key ∈ lower ∪ upper then upper[key]?.getD (override upper (content key))
          else override upper body)]
    rw [override, graft_singleton, Node.graft]
    cases hupper : upper[key]? with
    | some replacement =>
        rw [if_pos (Std.ExtTreeMap.mem_union_of_right (mem_of_getElem?_eq_some hupper)),
          Option.getD_some, Option.getD_some]
    | none =>
        have hmem : key ∈ lower ∪ upper ↔ key ∈ lower := by
          rw [Std.ExtTreeMap.mem_union_iff, or_iff_left (not_mem_of_getElem?_eq_none hupper)]
        rw [Option.getD_none, Option.getD_none]
        by_cases hlower : key ∈ lower
        · rw [if_pos hlower, if_pos (hmem.mpr hlower)]
        · rw [if_neg hlower, if_neg fun h => hlower (hmem.mp h)]
  · show override upper [.block key (content key)]
      = [.block key (upper[key]?.getD (override upper (content key)))]
    rw [override, graft_singleton, Node.graft]

/-- Exchanging contents is filling, if each key of them is given its own. -/
theorem fill_onto_eq_override (base nodes : List Node) :
    (Assembly.onto upper base).fill (fun key => upper[key]?.getD []) nodes
      = override upper nodes := by
  have hblock : (Assembly.onto upper base).onBlock (fun key => upper[key]?.getD [])
      = fun key body => [.block key (upper[key]?.getD body)] := by
    funext key body
    show [Node.block key (if key ∈ upper then upper[key]?.getD [] else body)]
      = [.block key (upper[key]?.getD body)]
    split
    · next hmem =>
        obtain ⟨content, hcontent⟩ := mem_iff_getElem?_eq_some.mp hmem
        rw [hcontent, Option.getD_some, Option.getD_some]
    · next hmem => rw [Std.ExtTreeMap.getElem?_eq_none hmem, Option.getD_none]
  rw [Assembly.fill, hblock]
  rfl

/-- The upper layer on its own. Since the tree below holds no slots, the keys it
needs are keys of its contents, and those are taken over as they are. -/
theorem layer_of_needed_empty (hfree : BlockFree upper) {base : List Node}
    (hslot : needed ∅ base = []) : layer upper base = .ok (override upper base) := by
  have hneeded : ∀ key ∈ needed upper base, ∃ content, upper[key]? = some content
      ∧ (Assembly.onto upper base).enter [] key = .ok content := by
    intro key hkey
    have hmem : key ∈ upper := by
      have h : key ∈ upper ∨ key ∈ needed ∅ base := mem_needed (fun key => by simp) hkey
      rw [hslot] at h
      exact h.resolve_right List.not_mem_nil
    obtain ⟨content, hcontent⟩ := mem_iff_getElem?_eq_some.mp hmem
    have hcontent? : (Assembly.onto upper base).content? key = some content := by
      rw [Assembly.content?, Assembly.onto, hcontent]
      rfl
    exact ⟨content, hcontent,
      Assembly.enter_of_hasBlocks hcontent? List.not_mem_nil (hfree key content hcontent)⟩
  rw [layer, ← fill_onto_eq_override base]
  refine Assembly.resolve_eq_ok_of_enter fun key hkey => ?_
  obtain ⟨content, hcontent, henter⟩ := hneeded key hkey
  rw [henter, hcontent, Option.getD_some]

/-- Both layers at once, inside the content of some keys. The keys that are
active in the merged run were active in the lower layer, and none is a key of
the upper one, whose contents are taken over without being entered. -/
theorem resolve_union (hfree : BlockFree upper) {active active' : List String}
    {nodes out : List Node} (h : (Assembly.onto lower root).resolve active nodes = .ok out)
    (hactive : ∀ key ∈ active', key ∈ active ∧ key ∉ upper) :
    (Assembly.onto (lower ∪ upper) root).resolve active' nodes = .ok (override upper out) := by
  induction active, nodes using Assembly.resolve.induct (Assembly.onto lower root)
    generalizing active' out with
  | case1 active nodes ih =>
      rw [Assembly.resolve_eq, expand_eq_ok_iff] at h
      obtain ⟨hok, rfl⟩ := h
      have henter : ∀ key ∈ needed (lower ∪ upper) nodes,
          (Assembly.onto (lower ∪ upper) root).enter active' key
            = .ok (upper[key]?.getD
                (override upper (contentOf ((Assembly.onto lower root).enter active key)))) := by
        intro key hkey
        cases hupper : upper[key]? with
        | some content =>
            -- Whatever the lower layer found here, the merged run takes the content of
            -- the upper one, in which nothing is left to enter.
            have hcontent : (Assembly.onto (lower ∪ upper) root).content? key = some content := by
              rw [content?_onto_union, hupper, Option.some_or]
            have hnot : key ∉ active' := fun hmem =>
              (hactive key hmem).2 (mem_of_getElem?_eq_some hupper)
            rw [Option.getD_some]
            exact Assembly.enter_of_hasBlocks hcontent hnot (hfree key content hupper)
        | none =>
            -- The lower layer needs the key as well and has entered it, so the
            -- induction applies one key further inside.
            have hcontent : (Assembly.onto (lower ∪ upper) root).content? key
                = (Assembly.onto lower root).content? key := by
              rw [content?_onto_union, hupper, Option.none_or]
            have hnot : key ∉ upper := not_mem_of_getElem?_eq_none hupper
            have hneeded : key ∈ needed lower nodes :=
              (mem_needed (fun key => by rw [Std.ExtTreeMap.mem_union_iff, or_comm])
                hkey).resolve_left hnot
            rw [Option.getD_none]
            cases hlower : (Assembly.onto lower root).content? key with
            | none =>
                rw [Assembly.enter_of_none (hcontent.trans hlower), Assembly.enter_of_none hlower,
                  contentOf, override, graft]
            | some content =>
                obtain ⟨hentered, hinner⟩ :=
                  Assembly.resolve_of_failure?_enter hlower (hok key hneeded)
                have hentered' : key ∉ active' := fun hmem => hentered (hactive key hmem).1
                rw [Assembly.enter_of_not_mem (hcontent.trans hlower) hentered']
                refine ih key content hlower hentered hinner ?_
                rw [List.forall_mem_cons]
                exact ⟨⟨List.mem_cons_self, hnot⟩, fun other hother =>
                  (hactive other hother).imp_left (List.mem_cons_of_mem key)⟩
      rw [override_fill]
      exact Assembly.resolve_eq_ok_of_enter henter

/-- Two layers in one: the upper contents put onto what the lower ones leave are
both contents put onto the root. -/
theorem layer_layer (hfree : BlockFree upper) {base : List Node}
    (h : layer lower root = .ok base) : layer upper base = layer (lower ∪ upper) root := by
  rw [layer_of_needed_empty hfree (Assembly.needed_empty_of_resolve rfl h)]
  exact (resolve_union hfree h fun _ hkey => absurd hkey List.not_mem_nil).symm

end Layers

/-! ## Chains -/

/-- All the layers of a chain in one. -/
theorem assemble_eq_layer {links : List (String × Contents)} {root base : List Node}
    (hne : links ≠ []) (hfree : ∀ link ∈ links.dropLast, BlockFree link.2)
    (h : assemble links (.ok root) = .ok base) :
    layer (merged (links.map (·.2))) root = .ok base := by
  induction links generalizing base with
  | nil => exact absurd rfl hne
  | cons link links ih =>
      rw [assemble_cons] at h
      cases links with
      | nil =>
          rw [List.map_singleton, merged_singleton]
          exact h
      | cons next links =>
          rw [List.dropLast_cons_cons, List.forall_mem_cons] at hfree
          obtain ⟨lower, hlower, hlayer⟩ := bind_eq_ok_iff.mp h
          rw [List.map_cons, merged_cons, ← layer_layer hfree.1 (ih (by simp) hfree.2 hlower)]
          exact hlayer

/-- A walk that is followed without a failure repeats no key. -/
theorem fresh_of_inherit_eq_ok {store : Store} {nodes last : Template}
    {links : List (String × Contents)} (hleads : store.Leads nodes links last) :
    ∀ {chain : List String} {merged : Template},
      (inherit store chain nodes).result = .ok merged → Fresh chain links := by
  induction hleads with
  | here _ => exact fun _ => fresh_nil _
  | @step nodes base last key exports links hextends hbase _ ih =>
      intro chain merged h
      by_cases hchain : key ∈ chain
      · rw [inherit_of_mem hextends hchain] at h
        cases h
      · rw [inherit_of_base hextends hchain hbase] at h
        obtain ⟨inner, hinner, -⟩ := bind_eq_ok_iff.mp h
        exact fresh_cons_iff.mpr ⟨hchain, ih hinner⟩

theorem ofList_toList (contents : Contents) : Std.ExtTreeMap.ofList contents.toList = contents := by
  refine Std.ExtTreeMap.ext_getElem? fun key => ?_
  cases h : contents[key]? with
  | none =>
      refine Std.ExtTreeMap.getElem?_ofList_of_contains_eq_false ?_
      rw [Std.ExtTreeMap.map_fst_toList_eq_keys, List.contains_eq_mem, decide_eq_false_iff_not,
        Std.ExtTreeMap.mem_keys]
      exact not_mem_of_getElem?_eq_none h
  | some content =>
      exact Std.ExtTreeMap.getElem?_ofList_of_mem Std.ReflCmp.compare_self
        Std.ExtTreeMap.distinct_keys_toList
        (Std.ExtTreeMap.mem_toList_iff_getElem?_eq_some.mpr h)

theorem leads_single {store : Store} {key : String} {base : Template} (contents : Contents)
    (hbase : store[key]? = some base) :
    store.Leads [.extend key contents.toList] [(key, contents)] base := by
  have hsupplied : supplied [.extend key contents.toList] contents.toList = contents :=
    ofList_toList contents
  have hstep : store.Leads [.extend key contents.toList]
      [(key, supplied [.extend key contents.toList] contents.toList)] base :=
    .step rfl hbase (.here base)
  rw [hsupplied] at hstep
  exact hstep

/-- A chain composes to what a single template composes to that is built on the
end of the chain and supplies the contents of all its links, those further up
first, if only the last link brings blocks and slots with its contents. -/
theorem compose_chain_eq_single {store : Store} {chain : List String} {nodes root out : Template}
    {links : List (String × Contents)} {key : String} {contents : Contents}
    (hleads : store.Leads nodes links root) (hroot : extension? root = none)
    (hlast : links.getLast? = some (key, contents))
    (hfree : ∀ link ∈ links.dropLast, BlockFree link.2)
    (hok : (compose store chain nodes).result = .ok out) :
    (compose store chain [.extend key (merged (links.map (·.2))).toList]).result = .ok out := by
  have hfresh : Fresh chain links := by
    rw [compose_eq] at hok
    obtain ⟨_, hinherit, -⟩ := bind_eq_ok_iff.mp hok
    exact fresh_of_inherit_eq_ok hleads hinherit
  obtain ⟨before, rfl⟩ : ∃ before, links = before ++ [(key, contents)] :=
    ⟨links.dropLast, (List.dropLast_append_getLast? _ hlast).symm⟩
  obtain ⟨_, _, base, -, -, hbase, hbelow⟩ := hleads.split
  obtain rfl : base = root := by
    cases hbelow with
    | here _ => rfl
  have hkey : key ∉ chain := hfresh.2 key (by simp)
  rw [(compose_of_root hleads hfresh hroot).1, bind_eq_ok_iff] at hok
  obtain ⟨tree, hassemble, hflatten⟩ := hok
  have hlayer := assemble_eq_layer (by simp) hfree hassemble
  have hsingle := leads_single (merged ((before ++ [(key, contents)]).map (·.2))) hbase
  rw [(compose_of_root hsingle (fresh_cons_iff.mpr ⟨hkey, fresh_nil _⟩) hroot).1, bind_eq_ok_iff]
  exact ⟨tree, hlayer, hflatten⟩

/-- A page with a slot, and with a block after it. -/
def page : Template := [.raw "<", .slot "head", .block "body" [.raw "empty"]]

/-- What is built on the page here fills its slot with a slot, and its block with
another block. -/
def article : Template :=
  [.extend "page" [("body", [.block "text" [.raw "none"]]), ("head", [.slot "title"])],
    .block "title" [.raw "Article"]]

def articleStore : Store := .ofList [("page", page), ("article", article)]

/-- An article with a text of its own, for a block that the page does not have. -/
theorem compose_article_eq_single :
    (compose articleStore [] [.extend "article" [("text", [.raw "Lorem"])]]).result
        = .ok [.raw "<", .raw "Article", .raw "Lorem"]
      ∧ (compose articleStore [] [.extend "page"
          (merged [supplied [.extend "article" [("text", [.raw "Lorem"])]]
              [("text", [.raw "Lorem"])],
            supplied article
              [("body", [.block "text" [.raw "none"]]), ("head", [.slot "title"])]]).toList]).result
        = .ok [.raw "<", .raw "Article", .raw "Lorem"] := by
  have hleads : articleStore.Leads [.extend "article" [("text", [.raw "Lorem"])]]
      [("article", supplied [.extend "article" [("text", [.raw "Lorem"])]]
          [("text", [.raw "Lorem"])]),
        ("page", supplied article
          [("body", [.block "text" [.raw "none"]]), ("head", [.slot "title"])])] page :=
    .step rfl (by decide +kernel) (.step rfl (by decide +kernel) (.here page))
  have hfree : BlockFree (supplied [.extend "article" [("text", [.raw "Lorem"])]]
      [("text", [.raw "Lorem"])]) := by
    decide +kernel
  have hok : (compose articleStore [] [.extend "article" [("text", [.raw "Lorem"])]]).result
      = .ok [.raw "<", .raw "Article", .raw "Lorem"] := by
    decide +kernel
  refine ⟨hok, compose_chain_eq_single hleads rfl rfl (fun link hlink => ?_) hok⟩
  obtain rfl := List.mem_singleton.mp hlink
  exact hfree

end TemplateTree
