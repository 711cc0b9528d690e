import TemplateTree.Render
import TemplateTree.Proofs.ExtendChain

/-!
# Three ways to render a stored template

A stored template can be rendered by its key, as a template that does nothing
but build on it, or as it stands. The first two differ in what they compose: one
takes the blocks of the finished tree away, the other first puts nothing at all
onto it. They cannot be told apart, because to put nothing onto a tree leaves
its blocks where they are, each with the default that a slot of its key takes
anyway, and a cycle is found at the same key either way
(`layer_empty_bind_flatten`).

The third differs in what the walk through the store has visited when it starts:
nothing, where the others have visited the key itself. That makes a difference
only if the walk comes back to the key. A walk can always be cut short so that
it visits no key twice (`Store.Leads.exists_nodup`), so the first return is
reached by a walk that `inherit` takes to its end.
-/

namespace TemplateTree

/-! ## Walks that return -/

/-- One of the templates that a template leads to, itself included, is built on the template
stored under `key`. -/
def Store.ReturnsTo (store : Store) (nodes : Template) (key : String) : Prop :=
  ∃ links last exports, store.Leads nodes links last ∧ extension? last = some (key, exports)

namespace Store

variable {store : Store} {nodes last : Template} {key : String}

/-- A walk can be cut short so that it follows no key twice. Where it comes back
to its first key, the part in between is left out; what comes after depends on
nothing but the template stored there. -/
theorem Leads.exists_nodup {links : List (String × Contents)}
    (h : store.Leads nodes links last) :
    ∃ links, store.Leads nodes links last ∧ (links.map (·.1)).Nodup := by
  induction h with
  | here nodes => exact ⟨[], .here nodes, List.nodup_nil⟩
  | @step nodes base last key exports _ hextends hbase _ ih =>
      obtain ⟨links, hleads, hnodup⟩ := ih
      by_cases hkey : key ∈ links.map (·.1)
      · obtain ⟨⟨_, contents⟩, hlink, rfl⟩ := List.mem_map.mp hkey
        obtain ⟨before, after, rfl⟩ := List.append_of_mem hlink
        obtain ⟨_, _, base', _, _, hbase', hafter⟩ := hleads.split
        obtain rfl : base = base' := Option.some.inj (hbase.symm.trans hbase')
        refine ⟨_, .step hextends hbase hafter, ?_⟩
        rw [List.map_append] at hnodup
        exact hnodup.of_append_right
      · exact ⟨_, .step hextends hbase hleads, List.nodup_cons.mpr ⟨hkey, hnodup⟩⟩

/-- The first return is at the end of a walk that visits nothing twice. -/
theorem ReturnsTo.exists_fresh (h : store.ReturnsTo nodes key) :
    ∃ links last exports, store.Leads nodes links last ∧ Fresh [key] links
      ∧ extension? last = some (key, exports) := by
  obtain ⟨_, last, exports, hleads, hlast⟩ := h
  obtain ⟨links, hleads, hnodup⟩ := hleads.exists_nodup
  by_cases hkey : key ∈ links.map (·.1)
  · obtain ⟨⟨_, contents⟩, hlink, rfl⟩ := List.mem_map.mp hkey
    obtain ⟨before, after, rfl⟩ := List.append_of_mem hlink
    obtain ⟨middle, exports, _, hbefore, hmiddle, -, -⟩ := hleads.split
    rw [List.map_append, List.nodup_append] at hnodup
    refine ⟨before, middle, exports, hbefore, ⟨hnodup.1, fun other hother hmem => ?_⟩, hmiddle⟩
    exact hnodup.2.2 other hother _ List.mem_cons_self (List.mem_singleton.mp hmem)
  · refine ⟨links, last, exports, hleads, ⟨hnodup, fun other hother hmem => ?_⟩, hlast⟩
    exact hkey (List.mem_singleton.mp hmem ▸ hother)

end Store

/-- To have visited a key to which the walk does not return changes nothing. -/
theorem inherit_append_singleton {store : Store} {nodes : Template} {key : String}
    (h : ¬ store.ReturnsTo nodes key) (chain : List String) :
    (inherit store (chain ++ [key]) nodes).result = (inherit store chain nodes).result := by
  induction chain, nodes using inherit.induct store with
  | case1 chain nodes hroot => rw [inherit_of_root hroot, inherit_of_root hroot]
  | case2 chain nodes next exports hextends ih =>
      have hne : next ≠ key := fun heq => h ⟨[], nodes, exports, .here nodes, heq ▸ hextends⟩
      have hmem : next ∈ chain ++ [key] ↔ next ∈ chain := by simp [hne]
      by_cases hchain : next ∈ chain
      · rw [inherit_of_mem hextends hchain, inherit_of_mem hextends (hmem.mpr hchain)]
      · have hchain' : next ∉ chain ++ [key] := fun hnext => hchain (hmem.mp hnext)
        cases hbase : store[next]? with
        | none =>
            rw [inherit_of_missing hextends hchain hbase,
              inherit_of_missing hextends hchain' hbase]
        | some base =>
            have hbase_returns : ¬ store.ReturnsTo base key := by
              rintro ⟨links, last, exports', hleads, hlast⟩
              exact h ⟨_, last, exports', .step hextends hbase hleads, hlast⟩
            rw [inherit_of_base hextends hchain hbase, inherit_of_base hextends hchain' hbase]
            show (inherit store ((next :: chain) ++ [key]) base).result >>= _ = _
            rw [ih hchain base hbase hbase_returns]

/-! ## Putting nothing onto a tree -/

theorem supplied_of_no_block {nodes : Template} (h : ∀ node ∈ nodes, node.kind ≠ .block) :
    supplied nodes [] = ∅ := by
  refine (List.foldl_ext _ (fun contents _ => contents) _ fun contents node hnode => ?_).trans ?_
  · split
    · exact absurd rfl (h _ hnode)
    · rfl
  · rw [List.foldl_fixed, Std.ExtTreeMap.ofList_nil]

/-- A tree onto which nothing is put is flattened as if it had been left alone. -/
theorem layer_empty_bind_flatten (nodes : List Node) :
    (layer ∅ nodes >>= flatten) = flatten nodes := by
  have hflatten : flatten = fun merged => (Assembly.within merged).resolve [] merged :=
    funext Assembly.flatten_eq_resolve
  rw [layer, hflatten, Assembly.resolve_onto_bind_resolve_within]
  rfl

/-- A template that adds nothing to the one it is built on. -/
theorem compose_of_adds_nothing {store : Store} {nodes base : Template} {key : String}
    (hextends : extension? nodes = some (key, [])) (hblock : ∀ node ∈ nodes, node.kind ≠ .block)
    (hbase : store[key]? = some base) :
    (compose store [] nodes).result = (compose store [key] base).result := by
  rw [compose_eq, compose_eq, inherit_of_base hextends List.not_mem_nil hbase,
    supplied_of_no_block hblock]
  cases (inherit store [key] base).result with
  | error e => rfl
  | ok merged => exact layer_empty_bind_flatten merged

/-! ## Rendering -/

section Rendering

variable {tags : Registry} {store : Store} {context : Context} {template : Template}

theorem result_renderFrom (chain : List String) :
    (tags.renderFrom store chain context template).result
      = (compose store chain template).result >>= fun nodes =>
        (render tags (.ofContext context) nodes).traced.result := by
  rw [Registry.renderFrom, Traced.result_bind, Traced.result_bind]
  rfl

theorem result_renderNamed {key : String} (h : store[key]? = some template) :
    (tags.renderNamed store context key).result
      = (compose store [key] template).result >>= fun nodes =>
        (render tags (.ofContext context) nodes).traced.result := by
  rw [Registry.renderNamed, h]
  exact result_renderFrom [key]

end Rendering

/-- A walk from a stored template that returns to its key comes, if the key was
not visited, to the template a second time, and then to the key that follows. -/
theorem compose_of_returnsTo {store : Store} {stored : Template} {key : String}
    (hstored : store[key]? = some stored) (hreturns : store.ReturnsTo stored key) :
    (compose store [key] stored).result = .error (.compositionCycle key)
      ∧ ∃ next exports, extension? stored = some (next, exports)
        ∧ (compose store [] stored).result = .error (.compositionCycle next) := by
  obtain ⟨links, last, exports, hleads, hfresh, hlast⟩ := hreturns.exists_fresh
  refine ⟨compose_of_visited hleads hfresh hlast (.inl List.mem_cons_self), ?_⟩
  -- Without the key among those visited, the walk goes round once more, by one link.
  have hround := hleads.snoc hlast hstored
  have hround_fresh : Fresh [] (links ++ [(key, supplied last exports)]) := by
    refine ⟨?_, fun _ _ => List.not_mem_nil⟩
    rw [List.map_append, List.nodup_append]
    refine ⟨hfresh.1, List.nodup_singleton _, fun other hother other' hother' heq => ?_⟩
    exact hfresh.2 other hother (heq ▸ hother')
  obtain ⟨next, exports', hextends, hnext⟩ : ∃ next exports',
      extension? stored = some (next, exports')
        ∧ next ∈ (links ++ [(key, supplied last exports)]).map (·.1) := by
    cases hleads with
    | here _ => exact ⟨key, exports, hlast, List.mem_cons_self⟩
    | step hextends _ _ => exact ⟨_, _, hextends, List.mem_cons_self⟩
  exact ⟨next, exports', hextends, compose_of_visited hround hround_fresh hextends (.inr hnext)⟩

/-- A template that adds nothing to the one stored under `key` renders as that
one does by its key. The stored template itself renders so too, unless its chain
returns to `key`; then the cycle is noticed at `key` if that has been visited,
and else one template later. -/
theorem render_stored (tags : Registry) (store : Store) (context : Context) (key : String) :
    (∀ nodes : Template, extension? nodes = some (key, []) →
        (∀ node ∈ nodes, node.kind ≠ .block) →
        (tags.render store context nodes).result = (tags.renderNamed store context key).result)
      ∧ ∀ stored, store[key]? = some stored →
        (¬ store.ReturnsTo stored key →
          (tags.render store context stored).result
            = (tags.renderNamed store context key).result)
        ∧ (store.ReturnsTo stored key →
          (tags.renderNamed store context key).result = .error (.compositionCycle key)
          ∧ ∃ next exports, extension? stored = some (next, exports)
            ∧ (tags.render store context stored).result = .error (.compositionCycle next)) := by
  refine ⟨fun nodes hextends hblock => ?_, fun stored hstored => ⟨fun hreturns => ?_, ?_⟩⟩
  · rw [Registry.render, result_renderFrom]
    cases hbase : store[key]? with
    | none =>
        rw [compose_of_missing (.here nodes) (fresh_nil []) hextends List.not_mem_nil hbase,
          Registry.renderNamed, hbase]
        rfl
    | some base => rw [compose_of_adds_nothing hextends hblock hbase, result_renderNamed hbase]
  · rw [Registry.render, result_renderFrom, result_renderNamed hstored, compose_eq, compose_eq,
      ← inherit_append_singleton hreturns, List.nil_append]
  · intro hreturns
    obtain ⟨hnamed, next, exports, hextends, hbare⟩ := compose_of_returnsTo hstored hreturns
    rw [result_renderNamed hstored, hnamed]
    refine ⟨rfl, next, exports, hextends, ?_⟩
    rw [Registry.render, result_renderFrom, hbare]
    rfl

/-- Two templates that are built on each other. -/
def mutualStore : Store :=
  .ofList [("a", [Node.extend "b" []]), ("b", [Node.extend "a" []])]

/-- By its key the first of them is found to be built on itself; as it stands,
the second is. -/
theorem render_stored_mutual :
    (Registry.builtin.renderNamed mutualStore ∅ "a").result = .error (.compositionCycle "a")
      ∧ (Registry.builtin.render mutualStore ∅ [.extend "b" []]).result
        = .error (.compositionCycle "b") := by
  have hreturns : mutualStore.ReturnsTo [.extend "b" []] "a" :=
    ⟨_, _, [], .step rfl (by decide +kernel) (.here [.extend "a" []]), rfl⟩
  obtain ⟨hnamed, next, exports, hextends, hbare⟩ :=
    ((render_stored Registry.builtin mutualStore ∅ "a").2 _ (by decide +kernel)).2 hreturns
  cases hextends
  exact ⟨hnamed, hbare⟩

end TemplateTree
