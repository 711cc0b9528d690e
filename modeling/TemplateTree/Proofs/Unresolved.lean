import TemplateTree.Proofs.Rendering
import TemplateTree.Proofs.StoredTemplate

/-!
# What rendering leaves unresolved

Blocks and slots are for composition, and rendering refuses them. It never has to:
a composed tree holds none at any place where it would be met. The two halves of
this share nothing but the notion of a place. `never_unresolved` says of the
evaluator that it complains of a kind of node only if such a node stands at a
place, whatever the tags do, as long as they pass on what they are given.
`fixed_of_compose` says of composition that no block and no slot stands at one.

An `extend` node below the top level is the one thing that is left. It is copied
like any other node, so it is never followed, not even when the block around it
goes away and it comes to stand at the top of the tree: there it stops the call.
-/

namespace TemplateTree

open Render

/-! ## Rendering -/

/-- Rendering has no reason to complain of this kind because of the node. -/
def Node.Accepted (kind : Kind) (node : Node) : Prop :=
  node.kind = kind → kind ∉ Kind.ofInheritance

/-- Rendering complains of a kind of node only because of such a node at a place of
the tree. -/
theorem never_unresolved {tags : Registry} {kind : Kind}
    (htags : tags.Relays (.unresolvedNode kind)) {nodes : List Node}
    (hkind : ∀ n, Within n nodes → n.Accepted kind) (scope : Scope) :
    Never (.unresolvedNode kind) (render tags scope nodes) := by
  refine render_closed (closed_never _) htags (fun e he => never_throw (he kind))
    (fun n hn hmem => never_throw fun heq => ?_) scope
  have hkind' : n.kind = kind := RenderError.unresolvedNode.inj heq
  exact hkind n hn hkind' (hkind' ▸ hmem)

/-- A node that was meant for composition ends the call once what is before it has
been rendered. -/
theorem result_traced_extend (tags : Registry) (scope : Scope) (before after : List Node)
    (key : String) (exports : List (String × List Node)) :
    (render tags scope (before ++ .extend key exports :: after)).traced.result
      = ((render tags scope before).traced.result
        >>= fun _ => .error (.unresolvedNode .extend)) := by
  have hstop : Fails (.unresolvedNode .extend)
      (render tags scope (.extend key exports :: after)) := by
    rw [render, Node.render]
    exact (fails_throw _).bind _
  rw [render_append, hstop.result_traced]

/-! ## Composition -/

section Compose

variable {store : Store} {chain : List String} {nodes out : Template}

theorem inherit_error {e : RenderError} (h : (inherit store chain nodes).result = .error e) :
    ∃ key, e = .compositionCycle key ∨ e = .templateNotFound key := by
  induction chain, nodes using inherit.induct store with
  | case1 chain nodes hroot =>
      rw [inherit_of_root hroot] at h
      cases h
  | case2 chain nodes key exports hextends ih =>
      by_cases hchain : key ∈ chain
      · rw [inherit_of_mem hextends hchain] at h
        cases h
        exact ⟨key, .inl rfl⟩
      · cases hbase : store[key]? with
        | none =>
            rw [inherit_of_missing hextends hchain hbase] at h
            cases h
            exact ⟨key, .inr rfl⟩
        | some base =>
            rw [inherit_of_base hextends hchain hbase] at h
            rcases bind_eq_error_iff.mp h with hbelow | ⟨_, _, hlayer⟩
            · exact ih hchain base hbase hbelow
            · obtain ⟨key', hkey', -⟩ := Assembly.reaches_of_resolve_eq_error hlayer
              exact ⟨key', .inl hkey'⟩

/-- Composition fails for want of a template or because of a cycle. -/
theorem compose_error {e : RenderError} (h : (compose store chain nodes).result = .error e) :
    ∃ key, e = .compositionCycle key ∨ e = .templateNotFound key := by
  rw [compose_eq] at h
  rcases bind_eq_error_iff.mp h with hinherit | ⟨merged, _, hflatten⟩
  · exact inherit_error hinherit
  · rw [Assembly.flatten_eq_resolve] at hflatten
    obtain ⟨key, hkey, -⟩ := Assembly.reaches_of_resolve_eq_error hflatten
    exact ⟨key, .inl hkey⟩

/-- No block and no slot is left in a composed tree. -/
theorem fixed_of_compose (h : (compose store chain nodes).result = .ok out) :
    ∀ n, Within n out → n.Fixed := by
  rw [compose_eq] at h
  obtain ⟨merged, -, hflatten⟩ := bind_eq_ok_iff.mp h
  rw [Assembly.flatten_eq_resolve] at hflatten
  exact Assembly.fixed_of_resolve rfl hflatten

theorem Node.graft_of_extend {onBlock : String → List Node → List Node}
    {onSlot : String → List Node} {node : Node} (h : node.kind = .extend) :
    node.graft onBlock onSlot = [node] := by
  cases node with
  | extend _ _ => rw [Node.graft]
  | _ => cases h

/-- To take the blocks away leaves every `extend` node of the tree in it. -/
theorem within_flatten_of_extend {merged : List Node} (h : flatten merged = .ok out) {node : Node}
    (hkind : node.kind = .extend) (hwithin : Within node merged) : Within node out := by
  rw [Assembly.flatten_eq_resolve, Assembly.resolve_eq, expand_eq_ok_iff] at h
  rw [h.2]
  refine hwithin.graft (Node.graft_of_extend hkind) fun key body hbody => ?_
  have hnot : key ∉ (Assembly.within merged).replacements := Std.ExtTreeMap.not_mem_empty
  rw [Assembly.onBlock, if_neg hnot]
  exact hbody

/-- A template that is built on none is not looked up in the store, nor is anything
that is named in it. -/
theorem compose_of_extension?_eq_none (h : extension? nodes = none) :
    compose store chain nodes = ⟨[], flatten nodes⟩ := by
  rw [compose_eq, inherit_of_root h]
  rfl

/-- A tree without a node that is meant for composition is composed as it stands. -/
theorem compose_of_plain (hroot : extension? nodes = none) (hblocks : hasBlocks nodes = false) :
    compose store chain nodes = ⟨[], .ok nodes⟩ := by
  rw [compose_of_extension?_eq_none hroot, Assembly.flatten_of_hasBlocks hblocks]

end Compose

/-! ## A whole call -/

theorem renderFrom_unresolved {tags : Registry} {store : Store} {chain : List String}
    {context : Context} {nodes : Template} {kind : Kind}
    (htags : tags.Relays (.unresolvedNode kind))
    (h : (tags.renderFrom store chain context nodes).result = .error (.unresolvedNode kind)) :
    ∃ out, (compose store chain nodes).result = .ok out
      ∧ ∃ n, Within n out ∧ n.kind = kind ∧ kind ∈ Kind.ofInheritance := by
  rw [result_renderFrom] at h
  rcases bind_eq_error_iff.mp h with hcompose | ⟨out, hout, hrender⟩
  · obtain ⟨key, hkey | hkey⟩ := compose_error hcompose
    · cases hkey
    · cases hkey
  · refine ⟨out, hout, ?_⟩
    refine Classical.byContradiction fun hnone => ?_
    have hkind : ∀ n, Within n out → n.Accepted kind :=
      fun n hn heq hmem => hnone ⟨n, hn, heq, hmem⟩
    have hnever := never_unresolved htags hkind (.ofContext context) .empty
    rw [result_traced] at hrender
    rcases hon : (render tags (.ofContext context) out).on .empty with ⟨result, last⟩
    rw [hon] at hrender hnever
    cases result with
    | ok _ => cases hrender
    | error e =>
        cases hrender
        exact hnever rfl

/-- Of the nodes that composition is for, only an `extend` node can be met while
rendering, and only if the composed tree holds it: such a node below the top level
is never followed, but stays where it is, and ends the call if it comes to the top.
Putting content in place, of its own, fails on a cycle and on nothing else. -/
theorem unresolved_is_extend (tags : Registry) (store : Store) (chain : List String)
    (context : Context) (nodes : Template)
    (htags : ∀ kind, tags.Relays (.unresolvedNode kind)) :
    (∀ out, (compose store chain nodes).result = .ok out → ∀ n, Within n out → n.Fixed)
      ∧ (∀ kind, (tags.renderFrom store chain context nodes).result
            = .error (.unresolvedNode kind) →
          kind = .extend ∧ ∃ out, (compose store chain nodes).result = .ok out
            ∧ ∃ n, Within n out ∧ n.kind = .extend)
      ∧ (∀ key kind, (tags.renderNamed store context key).result
            = .error (.unresolvedNode kind) →
          kind = .extend ∧ ∃ stored out, store[key]? = some stored
            ∧ (compose store [key] stored).result = .ok out
            ∧ ∃ n, Within n out ∧ n.kind = .extend)
      ∧ (∀ (a : Assembly) active tree e, a.resolve active tree = .error e →
          ∃ key, e = .compositionCycle key)
      ∧ (extension? nodes = none → compose store chain nodes = ⟨[], flatten nodes⟩)
      ∧ (∀ merged out, (inherit store chain nodes).result = .ok merged →
          (compose store chain nodes).result = .ok out →
          ∀ n, n.kind = .extend → Within n merged → Within n out)
      ∧ ∀ before key exports after,
          (compose store chain nodes).result = .ok (before ++ .extend key exports :: after) →
          (tags.renderFrom store chain context nodes).result
            = ((render tags (.ofContext context) before).traced.result
              >>= fun _ => .error (.unresolvedNode .extend)) := by
  have hcall : ∀ chain (nodes : Template) kind,
      (tags.renderFrom store chain context nodes).result = .error (.unresolvedNode kind) →
      kind = .extend ∧ ∃ out, (compose store chain nodes).result = .ok out
        ∧ ∃ n, Within n out ∧ n.kind = .extend := by
    intro chain nodes kind h
    obtain ⟨out, hout, n, hwithin, hkind, hmem⟩ := renderFrom_unresolved (htags kind) h
    have hfixed := fixed_of_compose hout n hwithin
    have hextend : kind = .extend := by
      rw [Node.Fixed, hkind] at hfixed
      simpa [Kind.ofInheritance, hfixed.1, hfixed.2] using hmem
    exact ⟨hextend, out, hout, n, hwithin, hkind.trans hextend⟩
  refine ⟨fun out hout => fixed_of_compose hout, hcall chain nodes, ?_, ?_,
    compose_of_extension?_eq_none, ?_, ?_⟩
  · intro key kind h
    rw [Registry.renderNamed] at h
    split at h
    · cases h
    · next stored hstored =>
        obtain ⟨hextend, out, hout, hwithin⟩ := hcall [key] stored kind h
        exact ⟨hextend, stored, out, hstored, hout, hwithin⟩
  · intro a active tree e h
    obtain ⟨key, hkey, -⟩ := Assembly.reaches_of_resolve_eq_error h
    exact ⟨key, hkey⟩
  · intro merged out hmerged hout n hkind hwithin
    rw [compose_eq, hmerged] at hout
    exact within_flatten_of_extend hout hkind hwithin
  · intro before key exports after hout
    rw [result_renderFrom, hout]
    exact result_traced_extend tags _ before after key exports

/-- A base whose only block holds a template that is built on another one. -/
def nestingStore : Store :=
  .ofList [("base", [Node.block "body" [.extend "page" []]]), ("page", [.raw "page"])]

/-- When the block gives way the inner template comes to the top, where it is met by
the renderer; what it is built on is in the store but is not looked up. -/
theorem unresolved_is_extend_lifted :
    (∀ kind, Registry.builtin.Relays (.unresolvedNode kind))
      ∧ (Registry.builtin.render nestingStore ∅ [.extend "base" []]).result
        = .error (.unresolvedNode .extend) := by
  have htags : ∀ kind, Registry.builtin.Relays (.unresolvedNode kind) :=
    fun kind => relays_builtin (by simp)
  have hcompose : (compose nestingStore [] [.extend "base" []]).result
      = .ok ([] ++ .extend "page" [] :: []) := by
    decide +kernel
  obtain ⟨-, -, -, -, -, -, hlifted⟩ :=
    unresolved_is_extend Registry.builtin nestingStore [] ∅ [.extend "base" []] htags
  refine ⟨htags, ?_⟩
  rw [Registry.render, hlifted [] "page" [] [] hcompose, render]
  rfl

end TemplateTree
