import TemplateTree.Proofs.Appending
import TemplateTree.Proofs.DocumentOrder
import TemplateTree.Proofs.Unresolved

/-!
# A node inside `get`

`get` renders its parameter in place, so it should make no difference to put a node of
a template into it. Composition does not see one: the blocks of the tree are the same,
and each part of it is resolved on its own (`compose_within_tag`). Rendering sees what
composition has left there, and for a node that stands for itself that is one node.

A block and a slot do not stand for themselves. Their content comes into the list of
parameters as it is, before parameters are counted, and `get` takes it for its only
parameter if it is one node, and refuses it otherwise (`render_within_get`).
-/

namespace TemplateTree

open Render

/-! ## One part after the other -/

theorem Assembly.resolve_append (a : Assembly) (active : List String) (xs ys : List Node) :
    a.resolve active (xs ++ ys)
      = (a.resolve active xs >>= fun first => (a.resolve active ys).map (first ++ ·)) := by
  rw [resolve_eq, resolve_eq, resolve_eq, expand_eq, expand_eq a _ xs, needed_append,
    List.findSome?_append, fill, graft_append]
  refine (settle_bind _ _ _ ?_).symm
  rw [expand_eq, map_settle]
  rfl

theorem Assembly.resolve_tag (a : Assembly) (active : List String) (name : String)
    (params : List Node) :
    a.resolve active [.tag name params]
      = (a.resolve active params).map fun params => [.tag name params] := by
  rw [resolve_eq, resolve_eq, expand_eq, expand_eq, map_settle, needed_singleton, Node.needed,
    fill, graft_singleton, Node.graft, fill]

theorem within_tag (name : String) (before after : List Node) (node : Node) :
    Assembly.within (before ++ .tag name [node] :: after)
      = Assembly.within (before ++ node :: after) := by
  have hblocks : blocks (before ++ .tag name [node] :: after)
      = blocks (before ++ node :: after) := by
    rw [blocks_append, blocks_append, blocks, blocks, Node.blocks, blocks_singleton]
  have hfirst : firstBlocks (before ++ .tag name [node] :: after)
      = firstBlocks (before ++ node :: after) := by
    refine Std.ExtTreeMap.ext_getElem? fun key => ?_
    rw [getElem?_firstBlocks, getElem?_firstBlocks, hblocks]
  rw [Assembly.within, Assembly.within, hfirst]

section Compose

variable {before after : List Node} {node : Node}

/-- A node of a template that is built on none is composed alike inside a tag and
outside of it. -/
theorem compose_within_tag (store : Store) (chain : List String) (name : String)
    (hroot : extension? (before ++ node :: after) = none) :
    (∃ e, (compose store chain (before ++ node :: after)).result = .error e
        ∧ (compose store chain (before ++ .tag name [node] :: after)).result = .error e)
      ∨ ∃ first content last,
        (Assembly.within (before ++ node :: after)).resolve [] before = .ok first
        ∧ (Assembly.within (before ++ node :: after)).resolve [] [node] = .ok content
        ∧ (compose store chain (before ++ node :: after)).result
          = .ok (first ++ content ++ last)
        ∧ (compose store chain (before ++ .tag name [node] :: after)).result
          = .ok (first ++ [.tag name content] ++ last) := by
  have htag : extension? (before ++ .tag name [node] :: after) = none := by
    rw [extension?_eq_none_iff, List.forall_mem_append, List.forall_mem_cons] at hroot ⊢
    exact ⟨hroot.1, nofun, hroot.2.2⟩
  rw [compose_of_extension?_eq_none hroot, compose_of_extension?_eq_none htag,
    Assembly.flatten_eq_resolve, Assembly.flatten_eq_resolve, within_tag,
    ← List.singleton_append, ← List.singleton_append (x := Node.tag name [node])]
  simp only [Assembly.resolve_append, Assembly.resolve_tag]
  cases (Assembly.within (before ++ ([node] ++ after))).resolve [] before with
  | error e => exact .inl ⟨e, rfl, rfl⟩
  | ok first =>
      cases (Assembly.within (before ++ ([node] ++ after))).resolve [] [node] with
      | error e => exact .inl ⟨e, rfl, rfl⟩
      | ok content =>
          cases (Assembly.within (before ++ ([node] ++ after))).resolve [] after with
          | error e => exact .inl ⟨e, rfl, rfl⟩
          | ok last =>
              refine .inr ⟨first, content, last, rfl, rfl, ?_, ?_⟩
              · rw [List.append_assoc]
                rfl
              · rw [List.append_assoc]
                rfl

end Compose

section Render

variable {scope : Scope} {content : List Node}

theorem length_of_resolve_fixed {a : Assembly} {active : List String} {node : Node}
    (hfixed : node.Fixed) (h : a.resolve active [node] = .ok content) : content.length = 1 := by
  rw [Assembly.resolve_eq, expand_eq_ok_iff] at h
  rw [h.2, Assembly.fill, length_graft_of_fixed (by simpa using hfixed), List.length_singleton]

theorem result_render_get (h : content.length = 1) :
    (render .builtin scope [.tag "get" content]).traced.result
      = (render .builtin scope content).traced.result := by
  rw [render_singleton, render_tag_get, if_pos h,
    result_traced_bind _ (render_appends appends_builtin scope content)]
  cases (render .builtin scope content).traced.result with
  | error e => rfl
  | ok text => exact congrArg Except.ok (String.empty_append)

/-- A tag that refuses its parameters ends the call after what is before it. -/
theorem result_render_get_arity (h : content.length ≠ 1) (first last : List Node) :
    (render .builtin scope (first ++ [.tag "get" content] ++ last)).traced.result
      = ((render .builtin scope first).traced.result
        >>= fun _ => .error (.invalidTagArity "get" content.length)) := by
  have hstop : Fails (.invalidTagArity "get" content.length)
      (render .builtin scope ([.tag "get" content] ++ last)) := by
    rw [List.singleton_append, render, render_tag_get, if_neg h, bind_assoc]
    intro out
    rw [on_bind_of_ok (on_record _ out)]
    exact (fails_throw _).bind _ _
  rw [List.append_assoc, render_append, hstop.result_traced]

end Render

/-- To put a node of a template that is built on none into `get` makes no difference
if the node stands for itself. Else it makes none if what comes into its place is one
node, and for anything else the call ends there, the number of nodes being taken for
the number of parameters. -/
theorem render_within_get (store : Store) (chain : List String) (context : Context)
    (before after : List Node) (node : Node) (hroot : extension? (before ++ node :: after) = none) :
    (node.Fixed →
        (Registry.builtin.renderFrom store chain context
            (before ++ .tag "get" [node] :: after)).result
          = (Registry.builtin.renderFrom store chain context (before ++ node :: after)).result)
      ∧ (∀ e, (compose store chain (before ++ node :: after)).result = .error e →
        (Registry.builtin.renderFrom store chain context (before ++ node :: after)).result
          = .error e
        ∧ (Registry.builtin.renderFrom store chain context
            (before ++ .tag "get" [node] :: after)).result = .error e)
      ∧ ∀ out, (compose store chain (before ++ node :: after)).result = .ok out →
        ∃ first content last, out = first ++ content ++ last
          ∧ (Assembly.within (before ++ node :: after)).resolve [] before = .ok first
          ∧ (Assembly.within (before ++ node :: after)).resolve [] [node] = .ok content
          ∧ (content.length = 1 →
            (Registry.builtin.renderFrom store chain context
                (before ++ .tag "get" [node] :: after)).result
              = (Registry.builtin.renderFrom store chain context (before ++ node :: after)).result)
          ∧ (content.length ≠ 1 →
            (Registry.builtin.renderFrom store chain context
                (before ++ .tag "get" [node] :: after)).result
              = ((render .builtin (.ofContext context) first).traced.result
                >>= fun _ => .error (.invalidTagArity "get" content.length))) := by
  rw [result_renderFrom, result_renderFrom]
  rcases compose_within_tag store chain "get" hroot with
    ⟨e, hnode, htag⟩ | ⟨first, content, last, hfirst, hcontent, hnode, htag⟩
  · rw [hnode, htag]
    refine ⟨fun _ => rfl, fun e' he' => ?_, fun out hout => nomatch hout⟩
    cases he'
    exact ⟨rfl, rfl⟩
  · have hone : content.length = 1 →
        (render .builtin (.ofContext context) (first ++ [.tag "get" content] ++ last)).traced.result
          = (render .builtin (.ofContext context) (first ++ content ++ last)).traced.result :=
      fun h => result_render_congr appends_builtin (result_render_get h) first last
    rw [hnode, htag]
    refine ⟨fun hfixed => hone (length_of_resolve_fixed hfixed hcontent), nofun,
      fun out hout => ?_⟩
    cases hout
    exact ⟨first, content, last, rfl, hfirst, hcontent, hone, fun h =>
      result_render_get_arity h first last⟩

/-- A slot in `get`, for a block of two nodes. -/
theorem render_within_get_slot :
    extension? ([Node.raw "("] ++ .slot "pair" :: [.block "pair" [.raw "x", .raw "y"]]) = none
      ∧ (Registry.builtin.renderFrom ∅ [] ∅
          ([.raw "("] ++ .tag "get" [.slot "pair"] :: [.block "pair" [.raw "x", .raw "y"]])).result
        = .error (.invalidTagArity "get" 2) := by
  have hcompose : (compose ∅ []
      ([Node.raw "("] ++ .slot "pair" :: [.block "pair" [.raw "x", .raw "y"]])).result
        = .ok [.raw "(", .raw "x", .raw "y", .raw "x", .raw "y"] := by
    decide +kernel
  have hslot : (Assembly.within ([Node.raw "("] ++ .slot "pair"
      :: [.block "pair" [.raw "x", .raw "y"]])).resolve [] [.slot "pair"]
        = .ok [.raw "x", .raw "y"] := by
    decide +kernel
  obtain ⟨first, content, last, -, hfirst, hcontent, -, harity⟩ :=
    (render_within_get ∅ [] ∅ [.raw "("] [.block "pair" [.raw "x", .raw "y"]] (.slot "pair")
      rfl).2.2 _ hcompose
  obtain rfl : [.raw "x", .raw "y"] = content := Except.ok.inj (hslot.symm.trans hcontent)
  obtain rfl : [.raw "("] = first := Except.ok.inj
    ((Assembly.resolve_of_hasBlocks rfl).symm.trans hfirst)
  exact ⟨rfl, harity (by simp)⟩

/-- A block of two nodes is in order as it stands, but not in `get`. -/
theorem block_within_get :
    (Registry.builtin.render ∅ ∅ [.block "pair" [.raw "x", .raw "y"]]).result = .ok "xy"
      ∧ (Registry.builtin.render ∅ ∅
          [.tag "get" [.block "pair" [.raw "x", .raw "y"]]]).result
        = .error (.invalidTagArity "get" 2) := by
  constructor
  · decide +kernel
  · decide +kernel

end TemplateTree
