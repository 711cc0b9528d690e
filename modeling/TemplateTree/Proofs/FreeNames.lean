import TemplateTree.Proofs.FlatScope
import TemplateTree.Proofs.StoredTemplate

/-!
# What a tree reads of its context

A name is free in a tree if some node looks it up outside all loops that bind it: to output
it, to decide a condition, or for the elements of a loop. These are the names that evaluation
reads of the context, and nothing else of the context matters: two contexts that agree on
them give the same text, the same records and the same failure, if the tags do the same with
both. A condition reads a name that is not bound as false instead of failing, so to agree on a
name is also to agree that nothing binds it.

A tag that comes from elsewhere could look up any name, so the tags that stand in the tree are
`get`, or there is no handler for them.
-/

namespace TemplateTree

open Render

/-- A node of the tree looks this name up, and none of the loops around it binds it. -/
def FreeIn (name : String) (nodes : List Node) : Prop :=
  ∃ node bound, Stands node bound nodes ∧ name ∈ node.reads ∧ name ∉ bound

namespace FreeIn

variable {name : String} {node : Node} {nodes part : List Node}

theorem of_reads (h : name ∈ node.reads) : FreeIn name [node] :=
  ⟨node, [], .here List.mem_cons_self, h, List.not_mem_nil⟩

theorem of_mem (hnode : node ∈ nodes) (h : FreeIn name [node]) : FreeIn name nodes := by
  obtain ⟨inner, bound, hstands, hreads, hbound⟩ := h
  exact ⟨inner, bound, hstands.of_mem hnode, hreads, hbound⟩

/-- What is free in a part of a node, and not bound by it, is free in the node. -/
theorem of_part (hpart : part ∈ node.parts) (hbinds : name ∉ node.binds)
    (h : FreeIn name part) : FreeIn name [node] := by
  obtain ⟨inner, bound, hstands, hreads, hbound⟩ := h
  refine ⟨inner, _, .inside List.mem_cons_self hpart hstands, hreads, ?_⟩
  rw [List.mem_append, not_or]
  exact ⟨hbound, hbinds⟩

end FreeIn

/-- The two registries do the same with this tag, which is `get` in both or unknown to both. -/
def Registry.AgreeOn (tags tags' : Registry) (name : String) : Prop :=
  (tags.get? name = some getHandler ∧ tags'.get? name = some getHandler)
    ∨ (tags.get? name = none ∧ tags'.get? name = none)

section Agreement

variable {tags tags' : Registry}

/-- A tag does nothing with its scope but to hand it on to its parameters. -/
theorem Node.render_tag_of_agreeOn {name : String} {params : List Node} {scope scope' : Scope}
    (htags : tags.AgreeOn tags' name)
    (hparams : parameters tags scope params = parameters tags' scope' params) :
    (Node.tag name params).render tags scope = (Node.tag name params).render tags' scope' := by
  rw [Node.render, Node.render]
  rcases htags with ⟨hget, hget'⟩ | ⟨hnone, hnone'⟩
  · rw [hget, hget']
    simp only [getHandler_eq, hparams]
  · rw [hnone, hnone']

/-- A node is rendered alike in two scopes that answer alike for the names free in it. -/
theorem Node.render_of_freeIn (node : Node) {scope scope' : Scope}
    (htags : ∀ name params, Within (.tag name params) [node] → tags.AgreeOn tags' name)
    (hnames : ∀ name, FreeIn name [node] → scope.get? name = scope'.get? name) :
    node.render tags scope = node.render tags' scope' := by
  induction node using Node.induct_parts generalizing scope scope' with
  | step outer ih =>
      refine Node.render_eq_of_parts (fun name hname => hnames name (.of_reads hname)) ?_ ?_
      · rintro name params rfl hparams
        exact Node.render_tag_of_agreeOn (htags name params (.here List.mem_cons_self)) hparams
      · intro part hpart n hn frames hframes
        refine ih part hpart n hn ?_ ?_
        · intro name params htag
          refine htags name params (.inside List.mem_cons_self hpart ?_)
          exact htag.of_mem hn
        · intro name hfree
          refine Scope.get?_bindAll_congr fun hbound => hnames name ?_
          exact .of_part hpart (hframes ▸ hbound) (hfree.of_mem hn)

theorem render_of_freeIn {nodes : List Node} {scope scope' : Scope}
    (htags : ∀ name params, Within (.tag name params) nodes → tags.AgreeOn tags' name)
    (hnames : ∀ name, FreeIn name nodes → scope.get? name = scope'.get? name) :
    render tags scope nodes = render tags' scope' nodes :=
  render_eq_of_forall fun node hnode => node.render_of_freeIn
    (fun name params htag => htags name params (htag.of_mem hnode))
    (fun name hfree => hnames name (hfree.of_mem hnode))

end Agreement

theorem not_freeIn_of_forall {name : String} {nodes : List Node}
    (h : ∀ node ∈ nodes, ¬ FreeIn name [node]) : ¬ FreeIn name nodes := by
  rintro ⟨inner, bound, hstands, hreads, hbound⟩
  cases hstands with
  | here hnode => exact h inner hnode (.of_reads hreads)
  | inside hnode hpart hstands =>
      exact h _ hnode ⟨inner, _, .inside List.mem_cons_self hpart hstands, hreads, hbound⟩

theorem not_freeIn_of_kind {name : String} {node : Node}
    (h : node.kind = .raw ∨ node.kind = .constant) : ¬ FreeIn name [node] := by
  have hnone : node.reads = [] ∧ node.parts = [] := by
    cases node with
    | raw _ | constant _ => exact ⟨rfl, rfl⟩
    | _ => simp [Node.kind] at h
  rintro ⟨inner, bound, hstands, hreads, -⟩
  cases hstands with
  | here hinner =>
      rw [List.mem_singleton.mp hinner, hnone.1] at hreads
      cases hreads
  | inside houter hpart _ =>
      rw [List.mem_singleton.mp houter, hnone.2] at hpart
      cases hpart

/-- Of the context, evaluation reads the names that are free in the tree, and no more. Two
contexts that agree on these names, being bound there to the same value or not at all, and two
registries in which the tags of the tree are `get` or unknown alike, give the same outcome, the
same text and the same records, whatever was in the output; and so in a whole call that
composes to the tree. Where the tree is made of text, constants and loops in which no name is
free, any two contexts will do. -/
theorem render_of_free_names (nodes : List Node) (tags tags' : Registry)
    (htags : ∀ name params, Within (.tag name params) nodes → tags.AgreeOn tags' name) :
    (∀ context context' : Context,
        (∀ name, FreeIn name nodes → context.get? name = context'.get? name) →
        (∀ out, (render tags (.ofContext context) nodes).on out
            = (render tags' (.ofContext context') nodes).on out)
          ∧ ∀ store chain template, (compose store chain template).result = .ok nodes →
            tags.renderFrom store chain context template
              = tags'.renderFrom store chain context' template)
      ∧ ((∀ node ∈ nodes, node.kind = .raw ∨ node.kind = .constant
            ∨ node.kind = .loop ∧ ∀ name, ¬ FreeIn name [node]) →
        ∀ context context' : Context, ∀ out,
          (render tags (.ofContext context) nodes).on out
            = (render tags' (.ofContext context') nodes).on out) := by
  have hrender : ∀ context context' : Context,
      (∀ name, FreeIn name nodes → context.get? name = context'.get? name) →
      render tags (.ofContext context) nodes = render tags' (.ofContext context') nodes := by
    intro context context' hnames
    refine render_of_freeIn htags fun name hfree => ?_
    rw [Scope.get?_ofContext, Scope.get?_ofContext, hnames name hfree]
  refine ⟨fun context context' hnames => ⟨fun out => ?_, ?_⟩, fun hclosed context context' out => ?_⟩
  · rw [hrender context context' hnames]
  · intro store chain template hcomposed
    rw [Registry.renderFrom, Registry.renderFrom]
    rcases hcompose : compose store chain template with ⟨records, result⟩
    rw [hcompose] at hcomposed
    obtain rfl : result = .ok nodes := hcomposed
    simp only [Traced.bind_ok, hrender context context' hnames]
  · have hnone : ∀ name, ¬ FreeIn name nodes := by
      refine fun name => not_freeIn_of_forall fun node hnode => ?_
      rcases hclosed node hnode with hraw | hconstant | ⟨-, hloop⟩
      · exact not_freeIn_of_kind (.inl hraw)
      · exact not_freeIn_of_kind (.inr hconstant)
      · exact hloop name
    rw [hrender context context' fun name hfree => absurd hfree (hnone name)]

/-- Rows with a mark behind each, and more of them if there are more. -/
def rowNodes : List Node :=
  [.loop "row" (.var "rows") [.var "row", .tag "get" [.var "mark"]],
    .conditional (.last (.var "more") [.tag "more" [.var "mark"]])]

def rowContext : Context :=
  ⟨.ofList [("rows", Value.list [.text "1", .text "2"]), ("mark", .text ";"), ("row", .text "?")]⟩

def otherRowContext : Context :=
  ⟨.ofList [("rows", Value.list [.text "1", .text "2"]), ("mark", .text ";"), ("title", .text "T")]⟩

/-- A name that a loop binds, one that does not occur, and a tag that does not occur do not
matter; nor does any name for the loop over a list of its own. -/
theorem render_of_free_names_rows :
    (∀ name params, Within (.tag name params) rowNodes →
        Registry.builtin.AgreeOn (Registry.builtin.insert "title" fun _ => .write "T") name)
      ∧ (∀ name, FreeIn name rowNodes → rowContext.get? name = otherRowContext.get? name)
      ∧ (Registry.builtin.render ∅ rowContext rowNodes).result = .ok "1;2;"
      ∧ (∀ store chain template, (compose store chain template).result = .ok rowNodes →
        Registry.builtin.renderFrom store chain rowContext template
          = (Registry.builtin.insert "title" fun _ => .write "T").renderFrom store chain
              otherRowContext template)
      ∧ ∀ out, (render .builtin (.ofContext rowContext)
            [.loop "row" (.constant (.list [.bool true])) [.var "row"]]).on out
          = (render .builtin (.ofContext ∅)
            [.loop "row" (.constant (.list [.bool true])) [.var "row"]]).on out := by
  have htags : ∀ node bound, Stands node bound rowNodes → ∀ name params, node = .tag name params →
      Registry.builtin.AgreeOn (Registry.builtin.insert "title" fun _ => .write "T") name := by
    have hget : Registry.builtin.AgreeOn
        (Registry.builtin.insert "title" fun _ => .write "T") "get" := .inl ⟨rfl, rfl⟩
    have hmore : Registry.builtin.AgreeOn
        (Registry.builtin.insert "title" fun _ => .write "T") "more" := .inr ⟨rfl, rfl⟩
    simp [rowNodes, forall_stands_cons, Stands.not_nil, Node.parts, Chain.arms, hget, hmore]
  have hwithin : ∀ name params, Within (.tag name params) rowNodes →
      Registry.builtin.AgreeOn (Registry.builtin.insert "title" fun _ => .write "T") name := by
    intro name params h
    obtain ⟨bound, hstands⟩ := h.exists_stands
    exact htags _ bound hstands name params rfl
  have hreads : ∀ node bound, Stands node bound rowNodes → ∀ name ∈ node.reads, name ∉ bound →
      rowContext.get? name = otherRowContext.get? name := by
    have hrows : rowContext.get? "rows" = otherRowContext.get? "rows" := rfl
    have hmark : rowContext.get? "mark" = otherRowContext.get? "mark" := rfl
    have hmore : rowContext.get? "more" = otherRowContext.get? "more" := rfl
    simp [rowNodes, forall_stands_cons, Stands.not_nil, Node.parts, Node.binds, Node.reads,
      Node.name?, Chain.arms, hrows, hmark, hmore]
  have hnames : ∀ name, FreeIn name rowNodes →
      rowContext.get? name = otherRowContext.get? name := by
    rintro name ⟨node, bound, hstands, hname, hbound⟩
    exact hreads node bound hstands name hname hbound
  have hlist : ∀ node bound,
      Stands node bound [.loop "row" (.constant (.list [.bool true])) [.var "row"]] →
      (∀ name ∈ node.reads, name ∈ bound)
        ∧ ∀ name params, node ≠ .tag name params := by
    simp [forall_stands_cons, Stands.not_nil, Node.parts, Node.binds, Node.reads, Node.name?]
  refine ⟨hwithin, hnames, by decide +kernel, ?_, ?_⟩
  · exact ((render_of_free_names rowNodes _ _ hwithin).1 _ _ hnames).2
  · refine (render_of_free_names _ .builtin .builtin ?_).2 ?_ rowContext ∅
    · intro name params h
      obtain ⟨bound, hstands⟩ := h.exists_stands
      exact absurd rfl ((hlist _ bound hstands).2 name params)
    · refine List.forall_mem_singleton.mpr (.inr (.inr ⟨rfl, ?_⟩))
      rintro name ⟨node, bound, hstands, hname, hbound⟩
      exact hbound ((hlist node bound hstands).1 name hname)

end TemplateTree
