import TemplateTree.Proofs.Action
import TemplateTree.Proofs.Places
import TemplateTree.Proofs.Selection

/-!
# What rendering is made of

`render` puts together pieces of text, records, failures and what the tags do. A
property of actions that goes through these steps holds of rendering as a whole if it
holds of the failures and if the tags keep it, so that nothing about rendering takes an
induction over trees of its own.

Which failures these are depends on the place. `Meets` says which nodes are met, and in
which scopes: the scope of a round of a loop in its body. `Node.Raises` says what a node
can fail with in a scope. The principle is `render_closed_of_meets`, which leaves the tags
to the caller. Where places do not matter `render_closed` is enough: failures are of two
sorts then, a node that belongs to inheritance is refused where it stands, and the rest.
-/

namespace TemplateTree

open Render

/-- The kinds of node that belong to inheritance. -/
def Kind.ofInheritance : List Kind := [.extend, .block, .slot]

/-! ## Failures of single nodes -/

/-- Why a node gives no items to loop over in a scope. -/
inductive Scope.NoItems (scope : Scope) (source : Node) : RenderError → Prop where
  | unbound {name : String} (hsource : source = .var name) (hunbound : scope.get? name = none) :
      NoItems scope source (.undefinedVariable name)
  | noList {value : Value}
      (hvalue : source = .constant value ∨ ∃ name, source = .var name ∧ scope.get? name = some value)
      (hlist : ∀ items, value ≠ .list items) :
      NoItems scope source (.notAList source.kind (some value.display))
  | noValue (hvar : source.kind ≠ .var) (hconstant : source.kind ≠ .constant) :
      NoItems scope source (.notAList source.kind none)

theorem Scope.noItems_of_items {scope : Scope} {source : Node} {e : RenderError}
    (h : scope.items source = .error e) : scope.NoItems source e := by
  have helements : ∀ value,
      (source = .constant value ∨ ∃ name, source = .var name ∧ scope.get? name = some value) →
      Scope.items.elements source value = .error e → scope.NoItems source e := by
    intro value hvalue h
    cases value with
    | list items => cases h
    | bool _ | text _ =>
        cases h
        exact .noList hvalue nofun
  cases source with
  | var name =>
      rw [Scope.items] at h
      split at h
      · next hunbound =>
          cases h
          exact .unbound rfl hunbound
      · next value hvalue => exact helements value (.inr ⟨name, rfl, hvalue⟩) h
  | constant value => exact helements value (.inl rfl) h
  | _ =>
      cases h
      exact .noValue nofun nofun

theorem Scope.decide_eq_error {scope : Scope} {condition : Node} {e : RenderError}
    (h : scope.decide condition = .error e) :
    condition.kind ≠ .var ∧ condition.kind ≠ .constant ∧ e = .undecidableCondition condition.kind := by
  cases condition with
  | var _ | constant _ => cases h
  | _ =>
      cases h
      exact ⟨nofun, nofun, rfl⟩

/-! ## Where nodes are met -/

/-- A scope in which the parts of a node are rendered: that of a round, if it is a loop, and
else the scope of the node. -/
def Node.Opens (scope inner : Scope) : Node → Prop
  | .loop item source _ =>
      ∃ items value, scope.items source = .ok items ∧ value ∈ items ∧ inner = scope.bind item value
  | _ => inner = scope

/-- The node can be met in the scope `inner` when `nodes` are rendered in `scope`. -/
inductive Meets (node : Node) (inner : Scope) : Scope → List Node → Prop where
  | here {nodes : List Node} (hnode : node ∈ nodes) : Meets node inner inner nodes
  | inside {scope middle : Scope} {nodes part : List Node} {outer : Node} (houter : outer ∈ nodes)
      (hpart : part ∈ outer.parts) (hopens : outer.Opens scope middle)
      (hmeets : Meets node inner middle part) : Meets node inner scope nodes

/-- What a node can fail with in a scope, if it is no tag. -/
inductive Node.Raises (scope : Scope) : Node → RenderError → Prop where
  | var {name : String} (hunbound : scope.get? name = none) :
      Raises scope (.var name) (.undefinedVariable name)
  | conditional {chain : Chain} {condition : Node} {body : List Node} {e : RenderError}
      (harm : (condition, body) ∈ chain.arms) (hdecide : scope.decide condition = .error e) :
      Raises scope (.conditional chain) e
  | loop {item : String} {source : Node} {body : List Node} {e : RenderError}
      (hitems : scope.items source = .error e) : Raises scope (.loop item source body) e
  | inherited {node : Node} (hkind : node.kind ∈ Kind.ofInheritance) :
      Raises scope node (.unresolvedNode node.kind)

section Meets

variable {node : Node} {scope inner : Scope} {nodes : List Node}

theorem Meets.of_mem {outer : Node} (houter : outer ∈ nodes) (h : Meets node inner scope [outer]) :
    Meets node inner scope nodes := by
  cases h with
  | here hnode =>
      obtain rfl := List.mem_singleton.mp hnode
      exact .here houter
  | inside houter' hpart hopens hmeets =>
      obtain rfl := List.mem_singleton.mp houter'
      exact .inside houter hpart hopens hmeets

theorem Meets.within (h : Meets node inner scope nodes) : Within node nodes := by
  induction h with
  | here hnode => exact .here hnode
  | inside houter hpart _ _ ih => exact .inside houter hpart ih

theorem Node.Opens.bindings {outer : Node} (h : outer.Opens scope inner) :
    inner.context = scope.context
      ∧ inner.frames.map (·.1) = outer.binds ++ scope.frames.map (·.1) := by
  cases outer with
  | loop item source body =>
      obtain ⟨items, value, -, -, rfl⟩ := h
      exact ⟨rfl, rfl⟩
  | _ =>
      obtain rfl : inner = scope := h
      exact ⟨rfl, rfl⟩

/-- The frames of the scope in which a node is met are those of the loops around it. -/
theorem Meets.stands (h : Meets node inner scope nodes) :
    ∃ bound, Stands node bound nodes ∧ inner.context = scope.context
      ∧ inner.frames.map (·.1) = bound ++ scope.frames.map (·.1) := by
  induction h with
  | here hnode => exact ⟨[], .here hnode, rfl, rfl⟩
  | inside houter hpart hopens _ ih =>
      obtain ⟨bound, hstands, hcontext, hframes⟩ := ih
      obtain ⟨hcontext', hframes'⟩ := hopens.bindings
      refine ⟨_, .inside houter hpart hstands, hcontext.trans hcontext', ?_⟩
      rw [hframes, hframes', List.append_assoc]

theorem Meets.stands_ofContext {context : Context}
    (h : Meets node inner (.ofContext context) nodes) :
    Stands node (inner.frames.map (·.1)) nodes ∧ inner.context = context := by
  obtain ⟨bound, hstands, hcontext, hframes⟩ := h.stands
  obtain rfl : inner.frames.map (·.1) = bound := hframes.trans (List.append_nil bound)
  exact ⟨hstands, hcontext⟩

end Meets

/-! ## Properties that go through -/

theorem mem_parameters {tags : Registry} {scope : Scope} {param : Param} {nodes : List Node}
    (h : param ∈ parameters tags scope nodes) :
    ∃ node ∈ nodes, param.render = node.render tags scope := by
  induction nodes with
  | nil =>
      rw [parameters] at h
      cases h
  | cons node nodes ih =>
      rw [parameters] at h
      rcases List.mem_cons.mp h with rfl | h
      · exact ⟨node, List.mem_cons_self, rfl⟩
      · obtain ⟨other, hother, hrender⟩ := ih h
        exact ⟨other, List.mem_cons_of_mem _ hother, hrender⟩

section Closed

variable {P : (α : Type) → Render α → Prop} {tags : Registry}

theorem render_closed_of_forall (hP : Closed P) {scope : Scope} {nodes : List Node}
    (hnodes : ∀ node ∈ nodes, P Unit (node.render tags scope)) :
    P Unit (render tags scope nodes) := by
  induction nodes with
  | nil =>
      rw [render]
      exact hP.pure ()
  | cons node nodes ih =>
      rw [List.forall_mem_cons] at hnodes
      rw [render]
      exact hP.bind hnodes.1 fun _ => ih hnodes.2

theorem Chain.render_closed (hP : Closed P) {scope : Scope} {chain : Chain}
    (harms : ∀ condition body, (condition, body) ∈ chain.arms →
      (∀ e, scope.decide condition = .error e → P Unit (throw e))
        ∧ P Unit (TemplateTree.render tags scope body)) :
    P Unit (chain.render tags scope) := by
  have hrenders := chain.renders_render tags scope
  generalize chain.render tags scope = action at hrenders ⊢
  cases hrenders with
  | nothing _ => exact hP.pure ()
  | body hreaches _ => exact (harms _ _ hreaches.mem_arms).2
  | undecided hreaches hnone =>
      refine (harms _ _ hreaches.mem_arms).1 _ ?_
      rw [Scope.decide, hnone]

/-- What goes through the steps of rendering holds of a node if it holds of its failures and
of the nodes in its parts. Tags are in the hands of the caller. -/
theorem Node.render_closed_of_parts (hP : Closed P) {node : Node} {scope : Scope}
    (hraises : ∀ e, node.Raises scope e → P Unit (throw e))
    (htag : ∀ name params, node = .tag name params →
      (∀ param ∈ parameters tags scope params, P Unit param.render) →
      P Unit (node.render tags scope))
    (hparts : ∀ part ∈ node.parts, ∀ inner, node.Opens scope inner →
      ∀ n ∈ part, P Unit (n.render tags inner)) :
    P Unit (node.render tags scope) := by
  cases node with
  | raw text =>
      rw [Node.render]
      exact hP.write text
  | constant value =>
      rw [Node.render]
      exact hP.write _
  | var name =>
      rw [Node.render]
      split
      · exact hP.write _
      · next hunbound => exact hraises _ (.var hunbound)
  | tag name params =>
      refine htag name params rfl fun param hparam => ?_
      obtain ⟨n, hn, hrender⟩ := mem_parameters hparam
      rw [hrender]
      exact hparts params List.mem_cons_self scope rfl n hn
  | conditional chain =>
      rw [Node.render]
      refine chain.render_closed hP fun condition body harm => ⟨fun e he => ?_, ?_⟩
      · exact hraises e (.conditional harm he)
      · exact render_closed_of_forall hP
          (hparts body (List.mem_map.mpr ⟨_, harm, rfl⟩) scope rfl)
  | loop item source body =>
      rw [Node.render]
      refine of_liftM_bind (fun e he => hraises e (.loop he)) fun items hitems => ?_
      refine hP.bind (hP.record _) fun _ => hP.forM fun value hvalue => ?_
      exact render_closed_of_forall hP
        (hparts body List.mem_cons_self _ ⟨items, value, hitems, hvalue, rfl⟩)
  | extend _ _ | block _ _ | slot _ =>
      rw [Node.render]
      exact hraises _ (.inherited (by simp [Kind.ofInheritance, Node.kind]))

/-- What goes through the steps of rendering holds of it, if it holds of the failures of the
nodes that can be met, and of the tags among them whenever it holds of their parameters. -/
theorem render_closed_of_meets (hP : Closed P) {scope : Scope} {nodes : List Node}
    (hraises : ∀ n inner, Meets n inner scope nodes → ∀ e, n.Raises inner e → P Unit (throw e))
    (htag : ∀ name params inner, Meets (.tag name params) inner scope nodes →
      (∀ param ∈ parameters tags inner params, P Unit param.render) →
      P Unit ((Node.tag name params).render tags inner)) :
    P Unit (render tags scope nodes) := by
  have hnode : ∀ node : Node, ∀ scope,
      (∀ n inner, Meets n inner scope [node] → ∀ e, n.Raises inner e → P Unit (throw e)) →
      (∀ name params inner, Meets (.tag name params) inner scope [node] →
        (∀ param ∈ parameters tags inner params, P Unit param.render) →
        P Unit ((Node.tag name params).render tags inner)) →
      P Unit (node.render tags scope) := by
    intro node
    induction node using Node.induct_parts with
    | step outer ih =>
        intro scope hraises htag
        refine Node.render_closed_of_parts hP (hraises outer scope (.here List.mem_cons_self)) ?_ ?_
        · rintro name params rfl
          exact htag name params scope (.here List.mem_cons_self)
        · intro part hpart middle hopens n hn
          have hinside : ∀ m inner, Meets m inner middle [n] → Meets m inner scope [outer] :=
            fun m inner hm => .inside List.mem_cons_self hpart hopens (hm.of_mem hn)
          exact ih part hpart n hn middle
            (fun m inner hm => hraises m inner (hinside m inner hm))
            (fun name params inner hm => htag name params inner (hinside _ inner hm))
  refine render_closed_of_forall hP fun node hmem => hnode node scope ?_ ?_
  · exact fun n inner hn => hraises n inner (hn.of_mem hmem)
  · exact fun name params inner hn => htag name params inner (hn.of_mem hmem)

/-- What goes through the steps of rendering, and holds of the failures it meets,
holds of rendering, if the tags keep it. -/
theorem render_closed (hP : Closed P) (htags : tags.Keeps (P Unit))
    (hthrow : ∀ e, (∀ kind, e ≠ .unresolvedNode kind) → P Unit (throw e)) {nodes : List Node}
    (hnodes : ∀ n, Within n nodes → n.kind ∈ Kind.ofInheritance →
      P Unit (throw (.unresolvedNode n.kind)))
    (scope : Scope) : P Unit (render tags scope nodes) := by
  refine render_closed_of_meets hP ?_ ?_
  · intro n inner hn e hraises
    cases hraises with
    | var _ => exact hthrow _ nofun
    | conditional _ hdecide =>
        obtain ⟨-, -, rfl⟩ := Scope.decide_eq_error hdecide
        exact hthrow _ nofun
    | loop hitems =>
        cases Scope.noItems_of_items hitems with
        | unbound _ _ | noList _ _ | noValue _ _ => exact hthrow _ nofun
    | inherited hkind => exact hnodes n hn.within hkind
  · intro name params inner _ hparams
    rw [Node.render]
    split
    · exact hthrow _ nofun
    · next handler hhandler =>
        exact hP.bind (hP.record _) fun _ => htags name handler hhandler _ hparams

end Closed

/-! ## The tag that is built in -/

theorem length_parameters (tags : Registry) (scope : Scope) (nodes : List Node) :
    (parameters tags scope nodes).length = nodes.length := by
  induction nodes with
  | nil => rw [parameters]; rfl
  | cons node nodes ih => rw [parameters, List.length_cons, List.length_cons, ih]

theorem render_tag_of_getHandler {tags : Registry} {name : String}
    (h : tags.get? name = some getHandler) (scope : Scope) (params : List Node) :
    (Node.tag name params).render tags scope
      = (do
        .record (.tag name params.length)
        if params.length = 1 then render tags scope params
        else throw (.invalidTagArity name params.length)) := by
  rw [Node.render, h]
  show (Render.record _ >>= fun _ => getHandler _) = _
  rw [getHandler_eq]
  match params with
  | [] => rw [parameters]; rfl
  | [param] => rw [parameters, parameters, if_pos List.length_singleton, render_singleton]
  | first :: second :: rest =>
      rw [parameters, parameters, if_neg (by simp)]
      simp only [List.length_cons, length_parameters]

theorem render_tag_get (scope : Scope) (params : List Node) :
    (Node.tag "get" params).render .builtin scope
      = (do
        .record (.tag "get" params.length)
        if params.length = 1 then render .builtin scope params
        else throw (.invalidTagArity "get" params.length)) :=
  render_tag_of_getHandler (by rw [get?_builtin, if_pos rfl]) scope params

theorem render_tag_of_ne {name : String} (h : name ≠ "get") (scope : Scope)
    (params : List Node) :
    (Node.tag name params).render .builtin scope = throw (.unknownTag name) := by
  rw [Node.render, get?_builtin, if_neg h.symm]

end TemplateTree
