import TemplateTree.Proofs.Rendering

/-!
# Scopes as maps

A scope is a context with a frame for each loop around the place, and a name is looked up
from the innermost frame outwards. One would as soon keep a single map and overwrite it:
this file says that it comes to the same. What is rendered depends on a scope only by what
it answers when a name is looked up (`render_congr`), a frame answers as an overwritten
entry does (`get?_bindAll`), and a loop leaves nothing behind, since the frame is gone with
the scope that holds it.

Tags are run by code from elsewhere, which could look at the frames themselves. So that of
two scopes with the same answers it cannot tell one from the other, it has to be content
with looking names up and with reading conditions (`Handler.ReadsByName`).

That two runs over one tree do the same is shown node by node, and `Node.render_eq_of_parts`
says what has to be shown of a node: that the scopes agree on the names it looks up itself, and
that its parts do the same inside the loop it may be. The tags are left open there.

The map may hold the empty name, which no context of a caller does: a loop may bind it.
-/

namespace TemplateTree

/-! ## Answers of a scope -/

/-- The scope inside loops that bind these names, the outermost first. -/
def Scope.bindAll (scope : Scope) (frames : List (String × Value)) : Scope :=
  frames.foldl (fun scope frame => scope.bind frame.1 frame.2) scope

/-- The context with each of these names bound anew, one after the other. -/
def Context.overwrite (context : Context) (frames : List (String × Value)) : Context :=
  ⟨frames.foldl (fun bindings frame => bindings.insert frame.1 frame.2) context.bindings⟩

namespace Context

theorem overwrite_cons (context : Context) (frame : String × Value)
    (frames : List (String × Value)) :
    context.overwrite (frame :: frames) = (context.overwrite [frame]).overwrite frames :=
  rfl

theorem get?_overwrite_singleton (context : Context) (frame : String × Value) (name : String) :
    (context.overwrite [frame]).get? name
      = if frame.1 = name then some frame.2 else context.get? name := by
  simp [overwrite, get?, Std.ExtTreeMap.getElem?_insert]

end Context

/-- The name that the node stands for, if it is a variable. -/
def Node.name? : Node → Option String
  | .var name => some name
  | _ => none

/-- The names that the node itself looks up: to output them, to decide its conditions, or for
its elements. -/
def Node.reads : Node → List String
  | .var name => [name]
  | .conditional chain => chain.arms.filterMap (·.1.name?)
  | .loop _ source _ => source.name?.toList
  | _ => []

namespace Scope

variable {scope scope' : Scope}

theorem bindAll_snoc (scope : Scope) (frames : List (String × Value)) (name : String)
    (value : Value) :
    scope.bindAll (frames ++ [(name, value)]) = (scope.bindAll frames).bind name value :=
  List.foldl_append

/-- Frames answer as entries that were overwritten. -/
theorem get?_bindAll {context : Context} (h : ∀ name, scope.get? name = context.get? name)
    (frames : List (String × Value)) (name : String) :
    (scope.bindAll frames).get? name = (context.overwrite frames).get? name := by
  induction frames generalizing scope context with
  | nil => exact h name
  | cons frame frames ih =>
      rw [Context.overwrite_cons]
      refine ih fun other => ?_
      simp only [get?_bind, Context.get?_overwrite_singleton, h, eq_comm]

/-- Two scopes answer alike inside the same loops if they do outside for the names that the
loops do not bind. -/
theorem get?_bindAll_congr {frames : List (String × Value)} {name : String}
    (h : name ∉ frames.map (·.1) → scope.get? name = scope'.get? name) :
    (scope.bindAll frames).get? name = (scope'.bindAll frames).get? name := by
  induction frames generalizing scope scope' with
  | nil => exact h List.not_mem_nil
  | cons frame frames ih =>
      refine ih fun hrest => ?_
      rw [get?_bind, get?_bind]
      split
      · rfl
      · next hne => exact h (List.not_mem_cons_of_ne_of_not_mem hne hrest)

theorem truth?_congr {condition : Node}
    (h : ∀ name ∈ condition.name?, scope.get? name = scope'.get? name) :
    scope.truth? condition = scope'.truth? condition := by
  cases condition with
  | var name => rw [truth?, truth?, h name rfl]
  | _ => rfl

theorem decide_congr {condition : Node}
    (h : ∀ name ∈ condition.name?, scope.get? name = scope'.get? name) :
    scope.decide condition = scope'.decide condition := by
  rw [decide, decide, truth?_congr h]

theorem items_congr {source : Node}
    (h : ∀ name ∈ source.name?, scope.get? name = scope'.get? name) :
    scope.items source = scope'.items source := by
  cases source with
  | var name => simp only [items, h name rfl]
  | _ => rfl

end Scope

/-! ## What is rendered in it -/

/-- Of its scope, the handler uses no more than what names are bound to and how nodes read
as conditions. -/
def Handler.ReadsByName (handler : Handler) : Prop :=
  ∃ act : String → List Param → (String → Option Value) → (Node → Option Bool) → Render Unit,
    ∀ call, handler call = act call.name call.params call.scope.get? call.scope.truth?

def Registry.ReadsByName (tags : Registry) : Prop :=
  ∀ name handler, tags.get? name = some handler → handler.ReadsByName

theorem readsByName_getHandler : Handler.ReadsByName getHandler :=
  ⟨fun name params _ _ => getHandler ⟨name, params, .ofContext ∅⟩, fun _ => rfl⟩

theorem readsByName_builtin : Registry.builtin.ReadsByName := by
  intro name handler h
  rw [get?_builtin] at h
  split at h
  · cases h
    exact readsByName_getHandler
  · cases h

section Parts

variable {tags tags' : Registry} {scope scope' : Scope}

theorem render_eq_of_forall {nodes : List Node}
    (h : ∀ node ∈ nodes, node.render tags scope = node.render tags' scope') :
    render tags scope nodes = render tags' scope' nodes := by
  induction nodes with
  | nil => rw [render, render]
  | cons node nodes ih =>
      rw [List.forall_mem_cons] at h
      rw [render, render, h.1, ih h.2]

theorem parameters_eq_of_forall {nodes : List Node}
    (h : ∀ node ∈ nodes, node.render tags scope = node.render tags' scope') :
    parameters tags scope nodes = parameters tags' scope' nodes := by
  induction nodes with
  | nil => rw [parameters, parameters]
  | cons node nodes ih =>
      rw [List.forall_mem_cons] at h
      rw [parameters, parameters, h.1, ih h.2]

theorem Chain.render_eq_of_arms {chain : Chain}
    (h : ∀ condition body, (condition, body) ∈ chain.arms →
      scope.decide condition = scope'.decide condition
        ∧ TemplateTree.render tags scope body = TemplateTree.render tags' scope' body) :
    chain.render tags scope = chain.render tags' scope' := by
  match chain with
  | .last condition body =>
      obtain ⟨hdecide, hbody⟩ := h condition body List.mem_cons_self
      rw [Chain.render, Chain.render, hdecide, hbody]
  | .more condition body next =>
      obtain ⟨hdecide, hbody⟩ := h condition body List.mem_cons_self
      rw [Chain.render, Chain.render, hdecide, hbody, next.render_eq_of_arms fun condition' body' harm =>
        h condition' body' (List.mem_cons_of_mem _ harm)]

/-- A node is rendered alike by two registries in two scopes, if the scopes answer alike for
the names it looks up, and the nodes in its parts are rendered alike inside the loop that it
may be. What a tag makes of parameters that are rendered alike is left to the caller. -/
theorem Node.render_eq_of_parts {node : Node}
    (hreads : ∀ name ∈ node.reads, scope.get? name = scope'.get? name)
    (htag : ∀ name params, node = .tag name params →
      parameters tags scope params = parameters tags' scope' params →
      node.render tags scope = node.render tags' scope')
    (hparts : ∀ part ∈ node.parts, ∀ n ∈ part, ∀ frames : List (String × Value),
      frames.map (·.1) = node.binds →
      n.render tags (scope.bindAll frames) = n.render tags' (scope'.bindAll frames)) :
    node.render tags scope = node.render tags' scope' := by
  cases node with
  | raw _ | constant _ | extend _ _ | block _ _ | slot _ => rw [Node.render, Node.render]
  | var name => rw [Node.render, Node.render, hreads name List.mem_cons_self]
  | tag name params =>
      refine htag name params rfl (parameters_eq_of_forall fun n hn => ?_)
      exact hparts params List.mem_cons_self n hn [] rfl
  | conditional chain =>
      rw [Node.render, Node.render]
      refine chain.render_eq_of_arms fun condition body harm => ⟨?_, ?_⟩
      · refine Scope.decide_congr fun name hname => hreads name ?_
        exact List.mem_filterMap.mpr ⟨_, harm, hname⟩
      · refine render_eq_of_forall fun n hn => ?_
        exact hparts body (List.mem_map.mpr ⟨_, harm, rfl⟩) n hn [] rfl
  | loop item source body =>
      have hitems : scope.items source = scope'.items source :=
        Scope.items_congr fun name hname => hreads name (Option.mem_toList.mpr hname)
      have hround : ∀ value, TemplateTree.render tags (scope.bind item value) body
          = TemplateTree.render tags' (scope'.bind item value) body := fun value =>
        render_eq_of_forall fun n hn => hparts body List.mem_cons_self n hn [(item, value)] rfl
      rw [Node.render, Node.render, hitems]
      simp only [hround]

end Parts

section Congr

variable {tags : Registry}

theorem Node.render_congr (htags : tags.ReadsByName) {scope scope' : Scope}
    (h : ∀ name, scope.get? name = scope'.get? name) (node : Node) :
    node.render tags scope = node.render tags scope' := by
  induction node using Node.induct_parts generalizing scope scope' with
  | step outer ih =>
      refine Node.render_eq_of_parts (fun name _ => h name) ?_ ?_
      · rintro name params rfl hparams
        rw [Node.render, Node.render]
        split
        · rfl
        · next handler hhandler =>
            obtain ⟨act, hact⟩ := htags name handler hhandler
            have hget : scope.get? = scope'.get? := funext h
            have htruth : scope.truth? = scope'.truth? :=
              funext fun _ => Scope.truth?_congr fun name _ => h name
            rw [hact, hact, hget, htruth, hparams]
      · intro part hpart n hn frames _
        exact ih part hpart n hn fun name => Scope.get?_bindAll_congr fun _ => h name

/-- Rendering does the same in two scopes that answer the same. -/
theorem render_congr (htags : tags.ReadsByName) {scope scope' : Scope}
    (h : ∀ name, scope.get? name = scope'.get? name) (nodes : List Node) :
    render tags scope nodes = render tags scope' nodes :=
  render_eq_of_forall fun node _ => node.render_congr htags h

end Congr

/-- Inside loops, rendering does what it does in a single map that is overwritten with what
the loops bind, the outermost first: it ends alike, appends the same text and leaves the same
records, whatever was there before. So it is with a loop in that place: each round of its
body has the map with one more entry overwritten, and what comes after the loop has the map
as it was. The tags may be those that are built in, or any that use of their scope only
what names are bound to and how conditions read. -/
theorem render_bindAll :
    Registry.builtin.ReadsByName
      ∧ ∀ tags : Registry, tags.ReadsByName →
        ∀ (context : Context) (frames : List (String × Value)),
        (∀ nodes, render tags ((Scope.ofContext context).bindAll frames) nodes
            = render tags (.ofContext (context.overwrite frames)) nodes)
          ∧ ∀ item source body after,
            render tags ((Scope.ofContext context).bindAll frames)
                (.loop item source body :: after)
              = (do
                let items ← (Scope.ofContext (context.overwrite frames)).items source
                .record (.loop item items.length)
                items.forM fun value =>
                  render tags (.ofContext (context.overwrite (frames ++ [(item, value)]))) body
                render tags (.ofContext (context.overwrite frames)) after) := by
  refine ⟨readsByName_builtin, fun tags htags context => ?_⟩
  have hflat : ∀ frames nodes, render tags ((Scope.ofContext context).bindAll frames) nodes
      = render tags (.ofContext (context.overwrite frames)) nodes := by
    intro frames nodes
    refine render_congr htags (fun name => ?_) nodes
    rw [Scope.get?_bindAll (Scope.get?_ofContext context), Scope.get?_ofContext]
  refine fun frames => ⟨hflat frames, fun item source body after => ?_⟩
  have hround : ∀ value, render tags (((Scope.ofContext context).bindAll frames).bind item value) body
      = render tags (.ofContext (context.overwrite (frames ++ [(item, value)]))) body := by
    intro value
    rw [← hflat, Scope.bindAll_snoc]
  have hitems : ((Scope.ofContext context).bindAll frames).items source
      = (Scope.ofContext (context.overwrite frames)).items source := by
    refine Scope.items_congr fun name _ => ?_
    rw [Scope.get?_bindAll (Scope.get?_ofContext context), Scope.get?_ofContext]
  rw [render, Node.render, hflat, hitems]
  simp only [hround, bind_assoc]

/-- Writes what the names given as raw text are bound to, and renders any other parameter. -/
def boundHandler : Handler := fun call =>
  call.params.forM fun param =>
    match param.node with
    | .raw name => .write (((call.scope.get? name).map Value.display).getD "?")
    | _ => param.render

/-- In a loop over a name that two outer loops bind, next to one that binds the empty name. -/
def shadowingNodes : List Node :=
  [.var "i", .tag "bound" [.raw "", .raw "j"],
    .loop "i" (.constant (.list [.text "x", .text "y"])) [.var "i", .tag "bound" [.raw "i"]],
    .var "i"]

/-- The innermost binding is in the map, and is there again after the loop. -/
theorem render_bindAll_shadowing :
    (Registry.builtin.insert "bound" boundHandler).ReadsByName
      ∧ (render (Registry.builtin.insert "bound" boundHandler)
          ((Scope.ofContext ∅).bindAll [("i", .text "a"), ("", .text "b"), ("i", .text "c")])
          shadowingNodes).traced.result
        = .ok "cb?xxyyc" := by
  have htags : (Registry.builtin.insert "bound" boundHandler).ReadsByName := by
    intro name handler h
    rw [Registry.get?_insert] at h
    split at h
    · cases h
      exact ⟨fun _ params get _ => params.forM fun param =>
        match param.node with
        | .raw name => .write (((get name).map Value.display).getD "?")
        | _ => param.render, fun _ => rfl⟩
    · exact readsByName_builtin name handler h
  refine ⟨htags, ?_⟩
  rw [(render_bindAll.2 _ htags _ _).1]
  rfl

end TemplateTree
