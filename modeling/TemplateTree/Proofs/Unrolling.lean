import TemplateTree.Proofs.FlatScope
import TemplateTree.Proofs.Hollow
import TemplateTree.Proofs.Unresolved

/-!
# Loops unrolled

A loop over a list that is written into the tree renders its body once for each element, with
the element bound to the item. The same text comes from a tree without that loop: from the
bodies one after the other, each with the element written in wherever the item occurs free.

The heart of it is the substitution lemma (`alike_substitute`): a tree in a scope that binds a
name is rendered like the tree with the value in place of the name in a scope without the
binding. It goes through the tree with the two scopes side by side. An inner loop that binds
another name binds it in both. One that binds the same name hides the difference: its body
stays as it is, and the two scopes answer alike for every name in it.

The records are not the same, since a loop leaves one, and one failure is worded differently:
where an element is no list and an inner loop goes over it, the source of that loop is a
variable in the one tree and a constant in the other (`RenderError.UpToSource`).
-/

namespace TemplateTree

open Render

/-! ## A value in place of a name -/

/-- The value, if the node is the variable of this name. -/
def Node.assign (name : String) (value : Value) : Node → Node
  | .var other => if other = name then .constant value else .var other
  | node => node

mutual

/-- The node with the value in place of the name wherever the name occurs free: in output, as
a condition and as the source of a loop. The body of a loop that binds the name stays as it
is, but not its source. -/
def Node.substitute (name : String) (value : Value) : Node → Node
  | .var other => (Node.var other).assign name value
  | .tag tag params => .tag tag (substitute name value params)
  | .conditional chain => .conditional (chain.substitute name value)
  | .loop item source body =>
      .loop item (source.assign name value)
        (if item = name then body else substitute name value body)
  | .raw text => .raw text
  | .constant constant => .constant constant
  | .extend key exports => .extend key exports
  | .block key body => .block key body
  | .slot key => .slot key

def Chain.substitute (name : String) (value : Value) : Chain → Chain
  | .last condition body =>
      .last (condition.assign name value) (TemplateTree.substitute name value body)
  | .more condition body next =>
      .more (condition.assign name value) (TemplateTree.substitute name value body)
        (next.substitute name value)

def substitute (name : String) (value : Value) : List Node → List Node
  | [] => []
  | node :: nodes => node.substitute name value :: substitute name value nodes

end

/-- The bodies of all rounds of a loop, one after the other. -/
def unroll (item : String) (values : List Value) (body : List Node) : List Node :=
  values.flatMap fun value => substitute item value body

theorem length_substitute (name : String) (value : Value) (nodes : List Node) :
    (substitute name value nodes).length = nodes.length := by
  induction nodes with
  | nil => rw [substitute]
  | cons node nodes ih => rw [substitute, List.length_cons, List.length_cons, ih]

/-! ## Actions that do the same -/

/-- The same failure, or one that names the source of a loop as a constant in place of a
variable. -/
inductive RenderError.UpToSource : RenderError → RenderError → Prop where
  | refl (e : RenderError) : UpToSource e e
  | source (found : String) :
      UpToSource (.notAList .var (some found)) (.notAList .constant (some found))

/-- Both succeed with the same, or both fail in the same way. -/
inductive SameOutcome {α : Type} : Except RenderError α → Except RenderError α → Prop where
  | ok (a : α) : SameOutcome (.ok a) (.ok a)
  | error {e e' : RenderError} (h : e.UpToSource e') : SameOutcome (.error e) (.error e')

theorem SameOutcome.refl {α : Type} (result : Except RenderError α) :
    SameOutcome result result := by
  cases result with
  | error e => exact .error (.refl e)
  | ok a => exact .ok a

theorem SameOutcome.eq_ok_iff {α : Type} {result result' : Except RenderError α} {a : α}
    (h : SameOutcome result result') : result = .ok a ↔ result' = .ok a := by
  cases h with
  | ok b => rfl
  | error _ => simp

namespace Render

variable {α β : Type}

/-- On outputs with the same text, the actions have the same outcome and leave the same text.
Their records do not matter. -/
def Alike (x y : Render α) : Prop :=
  ∀ out out', out.text = out'.text →
    SameOutcome (x.on out).1 (y.on out').1 ∧ (x.on out).2.text = (y.on out').2.text

theorem alike_throw {e e' : RenderError} (h : e.UpToSource e') :
    Alike (throw e : Render α) (throw e') :=
  fun _ _ htext => ⟨.error h, htext⟩

theorem Alike.bind {x y : Render α} {f g : α → Render β} (hx : Alike x y)
    (hf : ∀ a, Alike (f a) (g a)) : Alike (x >>= f) (y >>= g) := by
  intro out out' htext
  obtain ⟨houtcome, hrest⟩ := hx out out' htext
  rcases hxon : x.on out with ⟨result, rest⟩
  rcases hyon : y.on out' with ⟨result', rest'⟩
  rw [hxon, hyon] at houtcome hrest
  cases houtcome with
  | ok a =>
      rw [on_bind_of_ok hxon, on_bind_of_ok hyon]
      exact hf a rest rest' hrest
  | error h =>
      rw [on_bind_of_error hxon, on_bind_of_error hyon]
      exact ⟨.error h, hrest⟩

theorem alike_pure (a : α) : Alike (pure a : Render α) (pure a) :=
  fun _ _ htext => ⟨.ok a, htext⟩

theorem alike_write (s : String) : Alike (write s) (write s) :=
  fun _ _ htext => ⟨.ok (), by simp [htext]⟩

theorem alike_record (r r' : Record) : Alike (record r) (record r') :=
  fun _ _ htext => ⟨.ok (), htext⟩

/-- A record makes no difference. -/
theorem Alike.record_bind {x y : Render α} (h : Alike x y) (r : Record) :
    Alike (record r >>= fun _ => x) y := by
  intro out out' htext
  rw [on_bind_of_ok (on_record r out)]
  exact h _ out' htext

theorem alike_liftM_bind {result result' : Except RenderError α} {f g : α → Render β}
    (h : SameOutcome result result') (hf : ∀ a, Alike (f a) (g a)) :
    Alike (liftM result >>= f) (liftM result' >>= g) := by
  cases h with
  | ok a => exact hf a
  | error h => exact alike_throw h

theorem alike_forM {items : List α} {f g : α → Render Unit} (h : ∀ a, Alike (f a) (g a)) :
    Alike (items.forM f) (items.forM g) := by
  induction items with
  | nil => exact alike_pure ()
  | cons a items ih =>
      rw [List.forM_eq_forM] at ih ⊢
      rw [List.forM_cons, List.forM_cons]
      exact (h a).bind fun _ => ih

theorem closed_alike : Closed fun _ x => Alike x x where
  pure := alike_pure
  bind := Alike.bind
  write := alike_write
  record r := alike_record r r

theorem Alike.sameOutcome_traced {x y : Render Unit} (h : Alike x y) :
    SameOutcome x.traced.result y.traced.result := by
  obtain ⟨houtcome, htext⟩ := h .empty .empty rfl
  rw [result_traced, result_traced, htext]
  generalize (x.on .empty).1 = result, (y.on .empty).1 = result' at houtcome
  cases houtcome with
  | ok _ => exact .ok _
  | error h => exact .error h

end Render

/-- Rendering with the tags that are built in does not depend on what is recorded. -/
theorem alike_render (scope : Scope) (nodes : List Node) :
    Alike (render .builtin scope nodes) (render .builtin scope nodes) :=
  render_closed closed_alike (keeps_builtin fun _ _ => alike_throw (.refl _))
    (fun e _ => alike_throw (.refl e)) (fun _ _ _ => alike_throw (.refl _)) scope

/-! ## The substitution lemma -/

/-- The first scope binds the name to the value, and answers like the second for all other
names. -/
structure Scope.Assigns (scope scope' : Scope) (name : String) (value : Value) : Prop where
  bound : scope.get? name = some value
  others : ∀ other, other ≠ name → scope.get? other = scope'.get? other

namespace Scope.Assigns

variable {scope scope' : Scope} {name : String} {value : Value}

theorem of_bind (scope : Scope) (name : String) (value : Value) :
    (scope.bind name value).Assigns scope name value where
  bound := by rw [get?_bind, if_pos rfl]
  others other h := by rw [get?_bind, if_neg h]

theorem bind (h : scope.Assigns scope' name value) {item : String} (hitem : item ≠ name)
    (v : Value) : (scope.bind item v).Assigns (scope'.bind item v) name value where
  bound := by rw [get?_bind, if_neg hitem.symm, h.bound]
  others other hother := by rw [get?_bind, get?_bind, h.others other hother]

/-- A loop that binds the name once more hides the difference. -/
theorem get?_bind_self (h : scope.Assigns scope' name value) (v : Value) (other : String) :
    (scope.bind name v).get? other = (scope'.bind name v).get? other := by
  rw [get?_bind, get?_bind]
  split
  · rfl
  · next hother => exact h.others other hother

theorem decide_assign (h : scope.Assigns scope' name value) (condition : Node) :
    scope.decide condition = scope'.decide (condition.assign name value) := by
  cases condition with
  | var other =>
      rw [Node.assign]
      split
      · next hother => simp [decide, truth?, hother, h.bound]
      · next hother => simp [decide, truth?, h.others other hother]
  | _ => rfl

/-- Of all that looks a name up, loops alone tell a variable from a constant, when they
refuse it. -/
theorem items_assign (h : scope.Assigns scope' name value) (source : Node) :
    SameOutcome (scope.items source) (scope'.items (source.assign name value)) := by
  cases source with
  | var other =>
      rw [Node.assign]
      split
      · next hother =>
          rw [items, hother, h.bound, items]
          cases value with
          | list values => exact .ok values
          | bool b => exact .error (.source _)
          | text s => exact .error (.source _)
      · next hother =>
          rw [items, h.others other hother, items]
          exact .refl _
  | _ => exact .refl _

end Scope.Assigns

mutual

theorem Node.alike_substitute {scope scope' : Scope} {name : String} {value : Value}
    (h : scope.Assigns scope' name value) (node : Node) :
    Alike (node.render .builtin scope) ((node.substitute name value).render .builtin scope') := by
  match node with
  | .raw _ | .constant _ =>
      rw [Node.substitute, Node.render, Node.render]
      exact alike_write _
  | .extend _ _ | .block _ _ | .slot _ =>
      rw [Node.substitute, Node.render, Node.render]
      exact alike_throw (.refl _)
  | .var other =>
      rw [Node.substitute, Node.assign]
      by_cases hother : other = name
      · rw [if_pos hother, hother, Node.render, Node.render, h.bound]
        exact alike_write _
      · rw [if_neg hother, Node.render, Node.render, h.others other hother]
        split
        · exact alike_write _
        · exact alike_throw (.refl _)
  | .tag tag params =>
      rw [Node.substitute]
      by_cases htag : tag = "get"
      · subst htag
        rw [render_tag_get, render_tag_get, length_substitute]
        refine (alike_record _ _).bind fun _ => ?_
        split
        · exact alike_substitute h params
        · exact alike_throw (.refl _)
      · rw [render_tag_of_ne htag, render_tag_of_ne htag]
        exact alike_throw (.refl _)
  | .conditional chain =>
      rw [Node.substitute, Node.render, Node.render]
      exact chain.alike_substitute h
  | .loop item source body =>
      rw [Node.substitute, Node.render, Node.render]
      refine alike_liftM_bind (h.items_assign source) fun items => ?_
      refine (alike_record _ _).bind fun _ => alike_forM fun v => ?_
      split
      · next hitem =>
          subst hitem
          rw [render_congr readsByName_builtin (h.get?_bind_self v)]
          exact alike_render _ body
      · next hitem => exact alike_substitute (h.bind hitem v) body

theorem Chain.alike_substitute {scope scope' : Scope} {name : String} {value : Value}
    (h : scope.Assigns scope' name value) (chain : Chain) :
    Alike (chain.render .builtin scope)
      ((chain.substitute name value).render .builtin scope') := by
  match chain with
  | .last condition body =>
      rw [Chain.substitute, Chain.render, Chain.render, h.decide_assign]
      refine alike_liftM_bind (.refl _) fun taken => ?_
      split
      · exact TemplateTree.alike_substitute h body
      · exact alike_pure ()
  | .more condition body next =>
      rw [Chain.substitute, Chain.render, Chain.render, h.decide_assign]
      refine alike_liftM_bind (.refl _) fun taken => ?_
      split
      · exact TemplateTree.alike_substitute h body
      · exact next.alike_substitute h

/-- To bind a name to a value is to put the value in its place. -/
theorem alike_substitute {scope scope' : Scope} {name : String} {value : Value}
    (h : scope.Assigns scope' name value) (nodes : List Node) :
    Alike (render .builtin scope nodes)
      (render .builtin scope' (substitute name value nodes)) := by
  match nodes with
  | [] =>
      rw [substitute, render, render]
      exact alike_pure ()
  | node :: nodes =>
      rw [substitute, render, render]
      exact (node.alike_substitute h).bind fun _ => alike_substitute h nodes

end

/-! ## Round by round -/

theorem render_flatMap {α : Type} (tags : Registry) (scope : Scope) (items : List α)
    (f : α → List Node) :
    render tags scope (items.flatMap f) = items.forM fun a => render tags scope (f a) := by
  induction items with
  | nil => rw [List.flatMap_nil, render]; rfl
  | cons a items ih =>
      rw [List.flatMap_cons, render_append, ih]
      rfl

theorem alike_unroll (scope : Scope) (item : String) (values : List Value) (body : List Node) :
    Alike (render .builtin scope [.loop item (.constant (.list values)) body])
      (render .builtin scope (unroll item values body)) := by
  rw [render_singleton, Node.render, unroll, render_flatMap]
  refine Alike.record_bind (alike_forM fun value => ?_) _
  exact alike_substitute (.of_bind scope item value) body

/-! ## A whole call

Composition looks for blocks, slots and templates to build on, and a value in place of a name
makes none of them and takes none away.
-/

theorem Node.kind_substitute_eq_extend_iff (name : String) (value : Value) (node : Node) :
    (node.substitute name value).kind = .extend ↔ node.kind = .extend := by
  cases node with
  | var other =>
      rw [Node.substitute, Node.assign]
      split <;> simp [Node.kind]
  | _ => simp [Node.substitute, Node.kind]

mutual

theorem Node.hasBlocks_substitute (name : String) (value : Value) (node : Node) :
    (node.substitute name value).hasBlocks = node.hasBlocks := by
  match node with
  | .raw _ | .constant _ | .extend _ _ | .block _ _ | .slot _ => rw [Node.substitute]
  | .var other =>
      rw [Node.substitute, Node.assign]
      split <;> rfl
  | .tag tag params =>
      rw [Node.substitute, Node.hasBlocks, Node.hasBlocks, hasBlocks_substitute name value params]
  | .conditional chain =>
      rw [Node.substitute, Node.hasBlocks, Node.hasBlocks, chain.hasBlocks_substitute]
  | .loop item source body =>
      rw [Node.substitute, Node.hasBlocks, Node.hasBlocks]
      split
      · rfl
      · exact hasBlocks_substitute name value body

theorem Chain.hasBlocks_substitute (name : String) (value : Value) (chain : Chain) :
    (chain.substitute name value).hasBlocks = chain.hasBlocks := by
  match chain with
  | .last condition body =>
      rw [Chain.substitute, Chain.hasBlocks, Chain.hasBlocks,
        TemplateTree.hasBlocks_substitute name value body]
  | .more condition body next =>
      rw [Chain.substitute, Chain.hasBlocks, Chain.hasBlocks,
        TemplateTree.hasBlocks_substitute name value body, next.hasBlocks_substitute]

theorem hasBlocks_substitute (name : String) (value : Value) (nodes : List Node) :
    hasBlocks (substitute name value nodes) = hasBlocks nodes := by
  match nodes with
  | [] => rw [substitute]
  | node :: nodes =>
      rw [substitute, hasBlocks, hasBlocks, node.hasBlocks_substitute,
        hasBlocks_substitute name value nodes]

end

theorem mem_substitute {name : String} {value : Value} {nodes : List Node} {node : Node} :
    node ∈ substitute name value nodes ↔ ∃ n ∈ nodes, n.substitute name value = node := by
  induction nodes with
  | nil => simp [substitute]
  | cons first nodes ih => rw [substitute, List.mem_cons, ih]; simp [eq_comm]

theorem hasBlocks_flatMap {α : Type} {items : List α} {f : α → List Node}
    (h : ∀ a ∈ items, hasBlocks (f a) = false) : hasBlocks (items.flatMap f) = false := by
  induction items with
  | nil => rfl
  | cons a items ih =>
      rw [List.forall_mem_cons] at h
      rw [List.flatMap_cons, hasBlocks_append, h.1, ih h.2, Bool.or_false]

section Compose

variable {body : List Node}

theorem compose_unroll (hextend : ∀ node ∈ body, node.kind ≠ .extend)
    (hblocks : hasBlocks body = false) (item : String) (values : List Value) (store : Store)
    (chain : List String) :
    compose store chain (unroll item values body) = ⟨[], .ok (unroll item values body)⟩ := by
  refine compose_of_plain (extension?_eq_none_iff.mpr fun node hnode => ?_) ?_
  · obtain ⟨value, -, hvalue⟩ := List.mem_flatMap.mp hnode
    obtain ⟨n, hn, rfl⟩ := mem_substitute.mp hvalue
    rw [ne_eq, Node.kind_substitute_eq_extend_iff]
    exact hextend n hn
  · exact hasBlocks_flatMap fun value _ => (hasBlocks_substitute item value body).trans hblocks

end Compose

/-- A loop over a constant list renders as its body does, once for each element, with the
element in place of the item: on its own in any scope, and as a template if the body holds
nothing that is meant for composition. It succeeds with the same text, or fails in the same
way. -/
theorem render_unrolled (item : String) (values : List Value) (body : List Node) :
    (∀ scope : Scope,
      SameOutcome (render .builtin scope [.loop item (.constant (.list values)) body]).traced.result
        (render .builtin scope (unroll item values body)).traced.result)
      ∧ ((∀ node, Within node body → node.kind ∉ Kind.ofInheritance) →
        ∀ (store : Store) (context : Context),
          SameOutcome
            (Registry.builtin.render store context
              [.loop item (.constant (.list values)) body]).result
            (Registry.builtin.render store context (unroll item values body)).result) := by
  have hscope (scope : Scope) := (alike_unroll scope item values body).sameOutcome_traced
  refine ⟨hscope, fun hplain store context => ?_⟩
  have hextend : ∀ node ∈ body, node.kind ≠ .extend := fun node hnode heq =>
    hplain node (.here hnode) (by simp [heq, Kind.ofInheritance])
  have hblocks : hasBlocks body = false := by
    refine (hasBlocks_eq_false_iff body).mpr fun node hnode => ?_
    have hkind := hplain node hnode
    constructor <;> intro heq <;> simp [heq, Kind.ofInheritance] at hkind
  have hloop : compose store [] [.loop item (.constant (.list values)) body]
      = ⟨[], .ok [.loop item (.constant (.list values)) body]⟩ :=
    compose_of_plain rfl (by rw [hasBlocks_singleton, Node.hasBlocks, hblocks])
  rw [Registry.render, Registry.render, result_renderFrom, result_renderFrom, hloop,
    compose_unroll hextend hblocks]
  exact hscope (.ofContext context)

/-- Under each row that there is, its own elements. -/
def rowBody : List Node :=
  [.conditional (.last (.var "row") [.tag "get" [.loop "row" (.var "row") [.var "row"]]])]

/-- The inner loop goes over the row it is in, but in its body the name is that of an element.
A row that is no list is refused as a variable by the loop and as a constant without it. -/
theorem render_unrolled_rows :
    (∀ node, Within node rowBody → node.kind ∉ Kind.ofInheritance)
      ∧ (Registry.builtin.render ∅ ∅ [.loop "row"
          (.constant (.list [.list [.text "a", .text "b"], .bool false])) rowBody]).result
        = .ok "ab"
      ∧ (Registry.builtin.render ∅ ∅ [.loop "row"
          (.constant (.list [.bool true])) rowBody]).result
        = .error (.notAList .var (some "true"))
      ∧ (Registry.builtin.render ∅ ∅ (unroll "row" [.bool true] rowBody)).result
        = .error (.notAList .constant (some "true")) := by
  have hplain : ∀ node, Within node rowBody → node.kind ∉ Kind.ofInheritance := by
    simp [rowBody, forall_within_singleton, Node.parts, Chain.arms, Node.kind,
      Kind.ofInheritance]
  have hrows := (render_unrolled "row" [.list [.text "a", .text "b"], .bool false] rowBody).2
    hplain ∅ ∅
  have hunrolled : (Registry.builtin.render ∅ ∅
      (unroll "row" [.list [.text "a", .text "b"], .bool false] rowBody)).result = .ok "ab" := by
    decide +kernel
  refine ⟨hplain, hrows.eq_ok_iff.mpr hunrolled, ?_, ?_⟩
  · decide +kernel
  · decide +kernel

end TemplateTree
