import TemplateTree.Proofs.DocumentOrder
import TemplateTree.Proofs.Unresolved

/-!
# Evaluating blocks where they stand

A template that is built on none could do without composition. `direct` evaluates it
as it is: a block is its body, and a slot is the body of the first block of its key in
the whole tree, both in the scope of the place where they stand, so that a loop around
a slot binds its item in the body of a block from elsewhere. Nothing keeps such an
evaluator from going deeper and deeper, so it is told how deep slots may be nested. A
larger depth never changes an answer (`evaluate?_mono`), and `Evaluates` speaks of the
answer that some depth gives.

Composition is what bounds the depth. Where composing ends well, the evaluator gives
what rendering the composed tree gives, at any depth above the number of keys
(`direct_eq_render`). The induction is on the keys left to enter, as for everything
that `resolve` does, so the acyclicity that `resolve` has found is what the slots end
by. Inside one content it is on the tree, and there tags are the one place where blocks
and bodies could be told apart: a block that is a parameter becomes as many parameters
as its body has nodes.
-/

namespace TemplateTree

/-- An action that may also come to no end. -/
abbrev Evaluation := ExceptT RenderError (StateT Output Option)

/-- An action, which always ends. -/
def Evaluation.of {α : Type} (action : Render α) : Evaluation α := fun out =>
  some (action.on out)

mutual

/-- Evaluates a node in a scope, given what a slot does in a scope. Of tags it knows
`get`. -/
def Node.direct (slot : String → Scope → Evaluation Unit) (scope : Scope) :
    Node → Evaluation Unit
  | .raw text => .of (.write text)
  | .constant value => .of (.write value.display)
  | .var name =>
      match scope.get? name with
      | some value => .of (.write value.display)
      | none => throw (.undefinedVariable name)
  | .tag name params =>
      if name = "get" then do
        .of (.record (.tag name params.length))
        if params.length = 1 then direct slot scope params
        else throw (.invalidTagArity name params.length)
      else throw (.unknownTag name)
  | .conditional chain => chain.direct slot scope
  | .loop item source body => do
      let items ← .of (liftM (scope.items source))
      .of (.record (.loop item items.length))
      items.forM fun value => direct slot (scope.bind item value) body
  | .extend _ _ => throw (.unresolvedNode .extend)
  | .block _ body => direct slot scope body
  | .slot key => slot key scope

def Chain.direct (slot : String → Scope → Evaluation Unit) (scope : Scope) :
    Chain → Evaluation Unit
  | .last condition body => do
      if ← .of (liftM (scope.decide condition)) then TemplateTree.direct slot scope body
  | .more condition body next => do
      if ← .of (liftM (scope.decide condition)) then TemplateTree.direct slot scope body
      else next.direct slot scope

def direct (slot : String → Scope → Evaluation Unit) (scope : Scope) :
    List Node → Evaluation Unit
  | [] => return
  | node :: nodes => do
      node.direct slot scope
      direct slot scope nodes

end

/-- A slot, given all blocks of the tree in document order: the body of the first block
of its key, in the scope of the slot, with slots nested in it no deeper than that. -/
def directSlot (found : List (String × List Node)) : Nat → String → Scope → Evaluation Unit
  | 0, _, _ => fun _ => none
  | depth + 1, key, scope =>
      match found.lookup key with
      | some body => direct (directSlot found depth) scope body
      | none => return

/-- The text of a tree, evaluated as it stands; none if slots are nested too deep. -/
def evaluate? (depth : Nat) (context : Context) (nodes : List Node) :
    Option (Except RenderError String) :=
  (direct (directSlot (blocks nodes) depth) (.ofContext context) nodes Output.empty).map
    fun (result, out) => result.map fun _ => out.text

/-- The tree, evaluated as it stands, comes to this result. -/
def Evaluates (context : Context) (nodes : List Node) (result : Except RenderError String) :
    Prop :=
  ∃ depth, evaluate? depth context nodes = some result

namespace Evaluation

variable {α β : Type}

theorem of_throw (e : RenderError) : of (throw e : Render α) = throw e := rfl

theorem bind_eq (x : Evaluation α) (f : α → Evaluation β) (out : Output) :
    (x >>= f) out = (x out).bind fun (result, out) =>
      match result with
      | .ok a => f a out
      | .error e => some (.error e, out) := by
  show Option.bind (x out) _ = _
  congr 1
  funext ⟨result, out⟩
  cases result with
  | error e => rfl
  | ok a => rfl

theorem of_bind (x : Render α) (f : α → Render β) :
    of (x >>= f) = of x >>= fun a => of (f a) := by
  funext out
  rw [bind_eq, of, of, Option.bind_some]
  rcases h : x.on out with ⟨e | a, out'⟩
  · rw [Render.on_bind_of_error h]
  · rw [Render.on_bind_of_ok h]
    rfl

theorem of_forM (items : List α) (f : α → Render Unit) :
    of (items.forM f) = items.forM fun a => of (f a) := by
  induction items with
  | nil => rfl
  | cons a items ih =>
      rw [List.forM_eq_forM, List.forM_eq_forM, List.forM_cons, List.forM_cons, of_bind,
        ← List.forM_eq_forM, ← List.forM_eq_forM, ih]

end Evaluation

/-! ## Filling, evaluated -/

/-- The node is no tag with a block or a slot for a parameter. -/
def Node.FixedParams : Node → Prop
  | .tag _ params => ∀ param ∈ params, param.Fixed
  | _ => True

section Fill

open Evaluation

variable {slot : String → Scope → Evaluation Unit} {root : List Node}
  {content : String → List Node}

mutual

theorem Node.direct_eq {node : Node} (hparams : ∀ n, Within n [node] → n.FixedParams)
    (hcontent : ∀ key ∈ node.needed ∅, ∀ scope,
      slot key scope = .of (render .builtin scope (content key)))
    (scope : Scope) :
    node.direct slot scope
      = .of (render .builtin scope (node.graft ((Assembly.within root).onBlock content)
          ((Assembly.within root).onSlot content))) := by
  have hparts := (forall_within_singleton.mp hparams).2
  match node with
  | .raw text => rw [Node.direct, Node.graft, render_singleton, Node.render]
  | .constant value => rw [Node.direct, Node.graft, render_singleton, Node.render]
  | .var name =>
      rw [Node.direct, Node.graft, render_singleton, Node.render]
      cases scope.get? name with
      | none => rfl
      | some value => rfl
  | .tag name params =>
      have hfixed : ∀ param ∈ params, param.Fixed := hparams _ (.here List.mem_cons_self)
      rw [Node.needed] at hcontent
      rw [Node.direct, Node.graft, render_singleton]
      by_cases hname : name = "get"
      · subst hname
        rw [if_pos rfl, render_tag_get, of_bind, length_graft_of_fixed hfixed]
        congr 1
        funext _
        by_cases hone : params.length = 1
        · rw [if_pos hone, if_pos hone]
          exact direct_eq (hparts params List.mem_cons_self) hcontent scope
        · rw [if_neg hone, if_neg hone, of_throw]
      · rw [if_neg hname, render_tag_of_ne hname, of_throw]
  | .conditional chain =>
      rw [Node.needed] at hcontent
      rw [Node.direct, Node.graft, render_singleton, Node.render]
      exact chain.direct_eq hparts hcontent scope
  | .loop item source body =>
      rw [Node.needed] at hcontent
      rw [Node.direct, Node.graft, render_singleton, Node.render, of_bind]
      congr 1
      funext items
      rw [of_bind, of_forM]
      congr 1
      funext _
      congr 1
      funext value
      exact direct_eq (hparts body List.mem_cons_self) hcontent (scope.bind item value)
  | .extend key exports => rw [Node.direct, Node.graft, render_singleton, Node.render, of_throw]
  | .block key body =>
      have hnot : key ∉ (Assembly.within root).replacements := Std.ExtTreeMap.not_mem_empty
      rw [Node.needed, if_neg Std.ExtTreeMap.not_mem_empty] at hcontent
      rw [Node.direct, Node.graft, Assembly.onBlock, if_neg hnot]
      exact direct_eq (hparts body List.mem_cons_self) hcontent scope
  | .slot key =>
      exact hcontent key List.mem_cons_self scope

theorem Chain.direct_eq {chain : Chain}
    (hparams : ∀ part ∈ chain.arms.map (·.2), ∀ n, Within n part → n.FixedParams)
    (hcontent : ∀ key ∈ chain.needed ∅, ∀ scope,
      slot key scope = .of (render .builtin scope (content key)))
    (scope : Scope) :
    chain.direct slot scope
      = .of ((chain.graft ((Assembly.within root).onBlock content)
          ((Assembly.within root).onSlot content)).render .builtin scope) := by
  match chain with
  | .last condition body =>
      rw [Chain.needed] at hcontent
      rw [Chain.arms, List.map_singleton, List.forall_mem_singleton] at hparams
      rw [Chain.direct, Chain.graft, Chain.render, of_bind]
      congr 1
      funext taken
      cases taken with
      | false => rfl
      | true => exact TemplateTree.direct_eq hparams hcontent scope
  | .more condition body next =>
      rw [Chain.needed, List.forall_mem_append] at hcontent
      rw [Chain.arms, List.map_cons, List.forall_mem_cons] at hparams
      rw [Chain.direct, Chain.graft, Chain.render, of_bind]
      congr 1
      funext taken
      cases taken with
      | false => exact next.direct_eq hparams.2 hcontent.1 scope
      | true => exact TemplateTree.direct_eq hparams.1 hcontent.2 scope

theorem direct_eq {nodes : List Node} (hparams : ∀ n, Within n nodes → n.FixedParams)
    (hcontent : ∀ key ∈ needed ∅ nodes, ∀ scope,
      slot key scope = .of (render .builtin scope (content key)))
    (scope : Scope) :
    direct slot scope nodes
      = .of (render .builtin scope ((Assembly.within root).fill content nodes)) := by
  match nodes with
  | [] =>
      rw [direct, Assembly.fill, graft, render]
      rfl
  | node :: nodes =>
      rw [needed, List.forall_mem_append] at hcontent
      obtain ⟨hfirst, hrest⟩ := forall_within_cons.mp hparams
      rw [direct, Assembly.fill, graft, render_append, of_bind,
        node.direct_eq hfirst hcontent.1 scope]
      congr 1
      funext _
      exact direct_eq hrest hcontent.2 scope

end

end Fill

/-! ## Deeper -/

/-- What the one comes to, the other comes to. -/
def Evaluation.Le {α : Type} (x y : Evaluation α) : Prop :=
  ∀ out last, x out = some last → y out = some last

namespace Evaluation.Le

variable {α β : Type}

theorem refl (x : Evaluation α) : Le x x := fun _ _ h => h

theorem bind {x x' : Evaluation α} {f f' : α → Evaluation β} (hx : Le x x')
    (hf : ∀ a, Le (f a) (f' a)) : Le (x >>= f) (x' >>= f') := by
  intro out last h
  rw [bind_eq, Option.bind_eq_some_iff] at h ⊢
  obtain ⟨⟨result, out'⟩, hout, hlast⟩ := h
  refine ⟨(result, out'), hx out _ hout, ?_⟩
  cases result with
  | error e => exact hlast
  | ok a => exact hf a out' last hlast

theorem forM {items : List α} {f f' : α → Evaluation Unit} (hf : ∀ a, Le (f a) (f' a)) :
    Le (items.forM f) (items.forM f') := by
  induction items with
  | nil => exact refl _
  | cons a items ih =>
      rw [List.forM_eq_forM] at ih ⊢
      rw [List.forM_cons, List.forM_cons]
      exact bind (hf a) fun _ => ih

end Evaluation.Le

section Mono

open Evaluation

variable {slot slot' : String → Scope → Evaluation Unit}

mutual

theorem Node.direct_mono (hslot : ∀ key scope, Le (slot key scope) (slot' key scope))
    (scope : Scope) (node : Node) : Le (node.direct slot scope) (node.direct slot' scope) := by
  match node with
  | .raw _ | .constant _ | .extend _ _ => exact .refl _
  | .var _ => exact .refl _
  | .tag name params =>
      rw [Node.direct, Node.direct]
      split
      · refine .bind (.refl _) fun _ => ?_
        split
        · exact direct_mono hslot scope params
        · exact .refl _
      · exact .refl _
  | .conditional chain =>
      rw [Node.direct, Node.direct]
      exact chain.direct_mono hslot scope
  | .loop item source body =>
      rw [Node.direct, Node.direct]
      refine .bind (.refl _) fun items => .bind (.refl _) fun _ => .forM fun value => ?_
      exact direct_mono hslot _ body
  | .block _ body =>
      rw [Node.direct, Node.direct]
      exact direct_mono hslot scope body
  | .slot key =>
      rw [Node.direct, Node.direct]
      exact hslot key scope

theorem Chain.direct_mono (hslot : ∀ key scope, Le (slot key scope) (slot' key scope))
    (scope : Scope) (chain : Chain) : Le (chain.direct slot scope) (chain.direct slot' scope) := by
  match chain with
  | .last condition body =>
      rw [Chain.direct, Chain.direct]
      refine .bind (.refl _) fun taken => ?_
      split
      · exact TemplateTree.direct_mono hslot scope body
      · exact .refl _
  | .more condition body next =>
      rw [Chain.direct, Chain.direct]
      refine .bind (.refl _) fun taken => ?_
      split
      · exact TemplateTree.direct_mono hslot scope body
      · exact next.direct_mono hslot scope

theorem direct_mono (hslot : ∀ key scope, Le (slot key scope) (slot' key scope))
    (scope : Scope) (nodes : List Node) :
    Le (direct slot scope nodes) (direct slot' scope nodes) := by
  match nodes with
  | [] => exact .refl _
  | node :: nodes =>
      rw [direct, direct]
      exact .bind (node.direct_mono hslot scope) fun _ => direct_mono hslot scope nodes

end

theorem directSlot_mono (found : List (String × List Node)) {depth depth' : Nat}
    (h : depth ≤ depth') (key : String) (scope : Scope) :
    Le (directSlot found depth key scope) (directSlot found depth' key scope) := by
  induction depth generalizing depth' key scope with
  | zero =>
      intro out last hnone
      cases hnone
  | succ depth ih =>
      obtain ⟨depth', rfl⟩ : ∃ d, depth' = d + 1 := ⟨depth' - 1, by omega⟩
      rw [directSlot, directSlot]
      cases found.lookup key with
      | none => exact .refl _
      | some body => exact direct_mono (fun key scope => ih (by omega) key scope) scope body

end Mono

/-- What comes out at one depth comes out at any larger one. -/
theorem evaluate?_mono {depth depth' : Nat} {context : Context} {nodes : List Node}
    {result : Except RenderError String} (h : evaluate? depth context nodes = some result)
    (hle : depth ≤ depth') : evaluate? depth' context nodes = some result := by
  rw [evaluate?, Option.map_eq_some_iff] at h ⊢
  obtain ⟨last, hlast, hresult⟩ := h
  exact ⟨last, direct_mono (directSlot_mono (blocks nodes) hle) _ nodes _ _ hlast, hresult⟩

/-! ## Resolving, evaluated -/

/-- What is resolved renders as the direct evaluation of what it was resolved from. -/
theorem direct_eq_render {root nodes out : List Node} {active : List String}
    (hroot : ∀ n, Within n root → n.FixedParams) (hparams : ∀ n, Within n nodes → n.FixedParams)
    (h : (Assembly.within root).resolve active nodes = .ok out) (scope : Scope) {depth : Nat}
    (hdepth : (Assembly.within root).pending active < depth) :
    direct (directSlot (blocks root) depth) scope nodes = .of (render .builtin scope out) := by
  induction active, nodes using Assembly.resolve.induct (a := Assembly.within root)
    generalizing out scope depth with
  | case1 active nodes ih =>
      rw [Assembly.resolve_eq, expand_eq_ok_iff] at h
      obtain ⟨hok, rfl⟩ := h
      refine direct_eq hparams (fun key hkey scope => ?_) scope
      have hlookup : (Assembly.within root).content? key = (blocks root).lookup key := by
        rw [← getElem?_firstBlocks]
        show (∅ : Contents)[key]?.or (firstBlocks root)[key]? = _
        rw [Std.ExtTreeMap.getElem?_empty, Option.none_or]
      obtain ⟨depth, rfl⟩ : ∃ d, depth = d + 1 := ⟨depth - 1, by omega⟩
      rw [directSlot, ← hlookup]
      cases hcontent : (Assembly.within root).content? key with
      | none =>
          rw [Assembly.enter_of_none hcontent, contentOf, render]
          rfl
      | some body =>
          obtain ⟨hactive, hinner⟩ := Assembly.resolve_of_failure?_enter hcontent (hok key hkey)
          have hblock : Within (.block key body) root := by
            rw [hlookup, ← getElem?_firstBlocks] at hcontent
            exact within_of_firstBlocks hcontent
          -- The key becomes active, so one less is left to be entered from here.
          have hpending : (Assembly.within root).pending (key :: active) < depth :=
            Nat.lt_of_lt_of_le
              (countP_not_mem_cons_lt (Assembly.mem_keys_of_content? hcontent) hactive)
              (Nat.le_of_lt_succ hdepth)
          refine ih key body hcontent hactive (fun n hn => hroot n ?_) hinner scope hpending
          exact hn.trans List.mem_cons_self hblock

/-- A template that is built on none, and whose tags have neither blocks nor slots for
parameters, renders as it is evaluated directly, if it can be composed at all: the
evaluation comes to an end, with the same text or the same failure, and to no other. -/
theorem evaluates_iff_render (store : Store) (chain : List String) (context : Context)
    {nodes out : Template} (hroot : extension? nodes = none)
    (hparams : ∀ n, Within n nodes → n.FixedParams)
    (hok : (compose store chain nodes).result = .ok out)
    (result : Except RenderError String) :
    Evaluates context nodes result
      ↔ (Registry.builtin.renderFrom store chain context nodes).result = result := by
  have hresolve : (Assembly.within nodes).resolve [] nodes = .ok out := by
    rw [← Assembly.flatten_eq_resolve]
    rw [compose_of_extension?_eq_none hroot] at hok
    exact hok
  have hevaluate : ∀ depth, (Assembly.within nodes).pending [] < depth →
      evaluate? depth context nodes
        = some (Registry.builtin.renderFrom store chain context nodes).result := by
    intro depth hdepth
    rw [evaluate?, direct_eq_render hparams hparams hresolve _ hdepth, result_renderFrom, hok]
    rfl
  constructor
  · rintro ⟨depth, h⟩
    have hlarge := evaluate?_mono h
      (Nat.le_add_right depth ((Assembly.within nodes).pending [] + 1))
    rw [hevaluate _ (by omega)] at hlarge
    exact Option.some.inj hlarge
  · rintro rfl
    exact ⟨_, hevaluate _ (Nat.lt_succ_self _)⟩

/-- A list, with its row in an arm that is never taken and its end missing. -/
def listing : Template :=
  [.loop "item" (.var "items") [.slot "row"],
    .conditional (.last (.constant (.bool false))
      [.block "row" [.tag "get" [.var "item"], .raw ";"]]),
    .slot "end"]

/-- The row is evaluated where the loop has bound the item. -/
theorem evaluates_iff_render_listing :
    extension? listing = none ∧ (∀ n, Within n listing → n.FixedParams)
      ∧ Evaluates ⟨.ofList [("items", Value.list [.text "a", .text "b"])]⟩ listing
        (.ok "a;b;") := by
  have hparams : ∀ n, Within n listing → n.FixedParams := by
    have hrow : ∀ n, Within n [Node.tag "get" [.var "item"], .raw ";"] → n.FixedParams := by
      refine forall_within_cons.mpr ⟨?_, ?_⟩
      · simp [forall_within_singleton, Node.parts, Node.FixedParams, Node.Fixed, Node.kind]
      · simp [forall_within_singleton, Node.parts, Node.FixedParams]
    refine forall_within_cons.mpr ⟨?_, forall_within_cons.mpr ⟨?_, ?_⟩⟩
    · simp [forall_within_singleton, Node.parts, Node.FixedParams]
    · rw [forall_within_singleton]
      refine ⟨trivial, fun part hpart => ?_⟩
      obtain rfl := List.mem_singleton.mp hpart
      exact forall_within_singleton.mpr ⟨trivial, by simpa [Node.parts] using hrow⟩
    · simp [forall_within_singleton, Node.parts, Node.FixedParams]
  have hok : (compose ∅ [] listing).result = .ok
      [.loop "item" (.var "items") [.tag "get" [.var "item"], .raw ";"],
        .conditional (.last (.constant (.bool false)) [.tag "get" [.var "item"], .raw ";"])] := by
    decide +kernel
  refine ⟨rfl, hparams, ?_⟩
  rw [evaluates_iff_render ∅ [] _ rfl hparams hok]
  decide +kernel

end TemplateTree
