import TemplateTree.Proofs.Appending

/-!
# One after the other

Rendering appends, so what a list of nodes does is known from what each node does on an empty
output: the outputs are put one behind the other, up to the first failure (`inTurn`). The same
goes for the rounds of a loop.

What is in the output after a failure is therefore what came before the node that failed. That
node may be deep in the tree: `ComesTo` says which way leads to it, through the arm that is
taken, the round that is reached and the parameter of `get`, and what is in the output when it
is reached. The node itself adds no text, with one exception. A handler from elsewhere may
have written something before it fails, and what it has written stays.
-/

namespace TemplateTree

open Render

/-! ## Outcomes -/

/-- How an action ends on an empty output, and what it leaves there. -/
abbrev Outcome := Except RenderError Unit × Output

/-- The second outcome counts if the first is no failure. -/
def andThen : Outcome → Outcome → Outcome
  | (.ok _, out), next => (next.1, out.append next.2)
  | (.error e, out), _ => (.error e, out)

/-- Outcomes one behind the other, up to the first failure. -/
def inTurn : List Outcome → Outcome
  | [] => (.ok (), .empty)
  | outcome :: rest => andThen outcome (inTurn rest)

/-- There is a first failure, and nothing is put behind it. -/
theorem exists_first_error {α : Type} {items : List α} {f : α → Outcome} {e : RenderError}
    {out : Output} (h : inTurn (items.map f) = (.error e, out)) :
    ∃ before a after done own, items = before ++ a :: after
      ∧ inTurn (before.map f) = (.ok (), done) ∧ f a = (.error e, own)
      ∧ out = done.append own := by
  induction items generalizing out with
  | nil => cases h
  | cons a items ih =>
      rw [List.map_cons, inTurn] at h
      rcases ha : f a with ⟨e' | _, first⟩
      · rw [ha] at h
        cases h
        exact ⟨[], a, items, .empty, out, rfl, rfl, ha, (Output.empty_append out).symm⟩
      · rcases hrest : inTurn (items.map f) with ⟨result, more⟩
        rw [ha, hrest] at h
        obtain ⟨rfl, rfl⟩ := Prod.mk.inj h
        obtain ⟨before, b, after, done, own, rfl, hbefore, hb, rfl⟩ := ih hrest
        refine ⟨a :: before, b, after, first.append done, own, rfl, ?_, hb, ?_⟩
        · rw [List.map_cons, inTurn, ha, hbefore, andThen]
        · rw [Output.append_assoc]

namespace Render

theorem on_bind_empty (x : Render Unit) {y : Render Unit} (hy : Appends y) :
    (x >>= fun _ => y).on .empty = andThen (x.on .empty) (y.on .empty) := by
  rcases hx : x.on .empty with ⟨e | _, out⟩
  · rw [on_bind_of_error hx, andThen]
  · rw [on_bind_of_ok hx, hy out, andThen]

theorem on_forM_empty {α : Type} {f : α → Render Unit} (hf : ∀ a, Appends (f a))
    (items : List α) :
    (items.forM f).on .empty = inTurn (items.map fun a => (f a).on .empty) := by
  induction items with
  | nil => rfl
  | cons a items ih =>
      have hrest : Appends (items.forM f) := closed_appends.forM fun a _ => hf a
      rw [List.map_cons, inTurn, ← ih, ← on_bind_empty (f a) hrest]
      rfl

end Render

/-! ## Nodes and rounds -/

section Tags

variable {tags : Registry} {scope : Scope} {e : RenderError}

theorem on_render_empty (htags : tags.Keeps Appends) (scope : Scope) (nodes : List Node) :
    (render tags scope nodes).on .empty
      = inTurn (nodes.map fun node => (node.render tags scope).on .empty) := by
  induction nodes with
  | nil => rw [render]; rfl
  | cons node nodes ih =>
      rw [render, List.map_cons, inTurn, ← ih]
      exact on_bind_empty _ (render_appends htags scope nodes)

/-- The rounds of a loop come one after the other, behind its record. -/
theorem on_render_loop_empty (htags : tags.Keeps Appends) {source : Node} {values : List Value}
    (hitems : scope.items source = .ok values) (item : String) (body : List Node) :
    ((Node.loop item source body).render tags scope).on .empty
      = andThen (.ok (), ⟨"", #[.loop item values.length]⟩)
          (inTurn (values.map fun value =>
            (render tags (scope.bind item value) body).on .empty)) := by
  have hround : ∀ value, Appends (render tags (scope.bind item value) body) :=
    fun value => render_appends htags _ body
  rw [Node.render, hitems, ← on_forM_empty hround]
  exact on_bind_empty (record _) (closed_appends.forM fun value _ => hround value)

/-! ## The way to a failure -/

/-- Rendering the node in `scope` comes to rendering one of its parts in `inner`, with this
much in the output by then. -/
inductive Node.Enters (tags : Registry) (scope : Scope) :
    Node → (inner : Scope) → (part : List Node) → (opening : Output) → Prop where
  | arm {chain : Chain} {before after : List (Node × List Node)} {condition : Node}
      {body : List Node} (harms : chain.arms = before ++ (condition, body) :: after)
      (hbefore : ∀ arm ∈ before, scope.decide arm.1 = .ok false)
      (htaken : scope.decide condition = .ok true) :
      Enters tags scope (.conditional chain) scope body .empty
  | round {item : String} {source : Node} {body : List Node} {before after : List Value}
      {value : Value} {done : Output}
      (hitems : scope.items source = .ok (before ++ value :: after))
      (hbefore : inTurn (before.map fun v =>
        (TemplateTree.render tags (scope.bind item v) body).on .empty) = (.ok (), done)) :
      Enters tags scope (.loop item source body) (scope.bind item value) body
        (Output.append ⟨"", #[.loop item (before ++ value :: after).length]⟩ done)
  | param {name : String} {param : Node} (hget : tags.get? name = some getHandler) :
      Enters tags scope (.tag name [param]) scope [param] ⟨"", #[.tag name 1]⟩

/-- Rendering `nodes` in a scope comes to rendering `node` in the scope `inner`. All that is
before it succeeds, and leaves this output. -/
inductive ComesTo (tags : Registry) (node : Node) (inner : Scope) :
    Scope → List Node → (produced : Output) → Prop where
  | here {before after : List Node} {first : Output}
      (hbefore : (render tags inner before).on .empty = (.ok (), first)) :
      ComesTo tags node inner inner (before ++ node :: after) first
  | inside {scope middle : Scope} {before after part : List Node} {outer : Node}
      {first opening produced : Output}
      (hbefore : (render tags scope before).on .empty = (.ok (), first))
      (henters : outer.Enters tags scope middle part opening)
      (hpart : ComesTo tags node inner middle part produced) :
      ComesTo tags node inner scope (before ++ outer :: after)
        (first.append (opening.append produced))

/-- The node is a tag that is run by another handler than that of `get`. -/
def Node.HandledElsewhere (tags : Registry) (node : Node) : Prop :=
  ∃ name params handler, node = .tag name params ∧ tags.get? name = some handler
    ∧ handler ≠ getHandler

theorem exists_first_failing (htags : tags.Keeps Appends) {nodes : List Node} {out : Output}
    (h : (render tags scope nodes).on .empty = (.error e, out)) :
    ∃ before node after first own, nodes = before ++ node :: after
      ∧ (render tags scope before).on .empty = (.ok (), first)
      ∧ (node.render tags scope).on .empty = (.error e, own) ∧ out = first.append own := by
  rw [on_render_empty htags] at h
  obtain ⟨before, node, after, first, own, rfl, hbefore, hnode, rfl⟩ := exists_first_error h
  rw [← on_render_empty htags] at hbefore
  exact ⟨before, node, after, first, own, rfl, hbefore, hnode, rfl⟩

/-- A chain fails at a condition, before anything is written, or in the arm that is taken. -/
theorem Chain.render_eq_error {chain : Chain} {out : Output}
    (h : (chain.render tags scope).on .empty = (.error e, out)) :
    out = .empty ∨ ∃ before condition body after, chain.arms = before ++ (condition, body) :: after
      ∧ (∀ arm ∈ before, scope.decide arm.1 = .ok false) ∧ scope.decide condition = .ok true
      ∧ (TemplateTree.render tags scope body).on .empty = (.error e, out) := by
  have hrenders := chain.renders_render tags scope
  generalize chain.render tags scope = action at h hrenders
  cases hrenders with
  | nothing _ => cases h
  | body hreaches htrue =>
      refine .inr ⟨_, _, _, _, hreaches.arms_eq, hreaches.decide_before, ?_, h⟩
      rw [Scope.decide, htrue]
  | undecided _ _ =>
      cases h
      exact .inl rfl

/-- A node that fails has written nothing, or it is run by code from elsewhere, or the failure
is that of a part of it. -/
theorem Node.render_eq_error (htags : tags.Keeps Appends) {node : Node} {out : Output}
    (h : (node.render tags scope).on .empty = (.error e, out)) :
    (out.text = "" ∨ node.HandledElsewhere tags)
      ∨ ∃ middle, ∃ part ∈ node.parts, ∃ opening own, node.Enters tags scope middle part opening
        ∧ (TemplateTree.render tags middle part).on .empty = (.error e, own)
        ∧ out = opening.append own := by
  cases node with
  | raw _ | constant _ => cases h
  | var name =>
      rw [Node.render] at h
      split at h
      · cases h
      · cases h
        exact .inl (.inl rfl)
  | tag name params =>
      cases hhandler : tags.get? name with
      | none =>
          rw [Node.render, hhandler] at h
          cases h
          exact .inl (.inl rfl)
      | some handler =>
          by_cases hget : handler = getHandler
          · subst hget
            rw [render_tag_of_getHandler hhandler, on_bind_of_ok (on_record _ _)] at h
            by_cases hlength : params.length = 1
            · obtain ⟨param, rfl⟩ := List.length_eq_one_iff.mp hlength
              rw [if_pos hlength, render_appends htags scope [param]] at h
              obtain ⟨herror, rfl⟩ := Prod.mk.inj h
              exact .inr ⟨scope, [param], List.mem_cons_self, _, _, .param hhandler,
                Prod.ext herror rfl, rfl⟩
            · rw [if_neg hlength] at h
              cases h
              exact .inl (.inl rfl)
          · exact .inl (.inr ⟨name, params, handler, rfl, hhandler, hget⟩)
  | conditional chain =>
      rw [Node.render] at h
      rcases chain.render_eq_error h with rfl | ⟨before, condition, body, after, harms, hbefore,
        htaken, hbody⟩
      · exact .inl (.inl rfl)
      · have hmem : body ∈ chain.arms.map (·.2) := by simp [harms]
        exact .inr ⟨scope, body, hmem, .empty, out, .arm harms hbefore htaken, hbody,
          (Output.empty_append out).symm⟩
  | loop item source body =>
      cases hitems : scope.items source with
      | error _ =>
          rw [Node.render, hitems] at h
          cases h
          exact .inl (.inl rfl)
      | ok values =>
          rw [on_render_loop_empty htags hitems, andThen] at h
          obtain ⟨herror, rfl⟩ := Prod.mk.inj h
          obtain ⟨before, value, after, done, own, rfl, hdone, hvalue, hown⟩ :=
            exists_first_error (Prod.ext herror rfl)
          refine .inr ⟨scope.bind item value, body, List.mem_cons_self, _, own,
            .round hitems hdone, hvalue, ?_⟩
          rw [Output.append_assoc, ← hown]
  | extend _ _ | block _ _ | slot _ =>
      rw [Node.render] at h
      cases h
      exact .inl (.inl rfl)

/-- There is a node to which a failure can be traced, and it has written nothing itself,
unless it is run by code from elsewhere. -/
theorem exists_comesTo (htags : tags.Keeps Appends) {nodes : List Node} {out : Output}
    (h : (render tags scope nodes).on .empty = (.error e, out)) :
    ∃ node inner produced own, ComesTo tags node inner scope nodes produced
      ∧ (node.render tags inner).on .empty = (.error e, own) ∧ out = produced.append own
      ∧ (own.text = "" ∨ node.HandledElsewhere tags) := by
  have hnode : ∀ outer : Node, ∀ scope out,
      (outer.render tags scope).on .empty = (.error e, out) →
      ∃ node inner produced own,
        (∀ before after first, (render tags scope before).on .empty = (.ok (), first) →
          ComesTo tags node inner scope (before ++ outer :: after) (first.append produced))
        ∧ (node.render tags inner).on .empty = (.error e, own) ∧ out = produced.append own
        ∧ (own.text = "" ∨ node.HandledElsewhere tags) := by
    intro outer
    induction outer using Node.induct_parts with
    | step outer ih =>
        intro scope out h
        rcases Node.render_eq_error htags h with hhere | ⟨middle, part, hpart, opening, own, henters,
          hfails, rfl⟩
        · refine ⟨outer, scope, .empty, out, fun before after first hbefore => ?_, h,
            (Output.empty_append out).symm, hhere⟩
          rw [Output.append_empty]
          exact .here hbefore
        · obtain ⟨before, n, after, first, rest, rfl, hbefore, hn, rfl⟩ :=
            exists_first_failing htags hfails
          obtain ⟨node, inner, produced, own, hcomes, hstop, rfl, hown⟩ :=
            ih _ hpart n (by simp) middle rest hn
          refine ⟨node, inner, opening.append (first.append produced), own,
            fun _ _ _ hbefore' => .inside hbefore' henters (hcomes before after first hbefore),
            hstop, ?_, hown⟩
          rw [Output.append_assoc, Output.append_assoc]
  obtain ⟨before, outer, after, first, rest, rfl, hbefore, houter, rfl⟩ :=
    exists_first_failing htags h
  obtain ⟨node, inner, produced, own, hcomes, hstop, rfl, hown⟩ := hnode outer scope rest houter
  refine ⟨node, inner, first.append produced, own, hcomes before after first hbefore, hstop, ?_, hown⟩
  rw [Output.append_assoc]

end Tags

/-! ## Code from elsewhere -/

theorem Render.Appends.tryCatch {α : Type} {x : Render α} {f : RenderError → Render α}
    (hx : Appends x) (hf : ∀ e, Appends (f e)) : Appends (tryCatch x f) := by
  intro out
  have hout := hx out
  rcases hempty : x.on .empty with ⟨e | a, first⟩
  · rw [hempty] at hout
    rw [on_tryCatch_of_error hempty, on_tryCatch_of_error hout, hf e (out.append first), hf e first,
      Output.append_assoc]
  · rw [hempty] at hout
    rw [on_tryCatch_of_ok hempty, on_tryCatch_of_ok hout]

/-- Renders its parameter, and in case of a failure goes on behind what has been written. -/
def attemptHandler : Handler := fun call => do
  let params ← call.expectParams 1
  try params.forM Param.render
  catch e => Render.write ("!" ++ e.message ++ "!")

/-- Writes how its parameters are read as conditions. -/
def truthHandler : Handler := fun call =>
  call.params.forM fun param => do Render.write (if ← call.truth param.node then "T" else "F")

def probingTags : Registry :=
  (Registry.builtin.insert "attempt" attemptHandler).insert "truth" truthHandler

theorem appends_probingTags : probingTags.Keeps Appends := by
  intro name handler h call hparams
  rw [probingTags, Registry.get?_insert, Registry.get?_insert] at h
  split at h
  · cases h
    refine closed_appends.forM fun param _ => closed_appends.bind ?_ fun b => ?_
    · rw [TagCall.truth]
      split
      · exact closed_appends.pure _
      · exact appends_throw _
    · exact closed_appends.write _
  · split at h
    · cases h
      rw [attemptHandler, TagCall.expectParams]
      split
      · rw [pure_bind]
        refine Appends.tryCatch (closed_appends.forM hparams) fun e => closed_appends.write _
      · exact appends_throw _
    · exact appends_builtin name handler h call hparams

/-! ## In turn -/

/-- With tags that append, the ones that are built in among them, rendering appends too, also
when it fails: what it adds does not depend on what is there. Nodes come one after the other,
up to the first failure, and so do the rounds of a loop. After a failure the output is what
came before the node that failed, and the text is just that, unless the node is run by code
from elsewhere. -/
theorem render_in_turn {tags : Registry} (htags : tags = .builtin ∨ tags.Keeps Appends)
    (scope : Scope) :
    (∀ nodes, (render tags scope nodes).Appends)
      ∧ (∀ xs ys, (render tags scope (xs ++ ys)).on .empty
          = andThen ((render tags scope xs).on .empty) ((render tags scope ys).on .empty))
      ∧ (∀ item source body values, scope.items source = .ok values →
          ((Node.loop item source body).render tags scope).on .empty
            = andThen (.ok (), ⟨"", #[.loop item values.length]⟩)
                (inTurn (values.map fun value =>
                  (render tags (scope.bind item value) body).on .empty)))
      ∧ ∀ nodes e out, (render tags scope nodes).on .empty = (.error e, out) →
          ∃ node inner produced own, ComesTo tags node inner scope nodes produced
            ∧ (node.render tags inner).on .empty = (.error e, own) ∧ out = produced.append own
            ∧ (own.text = "" ∨ node.HandledElsewhere tags) := by
  have happends : tags.Keeps Appends := by
    rcases htags with rfl | htags
    · exact appends_builtin
    · exact htags
  refine ⟨render_appends happends scope, fun xs ys => ?_,
    fun item source body values hitems => on_render_loop_empty happends hitems item body,
    fun nodes e out => exists_comesTo happends⟩
  rw [render_append]
  exact on_bind_empty _ (render_appends happends scope ys)

/-- What has been written before a failure stays, whether the failure is caught or ends the
call. -/
def attemptNodes : List Node :=
  [.tag "attempt" [.conditional (.last (.constant (.bool true)) [.raw "a", .var "b"])],
    .loop "c" (.constant (.list [.text "d"])) [.var "c", .var "e"]]

theorem render_in_turn_attempt :
    (probingTags = .builtin ∨ probingTags.Keeps Appends)
      ∧ ∃ out, (render probingTags (.ofContext ∅) attemptNodes).on .empty
          = (.error (.undefinedVariable "e"), out)
        ∧ out.text = "a!undefined variable `b`!d"
        ∧ ∃ node inner produced own, ComesTo probingTags node inner (.ofContext ∅) attemptNodes produced
          ∧ (node.render probingTags inner).on .empty = (.error (.undefinedVariable "e"), own)
          ∧ out = produced.append own ∧ (own.text = "" ∨ node.HandledElsewhere probingTags) := by
  have htags : probingTags = .builtin ∨ probingTags.Keeps Appends := .inr appends_probingTags
  have hresult : ((render probingTags (.ofContext ∅) attemptNodes).on .empty).1
      = .error (.undefinedVariable "e") := by
    rfl
  have htext : ((render probingTags (.ofContext ∅) attemptNodes).on .empty).2.text
      = "a!undefined variable `b`!d" := by
    decide +kernel
  obtain ⟨-, -, -, hfailing⟩ := render_in_turn htags (.ofContext ∅)
  have hon := Prod.ext hresult rfl
  exact ⟨htags, _, hon, htext, hfailing attemptNodes _ _ hon⟩

/-- A tag that fails at its second parameter, when it has written something for the first. -/
def halfTrue : Node :=
  .tag "truth" [.constant (.bool true), .raw "x"]

/-- Nothing comes before the tag, nor is the way to the failure one into it. -/
theorem halfTrue_leaves_text :
    probingTags.Keeps Appends
      ∧ ∃ out, (render probingTags (.ofContext ∅) [halfTrue]).on .empty
          = (.error (.undecidableCondition .raw), out)
        ∧ ∀ node inner produced, ComesTo probingTags node inner (.ofContext ∅) [halfTrue] produced →
          out.text ≠ produced.text := by
  have hresult : ((render probingTags (.ofContext ∅) [halfTrue]).on .empty).1
      = .error (.undecidableCondition .raw) := by
    rfl
  have htext : ((render probingTags (.ofContext ∅) [halfTrue]).on .empty).2.text = "T" := by
    decide +kernel
  refine ⟨appends_probingTags, _, Prod.ext hresult rfl, fun node inner produced hcomes => ?_⟩
  have hfirst : ∀ {before after : List Node} {first : Node}, [halfTrue] = before ++ first :: after →
      before = [] ∧ first = halfTrue := by
    intro before after first h
    rcases List.singleton_eq_append_iff.mp h with ⟨rfl, hcons⟩ | ⟨_, hcons⟩
    · exact ⟨rfl, (List.cons.inj hcons).1⟩
    · cases hcons
  have hnothing : produced.text = "" := by
    generalize hnodes : [halfTrue] = nodes at hcomes
    cases hcomes with
    | here hbefore =>
        obtain ⟨rfl, -⟩ := hfirst hnodes
        cases hbefore
        rfl
    | inside _ henters _ =>
        obtain ⟨-, rfl⟩ := hfirst hnodes
        cases henters
  rw [hnothing]
  exact fun h => absurd (htext.symm.trans h) (by decide)

end TemplateTree
