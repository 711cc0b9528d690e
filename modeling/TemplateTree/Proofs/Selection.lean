import TemplateTree.Render

/-!
# Which arm is rendered

Rendering a conditional is a loop over its arms: those with a false condition are passed over,
and the first of the others decides, by its condition and its body alone. `Chain.Renders` lists
the three ways in which this can end, and `Chain.renders_render` says that there are no others,
so that what is to be shown of a conditional is shown in three cases without another induction
over the chain.
-/

namespace TemplateTree

section Arms

variable (tags : Registry) (scope : Scope)

/-- Renders the body of the first arm whose condition holds. -/
def renderArms : List (Node × List Node) → Render Unit
  | [] => return
  | (condition, body) :: arms => do
      if ← scope.decide condition then render tags scope body else renderArms arms

theorem Chain.render_eq (chain : Chain) :
    chain.render tags scope = renderArms tags scope chain.arms := by
  cases chain with
  | last _ _ =>
      rw [Chain.render, arms, renderArms, renderArms]
  | more _ _ rest => rw [Chain.render, arms, renderArms, rest.render_eq]

variable {tags scope} {before after : List (Node × List Node)} {condition : Node}
  {body : List Node}

theorem renderArms_append (h : ∀ arm ∈ before, scope.truth? arm.1 = some false) :
    renderArms tags scope (before ++ after) = renderArms tags scope after := by
  induction before with
  | nil => rfl
  | cons arm before ih =>
      rw [List.forall_mem_cons] at h
      rw [List.cons_append, renderArms, Scope.decide, h.1]
      exact ih h.2

theorem renderArms_of_true (h : scope.truth? condition = some true) :
    renderArms tags scope ((condition, body) :: after) = render tags scope body := by
  rw [renderArms, Scope.decide, h]
  rfl

theorem renderArms_of_none (h : scope.truth? condition = none) :
    renderArms tags scope ((condition, body) :: after)
      = throw (.undecidableCondition condition.kind) := by
  rw [renderArms, Scope.decide, h]
  rfl

end Arms

namespace Chain

/-- The conditions of all arms before this one are false. -/
structure Reaches (scope : Scope) (chain : Chain) (before : List (Node × List Node))
    (condition : Node) (body : List Node) (after : List (Node × List Node)) : Prop where
  arms_eq : chain.arms = before ++ (condition, body) :: after
  before_false : ∀ arm ∈ before, scope.truth? arm.1 = some false

/-- What rendering the chain is. -/
inductive Renders (tags : Registry) (scope : Scope) (chain : Chain) : Render Unit → Prop where
  | nothing (hfalse : ∀ arm ∈ chain.arms, scope.truth? arm.1 = some false) :
      Renders tags scope chain (pure ())
  | body {before after : List (Node × List Node)} {condition : Node} {body : List Node}
      (hreaches : chain.Reaches scope before condition body after)
      (htrue : scope.truth? condition = some true) :
      Renders tags scope chain (TemplateTree.render tags scope body)
  | undecided {before after : List (Node × List Node)} {condition : Node} {body : List Node}
      (hreaches : chain.Reaches scope before condition body after)
      (hnone : scope.truth? condition = none) :
      Renders tags scope chain (throw (.undecidableCondition condition.kind))

section Reaches

variable {tags : Registry} {scope : Scope} {chain : Chain} {before after : List (Node × List Node)}
  {condition : Node} {body : List Node}

theorem Reaches.mem_arms (h : chain.Reaches scope before condition body after) :
    (condition, body) ∈ chain.arms := by
  rw [h.arms_eq]
  exact List.mem_append_right before List.mem_cons_self

theorem Reaches.decide_before (h : chain.Reaches scope before condition body after) :
    ∀ arm ∈ before, scope.decide arm.1 = .ok false := by
  intro arm harm
  rw [Scope.decide, h.before_false arm harm]

theorem Reaches.render_eq (h : chain.Reaches scope before condition body after) :
    chain.render tags scope = renderArms tags scope ((condition, body) :: after) := by
  rw [Chain.render_eq, h.arms_eq, renderArms_append h.before_false]

theorem render_of_false (h : ∀ arm ∈ chain.arms, scope.truth? arm.1 = some false) :
    chain.render tags scope = pure () := by
  rw [Chain.render_eq, ← List.append_nil chain.arms, renderArms_append h, renderArms]

/-- The first arm that is not passed over is reached. -/
theorem exists_reaches_or (scope : Scope) (chain : Chain) :
    (∀ arm ∈ chain.arms, scope.truth? arm.1 = some false)
      ∨ ∃ before condition body after, chain.Reaches scope before condition body after
        ∧ scope.truth? condition ≠ some false := by
  cases hfirst : chain.arms.find? fun arm => scope.truth? arm.1 ≠ some false with
  | none =>
      refine .inl fun arm harm => ?_
      simpa using List.find?_eq_none.mp hfirst arm harm
  | some arm =>
      obtain ⟨hstop, before, after, harms, hbefore⟩ := List.find?_eq_some_iff_append.mp hfirst
      refine .inr ⟨before, arm.1, arm.2, after, ⟨harms, fun earlier hearlier => ?_⟩, ?_⟩
      · simpa using hbefore earlier hearlier
      · simpa using hstop

theorem renders_render (tags : Registry) (scope : Scope) (chain : Chain) :
    chain.Renders tags scope (chain.render tags scope) := by
  rcases chain.exists_reaches_or scope with
    hfalse | ⟨before, condition, body, after, hreaches, hstop⟩
  · rw [render_of_false hfalse]
    exact .nothing hfalse
  · rw [hreaches.render_eq]
    match htruth : scope.truth? condition with
    | some true =>
        rw [renderArms_of_true htruth]
        exact .body hreaches htruth
    | some false => exact absurd htruth hstop
    | none =>
        rw [renderArms_of_none htruth]
        exact .undecided hreaches htruth

end Reaches

end Chain

end TemplateTree
