import TemplateTree.Proofs.Fusion
import TemplateTree.Proofs.Transparency

/-!
# The arms of a conditional

A chain is grown at its end, assembled from its end and rendered from its start. All three come
to the same list of arms.

Growing puts one arm behind the others. Assembling takes the arms one by one: a condition stays
as it is, and a body becomes what it would become on its own, so that the new chain is there
exactly if all new bodies are (`Chain.expand_eq_ok_iff`); the last body without one is the
failure. Other nodes beside a conditional are no concern of its arms, and one assembly may
follow another, so this goes for a whole composition. Rendering reads the arms up to the first
whose condition is not false, and of those before it the conditions alone, so that nothing else
in the chain makes a difference.
-/

namespace TemplateTree

namespace Chain

/-! ## Growing -/

theorem arms_injective {chain chain' : Chain} (h : chain.arms = chain'.arms) : chain = chain' := by
  match chain, chain' with
  | .last _ _, .last _ _ =>
      obtain ⟨rfl, rfl⟩ := Prod.mk.inj (List.cons.inj h).1
      rfl
  | .last _ _, .more _ _ next' => exact absurd (List.cons.inj h).2.symm next'.arms_ne_nil
  | .more _ _ next, .last _ _ => exact absurd (List.cons.inj h).2 next.arms_ne_nil
  | .more _ _ _, .more _ _ _ =>
      obtain ⟨harm, hnext⟩ := List.cons.inj h
      obtain ⟨rfl, rfl⟩ := Prod.mk.inj harm
      rw [arms_injective hnext]

/-- A call that grows a chain. -/
inductive Call where
  | elseIf (condition : Node) (body : List Node)
  | otherwise (body : List Node)

/-- The arm that a call brings. -/
def Call.arm : Call → Node × List Node
  | .elseIf condition body => (condition, body)
  | .otherwise body => (.constant (.bool true), body)

def Call.on (chain : Chain) : Call → Chain
  | .elseIf condition body => chain.elseIf condition body
  | .otherwise body => chain.otherwise body

/-- The chain after some more calls. -/
def grow (chain : Chain) (calls : List Call) : Chain :=
  calls.foldl Call.on chain

theorem arms_grow (chain : Chain) (calls : List Call) :
    (chain.grow calls).arms = chain.arms ++ calls.map Call.arm := by
  induction calls generalizing chain with
  | nil => rw [List.map_nil, List.append_nil]; rfl
  | cons call calls ih =>
      have hcall : (call.on chain).arms = chain.arms ++ [call.arm] := by
        cases call with
        | elseIf condition body => exact arms_elseIf condition body chain
        | otherwise body => exact arms_elseIf _ body chain
      have hrest : ((call.on chain).grow calls).arms = (call.on chain).arms ++ calls.map Call.arm :=
        ih _
      rw [hcall, List.append_assoc] at hrest
      exact hrest

/-- There is no other way to come by a chain. -/
theorem exists_grow (chain : Chain) :
    ∃ condition body calls, chain = (last condition body).grow calls := by
  obtain ⟨⟨condition, body⟩, arms, harms⟩ := List.exists_cons_of_ne_nil chain.arms_ne_nil
  refine ⟨condition, body, arms.map fun arm => .elseIf arm.1 arm.2, arms_injective ?_⟩
  have hmap : (arms.map fun arm => Call.elseIf arm.1 arm.2).map Call.arm = arms := by
    rw [List.map_map]
    exact List.map_id arms
  rw [arms_grow, hmap, harms]
  rfl

/-! ## Assembling -/

/-- Arm by arm, the second chain has the same condition and for a body what becomes of it. -/
def Rewritten (rewrite : List Node → Except RenderError (List Node)) (chain chain' : Chain) :
    Prop :=
  List.Forall₂ (fun arm arm' => arm'.1 = arm.1 ∧ rewrite arm.2 = .ok arm'.2) chain.arms chain'.arms

section Rewritten

variable {rewrite next : List Node → Except RenderError (List Node)} {condition : Node}
  {body : List Node}

theorem Rewritten.conditions {chain chain' : Chain} (h : chain.Rewritten rewrite chain') :
    chain'.arms.map (·.1) = chain.arms.map (·.1) := by
  have hsame : List.Forall₂ Eq (chain.arms.map (·.1)) (chain'.arms.map (·.1)) := by
    rw [List.forall₂_map_left_iff, List.forall₂_map_right_iff]
    exact h.imp fun _ _ harm => harm.1.symm
  rw [List.forall₂_eq_eq_eq] at hsame
  exact hsame.symm

theorem rewritten_last_iff {chain' : Chain} :
    (last condition body).Rewritten rewrite chain'
      ↔ ∃ body', rewrite body = .ok body' ∧ last condition body' = chain' := by
  constructor
  · intro h
    match chain', h with
    | .last _ body', .cons ⟨rfl, hbody⟩ .nil => exact ⟨body', hbody, rfl⟩
    | .more _ _ rest, .cons _ hrest =>
        exact absurd (List.forall₂_nil_left_iff.mp hrest) rest.arms_ne_nil
  · rintro ⟨body', hbody, rfl⟩
    exact .cons ⟨rfl, hbody⟩ .nil

theorem rewritten_more_iff {rest chain' : Chain} :
    (more condition body rest).Rewritten rewrite chain'
      ↔ ∃ rest', rest.Rewritten rewrite rest'
        ∧ ∃ body', rewrite body = .ok body' ∧ more condition body' rest' = chain' := by
  constructor
  · intro h
    match chain', h with
    | .last _ _, .cons _ hrest =>
        exact absurd (List.forall₂_nil_right_iff.mp hrest) rest.arms_ne_nil
    | .more _ body' rest', .cons ⟨rfl, hbody⟩ hrest => exact ⟨rest', hrest, body', hbody, rfl⟩
  · rintro ⟨rest', hrest, body', hbody, rfl⟩
    exact .cons ⟨rfl, hbody⟩ hrest

/-- One rewriting after another is again done arm by arm. -/
theorem rewritten_bind_iff (chain : Chain) {chain'' : Chain} :
    chain.Rewritten (fun nodes => rewrite nodes >>= next) chain''
      ↔ ∃ chain', chain.Rewritten rewrite chain' ∧ chain'.Rewritten next chain'' := by
  cases chain with
  | last _ _ =>
      simp only [rewritten_last_iff, bind_eq_ok_iff]
      constructor
      · rintro ⟨body'', ⟨body', hfirst, hnext⟩, rfl⟩
        exact ⟨_, ⟨body', hfirst, rfl⟩, rewritten_last_iff.mpr ⟨body'', hnext, rfl⟩⟩
      · rintro ⟨_, ⟨body', hfirst, rfl⟩, h⟩
        obtain ⟨body'', hnext, rfl⟩ := rewritten_last_iff.mp h
        exact ⟨body'', ⟨body', hfirst, hnext⟩, rfl⟩
  | more _ _ rest =>
      simp only [rewritten_more_iff, rest.rewritten_bind_iff, bind_eq_ok_iff]
      constructor
      · rintro ⟨rest'', ⟨rest', hrest', hrest''⟩, body'', ⟨body', hfirst, hnext⟩, rfl⟩
        exact ⟨_, ⟨rest', hrest', body', hfirst, rfl⟩,
          rewritten_more_iff.mpr ⟨rest'', hrest'', body'', hnext, rfl⟩⟩
      · rintro ⟨_, ⟨rest', hrest', body', hfirst, rfl⟩, h⟩
        obtain ⟨rest'', hrest'', body'', hnext, rfl⟩ := rewritten_more_iff.mp h
        exact ⟨rest'', ⟨rest', hrest', hrest''⟩, body'', ⟨body', hfirst, hnext⟩, rfl⟩

theorem rewritten_ok_iff {chain chain' : Chain} : chain.Rewritten .ok chain' ↔ chain' = chain := by
  constructor
  · intro h
    have hsame : List.Forall₂ Eq chain'.arms chain.arms :=
      h.flip.imp fun _ _ harm => Prod.ext harm.1 (Except.ok.inj harm.2).symm
    rw [List.forall₂_eq_eq_eq] at hsame
    exact arms_injective hsame
  · rintro rfl
    exact List.forall₂_same.mpr fun _ _ => ⟨rfl, rfl⟩

theorem exists_rewritten_iff (chain : Chain) :
    (∃ chain', chain.Rewritten rewrite chain')
      ↔ ∀ arm ∈ chain.arms, ∃ body', rewrite arm.2 = .ok body' := by
  cases chain with
  | last condition body =>
      simp only [rewritten_last_iff, arms, List.forall_mem_singleton]
      constructor
      · rintro ⟨_, body', hbody, rfl⟩
        exact ⟨body', hbody⟩
      · rintro ⟨body', hbody⟩
        exact ⟨_, body', hbody, rfl⟩
  | more condition body rest =>
      simp only [rewritten_more_iff, arms, List.forall_mem_cons, ← rest.exists_rewritten_iff]
      constructor
      · rintro ⟨_, rest', hrest, body', hbody, rfl⟩
        exact ⟨⟨body', hbody⟩, rest', hrest⟩
      · rintro ⟨⟨body', hbody⟩, rest', hrest⟩
        exact ⟨_, rest', hrest, body', hbody, rfl⟩

/-- What has become of an arm stands where the arm stood. -/
theorem Rewritten.exists_arm {chain chain' : Chain} {before after : List (Node × List Node)}
    (h : chain.Rewritten rewrite chain') (harms : chain.arms = before ++ (condition, body) :: after) :
    ∃ before' body' after', chain'.arms = before' ++ (condition, body') :: after'
      ∧ before'.map (·.1) = before.map (·.1) ∧ rewrite body = .ok body' := by
  rw [Rewritten, harms] at h
  -- The induction is on the arms before this one, whatever chain they are the beginning of.
  clear harms
  generalize chain'.arms = arms' at h ⊢
  induction before generalizing arms' with
  | nil =>
      obtain ⟨⟨_, body'⟩, after', ⟨rfl, hbody⟩, -, rfl⟩ := List.forall₂_cons_left_iff.mp h
      exact ⟨[], body', after', rfl, rfl, hbody⟩
  | cons arm before ih =>
      obtain ⟨arm', arms', ⟨hcondition, -⟩, hrest, rfl⟩ := List.forall₂_cons_left_iff.mp h
      obtain ⟨before', body', after', rfl, hbefore, hbody⟩ := ih arms' hrest
      refine ⟨arm' :: before', body', after', rfl, ?_, hbody⟩
      rw [List.map_cons, List.map_cons, hcondition, hbefore]

end Rewritten

section Expand

variable (a : Assembly) (enter : String → Except RenderError (List Node))

theorem expand_eq_ok_iff (chain chain' : Chain) :
    chain.expand a enter = .ok chain' ↔ chain.Rewritten (TemplateTree.expand a enter) chain' := by
  cases chain with
  | last condition body =>
      rw [Chain.expand, bind_eq_ok_iff, rewritten_last_iff]
      exact exists_congr fun body' => and_congr_right fun _ =>
        ⟨Except.ok.inj, congrArg Except.ok⟩
  | more condition body rest =>
      rw [Chain.expand, bind_eq_ok_iff, rewritten_more_iff]
      refine exists_congr fun rest' => and_congr (rest.expand_eq_ok_iff rest') ?_
      rw [bind_eq_ok_iff]
      exact exists_congr fun body' => and_congr_right fun _ =>
        ⟨Except.ok.inj, congrArg Except.ok⟩

/-- The failure is that of the last body that fails: the arms behind it come first. -/
theorem expand_eq_error_iff (chain : Chain) (e : RenderError) :
    chain.expand a enter = .error e
      ↔ ∃ before condition body after, chain.arms = before ++ (condition, body) :: after
        ∧ TemplateTree.expand a enter body = .error e
        ∧ ∀ arm ∈ after, ∃ body', TemplateTree.expand a enter arm.2 = .ok body' := by
  cases chain with
  | last condition body =>
      rw [Chain.expand, bind_pure_eq_error_iff]
      constructor
      · intro h
        exact ⟨[], condition, body, [], rfl, h, List.forall_mem_nil _⟩
      · rintro ⟨before, condition', body', after, harms, h, -⟩
        rcases List.singleton_eq_append_iff.mp harms with ⟨-, harm⟩ | ⟨-, harm⟩
        · obtain ⟨rfl, rfl⟩ := Prod.mk.inj (List.cons.inj harm).1
          exact h
        · cases harm
  | more condition body rest =>
      -- The arms behind this one have been assembled when its own body is looked at, so that
      -- failures of theirs come before its own.
      rw [Chain.expand, bind_eq_error_iff, rest.expand_eq_error_iff, arms]
      simp only [rest.expand_eq_ok_iff]
      constructor
      · rintro (⟨before, condition', body', after, harms, h, hafter⟩ | ⟨rest', hrest, h⟩)
        · refine ⟨(condition, body) :: before, condition', body', after, ?_, h, hafter⟩
          rw [harms, List.cons_append]
        · rw [bind_pure_eq_error_iff] at h
          exact ⟨[], condition, body, rest.arms, rfl, h, rest.exists_rewritten_iff.mp ⟨rest', hrest⟩⟩
      · rintro ⟨before, condition', body', after, harms, h, hafter⟩
        cases before with
        | nil =>
            obtain ⟨harm, rfl⟩ := List.cons.inj harms
            obtain ⟨rfl, rfl⟩ := Prod.mk.inj harm
            obtain ⟨rest', hrest⟩ := rest.exists_rewritten_iff.mpr hafter
            exact .inr ⟨rest', hrest, bind_pure_eq_error_iff.mpr h⟩
        | cons arm before =>
            exact .inl ⟨before, condition', body', after, (List.cons.inj harms).2, h, hafter⟩

end Expand

end Chain

/-- Wherever there is a conditional in a list, it is rewritten arm by arm, and what is before
it and what is behind it are rewritten each on its own. -/
def ArmByArm (rewrite : List Node → Except RenderError (List Node)) : Prop :=
  ∀ before chain after out, rewrite (before ++ .conditional chain :: after) = .ok out
    ↔ ∃ first chain' last, rewrite before = .ok first ∧ chain.Rewritten rewrite chain'
      ∧ rewrite after = .ok last ∧ out = first ++ .conditional chain' :: last

theorem armByArm_ok : ArmByArm .ok := by
  intro before chain after out
  constructor
  · intro h
    exact ⟨before, chain, after, rfl, Chain.rewritten_ok_iff.mpr rfl, rfl, (Except.ok.inj h).symm⟩
  · rintro ⟨first, chain', last, ⟨⟩, hchain, ⟨⟩, rfl⟩
    rw [Chain.rewritten_ok_iff.mp hchain]

theorem ArmByArm.bind {rewrite next : List Node → Except RenderError (List Node)}
    (h : ArmByArm rewrite) (hnext : ArmByArm next) :
    ArmByArm fun nodes => rewrite nodes >>= next := by
  intro before chain after out
  simp only [bind_eq_ok_iff, Chain.rewritten_bind_iff]
  constructor
  · rintro ⟨middle, hmiddle, hout⟩
    obtain ⟨first, chain', last, hfirst, hchain, hlast, rfl⟩ := (h _ _ _ _).mp hmiddle
    obtain ⟨first', chain'', last', hfirst', hchain', hlast', rfl⟩ := (hnext _ _ _ _).mp hout
    exact ⟨first', chain'', last', ⟨first, hfirst, hfirst'⟩, ⟨chain', hchain, hchain'⟩,
      ⟨last, hlast, hlast'⟩, rfl⟩
  · rintro ⟨first', chain'', last', ⟨first, hfirst, hfirst'⟩, ⟨chain', hchain, hchain'⟩,
      ⟨last, hlast, hlast'⟩, rfl⟩
    exact ⟨_, (h _ _ _ _).mpr ⟨first, chain', last, hfirst, hchain, hlast, rfl⟩,
      (hnext _ _ _ _).mpr ⟨first', chain'', last', hfirst', hchain', hlast', rfl⟩⟩

namespace Assembly

theorem resolve_conditional (a : Assembly) (active : List String) (chain : Chain) :
    a.resolve active [.conditional chain]
      = (chain.expand a (a.enter active)).map fun chain' => [.conditional chain'] := by
  rw [resolve_eq, expand, expand, Node.expand]
  cases chain.expand a (a.enter active) with
  | error e => rfl
  | ok chain' => rfl

theorem armByArm_resolve (a : Assembly) (active : List String) :
    ArmByArm (a.resolve active) := by
  intro before chain after out
  have hresolve : a.resolve active = expand a (a.enter active) :=
    funext fun nodes => a.resolve_eq active nodes
  rw [← List.singleton_append, resolve_append, resolve_append, resolve_conditional]
  simp only [bind_eq_ok_iff, map_eq_ok_iff, Chain.expand_eq_ok_iff, ← hresolve]
  constructor
  · rintro ⟨first, hfirst, _, ⟨_, ⟨chain', hchain, rfl⟩, last, hlast, rfl⟩, rfl⟩
    exact ⟨first, chain', last, hfirst, hchain, hlast, rfl⟩
  · rintro ⟨first, chain', last, hfirst, hchain, hlast, rfl⟩
    exact ⟨first, hfirst, _, ⟨_, ⟨chain', hchain, rfl⟩, last, hlast, rfl⟩, rfl⟩

/-- One assembly after the other. -/
def resolveAll (passes : List Assembly) (nodes : List Node) : Except RenderError (List Node) :=
  passes.foldlM (fun nodes a => a.resolve [] nodes) nodes

theorem armByArm_resolveAll (passes : List Assembly) : ArmByArm (resolveAll passes) := by
  induction passes with
  | nil => exact armByArm_ok
  | cons a passes ih => exact (a.armByArm_resolve []).bind ih

theorem resolveAll_snoc (passes : List Assembly) (a : Assembly) (nodes : List Node) :
    resolveAll (passes ++ [a]) nodes = resolveAll passes nodes >>= a.resolve [] := by
  rw [resolveAll, List.foldlM_append, resolveAll]
  simp

end Assembly

theorem exists_resolveAll_of_assemble {links : List (String × Contents)} {root merged : List Node}
    (h : assemble links (.ok root) = .ok merged) :
    ∃ passes : List Assembly, passes.map (·.replacements) = (links.map (·.2)).reverse
      ∧ Assembly.resolveAll passes root = .ok merged := by
  induction links generalizing merged with
  | nil => exact ⟨[], rfl, h⟩
  | cons link links ih =>
      rw [assemble_cons] at h
      obtain ⟨base, hbase, hlayer⟩ := bind_eq_ok_iff.mp h
      obtain ⟨passes, hpasses, hresolve⟩ := ih hbase
      refine ⟨passes ++ [.onto link.2 base], ?_, ?_⟩
      · rw [List.map_append, hpasses]
        exact List.reverse_cons.symm
      · rw [Assembly.resolveAll_snoc, hresolve]
        exact hlayer

/-- A composition is one assembly after the other of the tree at the end of the chain: the
contents of each template on the way, and in the end none. -/
theorem exists_resolveAll_of_compose {store : Store} {keys : List String} {nodes out : Template}
    (h : (compose store keys nodes).result = .ok out) :
    ∃ links root passes, store.Leads nodes links root ∧ extension? root = none
      ∧ passes.map (·.replacements) = (links.map (·.2)).reverse ++ [∅]
      ∧ Assembly.resolveAll passes root = .ok out := by
  obtain ⟨links, root, hleads, hfresh, hstop⟩ := exists_leads_stop store keys nodes
  cases hroot : extension? root with
  | some extension =>
      obtain ⟨key, exports⟩ := extension
      by_cases hvisited : key ∈ keys ∨ key ∈ links.map (·.1)
      · rw [compose_of_visited hleads hfresh hroot hvisited] at h
        cases h
      · rw [not_or] at hvisited
        rcases hstop key exports hroot with hkey | hkey | hmissing
        · exact absurd hkey hvisited.1
        · exact absurd hkey hvisited.2
        · rw [compose_of_missing hleads hfresh hroot hvisited.1 hmissing] at h
          cases h
  | none =>
      rw [(compose_of_root hleads hfresh hroot).1] at h
      obtain ⟨merged, hmerged, hflatten⟩ := bind_eq_ok_iff.mp h
      obtain ⟨passes, hpasses, hresolve⟩ := exists_resolveAll_of_assemble hmerged
      refine ⟨links, root, passes ++ [.within merged], hleads, hroot, ?_, ?_⟩
      · rw [List.map_append, hpasses]
        rfl
      · rw [Assembly.resolveAll_snoc, hresolve]
        exact (Assembly.flatten_eq_resolve merged).symm.trans hflatten

/-! ## Rendering -/

namespace Chain

variable {tags : Registry} {scope : Scope} {chain : Chain} {before after : List (Node × List Node)}
  {condition : Node} {body : List Node}

/-- What is behind the arm, and the bodies before it, may be anything. -/
theorem Reaches.of_arms (h : chain.Reaches scope before condition body after) {chain' : Chain}
    {before' after' : List (Node × List Node)} {body' : List Node}
    (harms : chain'.arms = before' ++ (condition, body') :: after')
    (hconditions : before'.map (·.1) = before.map (·.1)) :
    chain'.Reaches scope before' condition body' after' := by
  have hfalse : ∀ condition ∈ before'.map (·.1), scope.truth? condition = some false := by
    rw [hconditions]
    exact List.forall_mem_map.mpr h.before_false
  exact ⟨harms, List.forall_mem_map.mp hfalse⟩

/-- An arm that is not passed over ends the chain. -/
theorem Reaches.render_congr (h : chain.Reaches scope before condition body after)
    {chain' : Chain} {before' after' : List (Node × List Node)}
    (h' : chain'.Reaches scope before' condition body after')
    (hstop : scope.truth? condition ≠ some false) :
    chain'.render tags scope = chain.render tags scope := by
  rw [h'.render_eq, h.render_eq]
  match htruth : scope.truth? condition with
  | some true => rw [renderArms_of_true htruth, renderArms_of_true htruth]
  | some false => exact absurd htruth hstop
  | none => rw [renderArms_of_none htruth, renderArms_of_none htruth]

/-- An arm that is always taken is the last that counts. -/
theorem render_grow_otherwise (body : List Node) (calls : List Call) :
    ((chain.otherwise body).grow calls).render tags scope
      = (chain.otherwise body).render tags scope := by
  have harms : (chain.otherwise body).arms = chain.arms ++ [(.constant (.bool true), body)] :=
    arms_elseIf _ body chain
  rcases (chain.otherwise body).exists_reaches_or scope with
    hfalse | ⟨before, condition, body', after, hreaches, hstop⟩
  · rw [harms, List.forall_mem_append, List.forall_mem_singleton] at hfalse
    exact absurd hfalse.2 (by simp [Scope.truth?, Value.isTruthy])
  · have hgrown : ((chain.otherwise body).grow calls).arms
        = before ++ (condition, body') :: (after ++ calls.map Call.arm) := by
      rw [arms_grow, hreaches.arms_eq, List.append_assoc, List.cons_append]
    exact hreaches.render_congr (hreaches.of_arms hgrown rfl) hstop

end Chain

/-- A chain has the arms that it was given, in the order of the calls, and any chain is grown in
this way. Assembling it takes the arms one by one, from the last to the first, and leaves the
conditions as they are; what becomes of a body is what would become of it alone. So it is in
each list of nodes, for any number of assemblies one after the other, and a composition is no
more than that. Rendering stops at the first arm whose condition is not false. If the condition
holds the body is rendered, and nothing else; if it cannot be decided that is the failure; and
without such an arm nothing happens. What is behind the arm, and the bodies before it, make no
difference, and an arm that is always taken ends the chain. -/
theorem conditional_arms :
    (∀ condition body calls, ((Chain.last condition body).grow calls).arms
          = (condition, body) :: calls.map Chain.Call.arm)
      ∧ (∀ chain : Chain, ∃ condition body calls, chain = (Chain.last condition body).grow calls)
      ∧ (∀ (a : Assembly) enter (chain chain' : Chain), chain.expand a enter = .ok chain'
          ↔ chain.Rewritten (expand a enter) chain')
      ∧ (∀ (a : Assembly) enter (chain : Chain) e, chain.expand a enter = .error e
          ↔ ∃ before condition body after, chain.arms = before ++ (condition, body) :: after
            ∧ expand a enter body = .error e
            ∧ ∀ arm ∈ after, ∃ body', expand a enter arm.2 = .ok body')
      ∧ (∀ rewrite (chain chain' : Chain), chain.Rewritten rewrite chain' →
          chain'.arms.map (·.1) = chain.arms.map (·.1))
      ∧ (∀ (a : Assembly) active, ArmByArm (a.resolve active))
      ∧ (∀ passes, ArmByArm (Assembly.resolveAll passes))
      ∧ (∀ store keys nodes out, (compose store keys nodes).result = .ok out →
          ∃ links root passes, store.Leads nodes links root ∧ extension? root = none
            ∧ passes.map (·.replacements) = (links.map (·.2)).reverse ++ [∅]
            ∧ Assembly.resolveAll passes root = .ok out)
      ∧ (∀ (scope : Scope) (chain : Chain), (∀ arm ∈ chain.arms, scope.truth? arm.1 = some false)
          ∨ ∃ before condition body after, chain.Reaches scope before condition body after
            ∧ scope.truth? condition ≠ some false)
      ∧ (∀ tags scope (chain : Chain), (∀ arm ∈ chain.arms, scope.truth? arm.1 = some false) →
          (Node.conditional chain).render tags scope = pure ())
      ∧ (∀ tags scope (chain : Chain) before condition body after,
          chain.Reaches scope before condition body after →
          (scope.truth? condition = some true →
            (Node.conditional chain).render tags scope = render tags scope body)
          ∧ (scope.truth? condition = none →
            (Node.conditional chain).render tags scope
              = throw (.undecidableCondition condition.kind))
          ∧ (scope.truth? condition ≠ some false → ∀ (chain' : Chain) before' after',
            chain'.arms = before' ++ (condition, body) :: after' →
            before'.map (·.1) = before.map (·.1) →
            (Node.conditional chain').render tags scope
              = (Node.conditional chain).render tags scope)
          ∧ ∀ rewrite (chain' : Chain), chain.Rewritten rewrite chain' →
            ∃ before' body' after', chain'.Reaches scope before' condition body' after'
              ∧ rewrite body = .ok body')
      ∧ ∀ tags scope (chain : Chain) body calls,
          (Node.conditional ((chain.otherwise body).grow calls)).render tags scope
            = (Node.conditional (chain.otherwise body)).render tags scope := by
  refine ⟨fun condition body calls => Chain.arms_grow _ calls, Chain.exists_grow,
    Chain.expand_eq_ok_iff, Chain.expand_eq_error_iff, fun _ _ _ => Chain.Rewritten.conditions,
    Assembly.armByArm_resolve, Assembly.armByArm_resolveAll,
    fun _ _ _ _ => exists_resolveAll_of_compose, Chain.exists_reaches_or,
    fun tags scope chain hfalse => ?_, ?_, fun tags scope chain body calls => ?_⟩
  · rw [Node.render, Chain.render_of_false hfalse]
  · intro tags scope chain before condition body after h
    rw [Node.render]
    refine ⟨fun htrue => ?_, fun hnone => ?_, fun hstop chain' before' after' harms hconditions => ?_,
      fun rewrite chain' hchain => ?_⟩
    · rw [h.render_eq, renderArms_of_true htrue]
    · rw [h.render_eq, renderArms_of_none hnone]
    · rw [Node.render, h.render_congr (h.of_arms harms hconditions) hstop]
    · obtain ⟨before', body', after', harms, hconditions, hbody⟩ := hchain.exists_arm h.arms_eq
      exact ⟨before', body', after', h.of_arms harms hconditions, hbody⟩
  · rw [Node.render, Node.render, Chain.render_grow_otherwise]

/-- A chain with an arm behind the one that is always taken. -/
def badge (hot : List Node) : Chain :=
  (Chain.last (.var "new") [.raw "new"]).grow
    [.elseIf (.var "hot") hot, .otherwise [.raw "-"], .elseIf (.raw "?") [.raw "?"]]

def badgePage : Template :=
  [.block "flame" [.raw "*"], .conditional (badge [.slot "flame"])]

def hotScope : Scope :=
  (Scope.ofContext ∅).bind "hot" (.bool true)

/-- The second arm of the composed chain is taken, the first being false. The condition of the
last arm could not be decided, but is not reached. -/
theorem conditional_arms_badge :
    (badge [.slot "flame"]).arms = [(.var "new", [.raw "new"]), (.var "hot", [.slot "flame"]),
        (.constant (.bool true), [.raw "-"]), (.raw "?", [.raw "?"])]
      ∧ (compose ∅ [] badgePage).result = .ok [.raw "*", .conditional (badge [.raw "*"])]
      ∧ (Node.conditional (badge [.raw "*"])).render .builtin hotScope
        = render .builtin hotScope [.raw "*"]
      ∧ (Node.conditional (.last (.raw "?") [.raw "?"])).render .builtin hotScope
        = throw (.undecidableCondition .raw)
      ∧ (Node.conditional (.last (.var "new") [.raw "new"])).render .builtin hotScope = pure () := by
  obtain ⟨harms, -, -, -, -, -, -, -, -, hfalse, hreached, -⟩ := conditional_arms
  have hhot : (badge [.raw "*"]).Reaches hotScope [(.var "new", [.raw "new"])] (.var "hot")
      [.raw "*"] [(.constant (.bool true), [.raw "-"]), (.raw "?", [.raw "?"])] :=
    ⟨harms _ _ _, by decide +kernel⟩
  have hraw : (Chain.last (.raw "?") [.raw "?"]).Reaches hotScope [] (.raw "?") [.raw "?"] [] :=
    ⟨rfl, List.forall_mem_nil _⟩
  exact ⟨harms _ _ _, by decide +kernel, (hreached _ _ _ _ _ _ _ hhot).1 (by decide +kernel),
    (hreached _ _ _ _ _ _ _ hraw).2.1 rfl, hfalse _ _ _ (by decide +kernel)⟩

end TemplateTree
