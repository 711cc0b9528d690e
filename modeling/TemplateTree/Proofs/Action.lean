import TemplateTree.Render

/-!
# Actions on the output

`x.on out` is what the action `x` does with an output: how it ends, and the output
it leaves behind, which is there also after a failure. The lemmas beside it run an
action step by step, so that nothing after this file looks into the monad.

What one wants to know of an action often holds because it holds of all the steps it is
made of. `Closed` names the properties that go through these steps, and `Keeps` says
that the handlers keep one: a handler is code from elsewhere, and all that can be asked
of it is that it does nothing of its own. The first such property is `Never e`, not to
end in the failure `e`, whatever is found in the output.
-/

namespace TemplateTree

namespace Render

variable {α β : Type}

/-- How an action ends on an output, and what it leaves there. -/
def on (x : Render α) (out : Output) : Except RenderError α × Output :=
  x.run.run out

@[simp] theorem on_pure (a : α) (out : Output) : (pure a : Render α).on out = (.ok a, out) := rfl

@[simp] theorem on_throw (e : RenderError) (out : Output) :
    (throw e : Render α).on out = (.error e, out) := rfl

@[simp] theorem on_write (s : String) (out : Output) :
    (write s).on out = (.ok (), ⟨out.text ++ s, out.records⟩) := rfl

@[simp] theorem on_record (r : Record) (out : Output) :
    (record r).on out = (.ok (), ⟨out.text, out.records.push r⟩) := rfl

theorem on_bind_of_ok {x : Render α} {f : α → Render β} {out out' : Output} {a : α}
    (h : x.on out = (.ok a, out')) : (x >>= f).on out = (f a).on out' := by
  unfold on at h ⊢
  rw [ExceptT.run_bind, StateT.run_bind, h]
  rfl

theorem on_bind_of_error {x : Render α} {f : α → Render β} {out out' : Output} {e : RenderError}
    (h : x.on out = (.error e, out')) : (x >>= f).on out = (.error e, out') := by
  unfold on at h ⊢
  rw [ExceptT.run_bind, StateT.run_bind, h]
  rfl

theorem on_tryCatch_of_ok {x : Render α} {f : RenderError → Render α} {out out' : Output} {a : α}
    (h : x.on out = (.ok a, out')) : (tryCatch x f).on out = (.ok a, out') := by
  unfold on at h ⊢
  rw [ExceptT.run_tryCatch, StateT.run_bind, h]
  rfl

theorem on_tryCatch_of_error {x : Render α} {f : RenderError → Render α} {out out' : Output}
    {e : RenderError} (h : x.on out = (.error e, out')) :
    (tryCatch x f).on out = (f e).on out' := by
  unfold on at h ⊢
  rw [ExceptT.run_tryCatch, StateT.run_bind, h]
  rfl

/-! ## What holds of all that is put together -/

/-- A property of actions that goes through the steps rendering is made of. Failures
are no such step: what holds of a failure depends on which it is. -/
structure Closed (P : (α : Type) → Render α → Prop) : Prop where
  pure {α : Type} (a : α) : P α (pure a)
  bind {α β : Type} {x : Render α} {f : α → Render β} (hx : P α x) (hf : ∀ a, P β (f a)) :
    P β (x >>= f)
  write (s : String) : P Unit (write s)
  record (r : Record) : P Unit (record r)

/-- What holds of the failure, or else of going on, holds of going on from a result. -/
theorem of_liftM_bind {P : Render β → Prop} {result : Except RenderError α} {f : α → Render β}
    (herror : ∀ e, result = .error e → P (throw e)) (hok : ∀ a, result = .ok a → P (f a)) :
    P (liftM result >>= f) := by
  cases result with
  | error e => exact herror e rfl
  | ok a => exact hok a rfl

namespace Closed

variable {P : (α : Type) → Render α → Prop}

theorem forM (hP : Closed P) {items : List α} {f : α → Render Unit}
    (hf : ∀ a ∈ items, P Unit (f a)) : P Unit (items.forM f) := by
  induction items with
  | nil => exact hP.pure ()
  | cons a items ih =>
      rw [List.forall_mem_cons] at hf
      rw [List.forM_eq_forM, List.forM_cons]
      exact hP.bind hf.1 fun _ => ih hf.2

end Closed

/-- The action ends in no failures but these. -/
def Confined (failures : RenderError → Prop) (x : Render α) : Prop :=
  ∀ out e, (x.on out).1 = .error e → failures e

theorem confined_throw {failures : RenderError → Prop} {e : RenderError} (h : failures e) :
    Confined failures (throw e : Render α) := by
  intro out e' hthrow
  rw [on_throw] at hthrow
  cases hthrow
  exact h

theorem closed_confined (failures : RenderError → Prop) : Closed fun _ => Confined failures where
  pure a := by
    intro out e h
    cases h
  write s := by
    intro out e h
    cases h
  record r := by
    intro out e h
    cases h
  bind := by
    intro α β x f hx hf out e h
    rcases hon : x.on out with ⟨result, out'⟩
    cases result with
    | error e' =>
        rw [on_bind_of_error hon] at h
        cases h
        exact hx out e (by rw [hon])
    | ok a =>
        rw [on_bind_of_ok hon] at h
        exact hf a out' e h

/-- The action does not end in this failure. -/
def Never (e : RenderError) (x : Render α) : Prop :=
  ∀ out, (x.on out).1 ≠ .error e

theorem never_eq_confined (e : RenderError) :
    (Never e : Render α → Prop) = Confined (· ≠ e) :=
  funext fun _ => propext
    ⟨fun h out _ he heq => h out (heq ▸ he), fun h out he => h out e he rfl⟩

theorem never_throw {e e' : RenderError} (h : e' ≠ e) : Never e (throw e' : Render α) := by
  rw [never_eq_confined]
  exact confined_throw h

theorem closed_never (e : RenderError) : Closed fun _ => Never e := by
  simp only [never_eq_confined]
  exact closed_confined _

/-! ## The text in the end -/

theorem result_traced (action : Render Unit) :
    action.traced.result
      = (action.on .empty).1.map fun _ => (action.on .empty).2.text :=
  rfl

/-- The action always ends in this failure. -/
def Fails (e : RenderError) (x : Render α) : Prop :=
  ∀ out, (x.on out).1 = .error e

theorem fails_throw (e : RenderError) : Fails e (throw e : Render α) := fun _ => rfl

theorem Fails.bind {e : RenderError} {x : Render α} (hx : Fails e x) (f : α → Render β) :
    Fails e (x >>= f) := by
  intro out
  have hout := hx out
  rcases h : x.on out with ⟨e' | a, out'⟩
  · rw [h] at hout
    rw [on_bind_of_error h]
    exact congrArg Except.error (Except.error.inj hout)
  · rw [h] at hout
    cases hout

/-- What is before a failure is still looked at, and may fail itself. -/
theorem Fails.result_traced {e : RenderError} {y : Render Unit} (hy : Fails e y)
    (x : Render Unit) :
    (x >>= fun _ => y).traced.result = (x.traced.result >>= fun _ => .error e) := by
  rw [Render.result_traced, Render.result_traced]
  rcases hx : x.on .empty with ⟨e' | _, out⟩
  · rw [on_bind_of_error hx]
    rfl
  · rw [on_bind_of_ok hx, hy out]
    rfl

end Render

theorem render_append (tags : Registry) (scope : Scope) (xs ys : List Node) :
    render tags scope (xs ++ ys) = (render tags scope xs >>= fun _ => render tags scope ys) := by
  induction xs with
  | nil => rw [List.nil_append, render, pure_bind]
  | cons node xs ih => rw [List.cons_append, render, render, ih, bind_assoc]

theorem render_singleton (tags : Registry) (scope : Scope) (node : Node) :
    render tags scope [node] = node.render tags scope := by
  rw [render, render]
  exact bind_pure_unit

/-- What holds of the parameters holds of what the handler does. -/
def Handler.Keeps (P : Render Unit → Prop) (handler : Handler) : Prop :=
  ∀ call : TagCall, (∀ param ∈ call.params, P param.render) → P (handler call)

def Registry.Keeps (P : Render Unit → Prop) (tags : Registry) : Prop :=
  ∀ name handler, tags.get? name = some handler → handler.Keeps P

/-- The handlers fail with `e` only if one of the parameters does. -/
def Registry.Relays (e : RenderError) (tags : Registry) : Prop :=
  tags.Keeps (Render.Never e)

/-- `get` is its parameter, if there is just one. -/
theorem getHandler_eq (call : TagCall) :
    getHandler call = match call.params with
      | [param] => param.render
      | params => throw (.invalidTagArity call.name params.length) := by
  rw [getHandler, TagCall.expectParams]
  match hparams : call.params with
  | [] => rfl
  | [param] =>
      rw [if_pos List.length_singleton, pure_bind, List.forM_eq_forM, List.forM_cons,
        List.forM_nil, bind_pure_unit]
  | first :: second :: rest =>
      rw [if_neg (by simp)]
      rfl

theorem get?_builtin (name : String) :
    Registry.builtin.get? name = if "get" = name then some getHandler else none := by
  rw [Registry.builtin, Registry.get?_insert]
  rfl

/-- `get` keeps what holds of its own failure. -/
theorem keeps_builtin {P : Render Unit → Prop}
    (hthrow : ∀ name got, P (throw (.invalidTagArity name got))) : Registry.builtin.Keeps P := by
  intro name handler h call hparams
  rw [get?_builtin] at h
  split at h
  · cases h
    rw [getHandler_eq]
    split
    · next param heq => exact hparams param (by rw [heq]; exact List.mem_cons_self)
    · exact hthrow _ _
  · cases h

theorem relays_builtin {e : RenderError} (harity : ∀ name got, e ≠ .invalidTagArity name got) :
    Registry.builtin.Relays e :=
  keeps_builtin fun name got => Render.never_throw (harity name got).symm

end TemplateTree
