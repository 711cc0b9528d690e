import TemplateTree.Proofs.Rendering

/-!
# Rendering only appends

An action that appends does not look at the output it is given: what it writes, what it
records and how it ends are what they are on an empty output, and the first two are put
behind what is there, after a failure as well. Rendering appends if the tags do.

So the text of two actions in a row is the text of the first with the text of the
second behind it (`result_traced_bind`), and what stands at a place of a tree can be
exchanged for anything that gives the same text there (`result_render_congr`).
-/

namespace TemplateTree

open Render

def Output.append (out more : Output) : Output :=
  ⟨out.text ++ more.text, out.records ++ more.records⟩

namespace Output

theorem append_empty (out : Output) : out.append .empty = out := by
  rw [append, empty, String.append_empty, Array.append_empty]

theorem empty_append (out : Output) : Output.append .empty out = out := by
  rw [append, empty, String.empty_append, Array.empty_append]

theorem append_assoc (out more last : Output) :
    (out.append more).append last = out.append (more.append last) := by
  rw [append, append, append, append, String.append_assoc, Array.append_assoc]

end Output

namespace Render

variable {α β : Type}

/-- The action adds to the output what it adds to an empty one. -/
def Appends (x : Render α) : Prop :=
  ∀ out, x.on out = ((x.on .empty).1, out.append (x.on .empty).2)

theorem appends_throw (e : RenderError) : Appends (throw e : Render α) := by
  intro out
  rw [on_throw, on_throw, Output.append_empty]

theorem closed_appends : Closed fun _ => Appends where
  pure a := by
    intro out
    rw [on_pure, on_pure, Output.append_empty]
  write s := by
    intro out
    rw [on_write, on_write]
    simp [Output.append, Output.empty]
  record r := by
    intro out
    rw [on_record, on_record]
    simp [Output.append, Output.empty]
  bind := by
    intro α β x f hx hf out
    have hout := hx out
    rcases hempty : x.on .empty with ⟨e | a, first⟩
    · rw [hempty] at hout
      rw [on_bind_of_error hempty, on_bind_of_error hout]
    · rw [hempty] at hout
      rw [on_bind_of_ok hempty, on_bind_of_ok hout, hf a (out.append first), hf a first,
        Output.append_assoc]

/-- The text of two actions, one after the other. -/
theorem result_traced_bind (x : Render Unit) {y : Render Unit} (hy : Appends y) :
    (x >>= fun _ => y).traced.result
      = (x.traced.result >>= fun text => y.traced.result.map (text ++ ·)) := by
  rw [result_traced, result_traced, result_traced]
  rcases hx : x.on .empty with ⟨e | _, out⟩
  · rw [on_bind_of_error hx]
    rfl
  · rw [on_bind_of_ok hx, hy out]
    cases (y.on .empty).1 with
    | error e => rfl
    | ok _ => rfl

end Render

section Tags

variable {tags : Registry}

theorem render_appends (htags : tags.Keeps Appends) (scope : Scope) (nodes : List Node) :
    (render tags scope nodes).Appends :=
  render_closed closed_appends htags (fun e _ => appends_throw e) (fun _ _ _ => appends_throw _)
    scope

theorem appends_builtin : Registry.builtin.Keeps Appends :=
  keeps_builtin fun _ _ => appends_throw _

/-- Nodes that give the same text give the same text in any surroundings. -/
theorem result_render_congr (htags : tags.Keeps Appends) {scope : Scope} {xs ys : List Node}
    (h : (render tags scope xs).traced.result = (render tags scope ys).traced.result)
    (before after : List Node) :
    (render tags scope (before ++ xs ++ after)).traced.result
      = (render tags scope (before ++ ys ++ after)).traced.result := by
  have hafter := render_appends htags scope after
  rw [render_append, render_append, render_append, render_append,
    result_traced_bind _ hafter, result_traced_bind _ hafter,
    result_traced_bind _ (render_appends htags scope xs),
    result_traced_bind _ (render_appends htags scope ys), h]

end Tags

end TemplateTree
