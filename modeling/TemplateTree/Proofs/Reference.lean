import TemplateTree.Proofs.Expansion
import Mathlib.Logic.Relation

/-!
# Content that refers to content

The keys that have content form a graph: a key refers to the keys whose content
its own content takes in. `resolve` walks this graph depth first and carries the
keys on the path down to where it is. This file says what that buys.

The walk fails only where the graph has a cycle, and the key it names is on one
(`exists_cycle_of_resolve_eq_error`). It finds every cycle it could run into: if
the walk ends well there is none to be reached (`not_reachesCycle`). Meeting a
key twice on different paths is no cycle, and neither direction mentions it: the
first speaks of the path alone, and so does the second.
-/

namespace TemplateTree

namespace Assembly

open Relation

/-- The assembled content of a key inside the content of the `active` keys. -/
def enter (a : Assembly) (active : List String) (key : String) :
    Except RenderError (List Node) :=
  match a.content? key with
  | none => .ok []
  | some content =>
      if key ∈ active then .error (.compositionCycle key)
      else a.resolve (key :: active) content

theorem resolve_eq (a : Assembly) (active : List String) (nodes : List Node) :
    a.resolve active nodes = expand a (a.enter active) nodes := by
  rw [resolve]
  congr 1
  funext key
  rw [enter]
  split
  · next hnone => rw [hnone]
  · next content hsome =>
      rw [hsome]
      rfl

theorem resolve_of_hasBlocks {a : Assembly} {active : List String} {nodes : List Node}
    (h : hasBlocks nodes = false) : a.resolve active nodes = .ok nodes := by
  rw [resolve_eq, expand_eq, needed_of_hasBlocks h, List.findSome?_nil, settle, fill,
    graft_of_hasBlocks h]

section Enter

variable {a : Assembly} {active : List String} {key : String} {content : List Node}

theorem enter_of_none (h : a.content? key = none) : a.enter active key = .ok [] := by
  rw [enter, h]

theorem enter_of_mem (h : a.content? key = some content) (hactive : key ∈ active) :
    a.enter active key = .error (.compositionCycle key) := by
  rw [enter, h]
  exact if_pos hactive

theorem enter_of_not_mem (h : a.content? key = some content) (hactive : key ∉ active) :
    a.enter active key = a.resolve (key :: active) content := by
  rw [enter, h]
  exact if_neg hactive

theorem enter_of_hasBlocks (h : a.content? key = some content) (hactive : key ∉ active)
    (hblocks : hasBlocks content = false) : a.enter active key = .ok content := by
  rw [enter_of_not_mem h hactive, resolve_of_hasBlocks hblocks]

theorem resolve_of_failure?_enter (h : a.content? key = some content)
    (hok : failure? (a.enter active key) = none) :
    key ∉ active ∧ a.resolve (key :: active) content = .ok (contentOf (a.enter active key)) := by
  by_cases hactive : key ∈ active
  · rw [enter_of_mem h hactive] at hok
    cases hok
  · refine ⟨hactive, ?_⟩
    rw [enter_of_not_mem h hactive] at hok ⊢
    cases hresolve : a.resolve (key :: active) content with
    | error e => rw [hresolve] at hok; cases hok
    | ok out => rfl

/-- The content of a key in one assembly is, up to `f`, its content in another, if what
stands there is so up to `g`, and resolving it is so up to `f`. -/
theorem map_enter {b : Assembly} {f g : List Node → List Node} (hnil : f [] = [])
    (hcontent : b.content? key = (a.content? key).map g)
    (hresolve : ∀ content, a.content? key = some content → key ∉ active →
      (a.resolve (key :: active) content).map f = b.resolve (key :: active) (g content)) :
    (a.enter active key).map f = b.enter active key := by
  cases ha : a.content? key with
  | none =>
      rw [ha] at hcontent
      rw [enter_of_none ha, enter_of_none hcontent, Except.map, hnil]
  | some content =>
      rw [ha] at hcontent
      by_cases hactive : key ∈ active
      · rw [enter_of_mem ha hactive, enter_of_mem hcontent hactive]
        rfl
      · rw [enter_of_not_mem ha hactive, enter_of_not_mem hcontent hactive]
        exact hresolve content ha hactive

theorem resolve_eq_ok_of_enter {nodes : List Node} {content : String → List Node}
    (h : ∀ key ∈ needed a.replacements nodes, a.enter active key = .ok (content key)) :
    a.resolve active nodes = .ok (a.fill content nodes) := by
  rw [resolve_eq, expand_eq_ok_iff]
  refine ⟨fun key hkey => ?_, fill_congr fun key hkey => ?_⟩
  · rw [h key hkey]
    rfl
  · rw [h key hkey]
    rfl

end Enter

/-- Nodes refer to a key that has content and whose content they take in: in a
slot, or in place of the body of a block. -/
def RefersTo (a : Assembly) (nodes : List Node) (key : String) : Prop :=
  key ∈ needed a.replacements nodes ∧ (a.content? key).isSome

/-- A key refers to what its content refers to. -/
def Refers (a : Assembly) (key other : String) : Prop :=
  ∃ content, a.content? key = some content ∧ a.RefersTo content other

/-- References lead from the nodes to a key, in any number of steps. -/
def Reaches (a : Assembly) (nodes : List Node) (key : String) : Prop :=
  ∃ first, a.RefersTo nodes first ∧ ReflTransGen a.Refers first key

/-- References lead from the nodes to a key that they lead back to. -/
def ReachesCycle (a : Assembly) (nodes : List Node) : Prop :=
  ∃ key, a.Reaches nodes key ∧ TransGen a.Refers key key

variable {a : Assembly}

theorem Reaches.transGen {content : List Node} {key other : String}
    (hcontent : a.content? key = some content) (h : a.Reaches content other) :
    TransGen a.Refers key other := by
  obtain ⟨first, hfirst, hpath⟩ := h
  exact .head' ⟨content, hcontent, hfirst⟩ hpath

/-! ### Failure -/

/-- A failure names a key that the nodes reach and that is active, or is reached
from itself. The induction is on the keys left to enter: a failure inside the
content of a needed key names that key, which then reaches itself, or it names
one that was active before. -/
theorem reaches_of_resolve_eq_error {active : List String} {nodes : List Node} {e : RenderError}
    (h : a.resolve active nodes = .error e) :
    ∃ key, e = .compositionCycle key ∧ a.Reaches nodes key
      ∧ (key ∈ active ∨ TransGen a.Refers key key) := by
  induction active, nodes using resolve.induct (a := a) with
  | case1 active nodes ih =>
      rw [resolve_eq] at h
      obtain ⟨first, hneeded, hfail⟩ := exists_of_expand_eq_error h
      cases hcontent : a.content? first with
      | none => rw [enter_of_none hcontent] at hfail; cases hfail
      | some content =>
          have hfirst : a.RefersTo nodes first := ⟨hneeded, by rw [hcontent]; rfl⟩
          by_cases hactive : first ∈ active
          · rw [enter_of_mem hcontent hactive] at hfail
            cases hfail
            exact ⟨first, rfl, ⟨first, hfirst, .refl⟩, .inl hactive⟩
          · rw [enter_of_not_mem hcontent hactive] at hfail
            obtain ⟨key, hkey, hreach, hcause⟩ := ih first content hcontent hactive hfail
            have hpath : TransGen a.Refers first key := hreach.transGen hcontent
            refine ⟨key, hkey, ⟨first, hfirst, hpath.to_reflTransGen⟩, ?_⟩
            -- `first` is active inside its own content only; a failure that names it
            -- there has closed the path.
            rcases hcause with hmem | hcycle
            · rcases List.mem_cons.mp hmem with rfl | hmem
              · exact .inr hpath
              · exact .inl hmem
            · exact .inr hcycle

theorem exists_cycle_of_resolve_eq_error {nodes : List Node} {e : RenderError}
    (h : a.resolve [] nodes = .error e) :
    ∃ key, e = .compositionCycle key ∧ a.Reaches nodes key ∧ TransGen a.Refers key key := by
  obtain ⟨key, hkey, hreach, hcause⟩ := reaches_of_resolve_eq_error h
  exact ⟨key, hkey, hreach, hcause.resolve_left List.not_mem_nil⟩

/-! ### Success -/

theorem resolve_content_of_refersTo {active : List String} {nodes out : List Node} {key : String}
    (h : a.resolve active nodes = .ok out) (hkey : a.RefersTo nodes key) :
    key ∉ active ∧ ∃ content inner, a.content? key = some content
      ∧ a.resolve (key :: active) content = .ok inner := by
  rw [resolve_eq, expand_eq_ok_iff] at h
  obtain ⟨content, hcontent⟩ := Option.isSome_iff_exists.mp hkey.2
  obtain ⟨hactive, hinner⟩ := resolve_of_failure?_enter hcontent (h.1 key hkey.1)
  exact ⟨hactive, content, _, hcontent, hinner⟩

/-- When the content of a key is resolved, so is the content of every key it
reaches, further inside. -/
theorem resolve_content_of_reflTransGen {first key : String}
    (hpath : ReflTransGen a.Refers first key) {active : List String}
    {content inner : List Node} (hcontent : a.content? first = some content)
    (h : a.resolve (first :: active) content = .ok inner) :
    ∃ active content inner, a.content? key = some content
      ∧ a.resolve (key :: active) content = .ok inner := by
  induction hpath with
  | refl => exact ⟨active, content, inner, hcontent, h⟩
  | tail _ hstep ih =>
      obtain ⟨active', content', inner', hcontent', h'⟩ := ih
      obtain ⟨content'', hcontent'', hrefers⟩ := hstep
      obtain rfl : content' = content'' := Option.some.inj (hcontent'.symm.trans hcontent'')
      obtain ⟨-, next, inner'', hnext, hinner⟩ := resolve_content_of_refersTo h' hrefers
      exact ⟨_, next, inner'', hnext, hinner⟩

/-- No path out of content that is resolved leads back to a key on the way in. -/
theorem not_mem_active_of_transGen {first key : String} (hpath : TransGen a.Refers first key) :
    ∀ {active : List String} {content inner : List Node},
      a.content? first = some content → a.resolve (first :: active) content = .ok inner →
      key ∉ first :: active := by
  induction hpath using TransGen.head_induction_on with
  | single hstep =>
      intro active content inner hcontent h
      obtain ⟨content', hcontent', hrefers⟩ := hstep
      obtain rfl : content = content' := Option.some.inj (hcontent.symm.trans hcontent')
      exact (resolve_content_of_refersTo h hrefers).1
  | head hstep _ ih =>
      intro active content inner hcontent h
      obtain ⟨content', hcontent', hrefers⟩ := hstep
      obtain rfl : content = content' := Option.some.inj (hcontent.symm.trans hcontent')
      obtain ⟨-, next, inner', hnext, hinner⟩ := resolve_content_of_refersTo h hrefers
      exact fun hmem => ih hnext hinner (List.mem_cons_of_mem _ hmem)

theorem not_reachesCycle {active : List String} {nodes out : List Node}
    (h : a.resolve active nodes = .ok out) : ¬ a.ReachesCycle nodes := by
  rintro ⟨key, ⟨first, hfirst, hpath⟩, hcycle⟩
  obtain ⟨-, content, inner, hcontent, hinner⟩ := resolve_content_of_refersTo h hfirst
  obtain ⟨active', content', inner', hcontent', hinner'⟩ :=
    resolve_content_of_reflTransGen hpath hcontent hinner
  exact not_mem_active_of_transGen hcycle hcontent' hinner' List.mem_cons_self

/-- Nodes are resolved exactly if no cycle can be reached from them. -/
theorem exists_resolve_eq_ok_iff (a : Assembly) (nodes : List Node) :
    (∃ out, a.resolve [] nodes = .ok out) ↔ ¬ a.ReachesCycle nodes := by
  constructor
  · rintro ⟨out, h⟩
    exact not_reachesCycle h
  · intro hacyclic
    cases h : a.resolve [] nodes with
    | ok out => exact ⟨out, rfl⟩
    | error e =>
        obtain ⟨key, -, hreach, hcycle⟩ := exists_cycle_of_resolve_eq_error h
        exact absurd ⟨key, hreach, hcycle⟩ hacyclic

/-! ### From the inside -/

/-- What is resolved inside the content of some keys is resolved inside that of
fewer. -/
theorem resolve_of_subset {active active' : List String} {nodes out : List Node}
    (h : a.resolve active nodes = .ok out)
    (hactive : ∀ k ∈ active', k ∈ active) : a.resolve active' nodes = .ok out := by
  induction active, nodes using resolve.induct (a := a) generalizing active' out with
  | case1 active nodes ih =>
      rw [resolve_eq, expand_eq_ok_iff] at h
      obtain ⟨hok, rfl⟩ := h
      have henter : ∀ k ∈ needed a.replacements nodes,
          a.enter active' k = .ok (contentOf (a.enter active k)) := by
        intro k hk
        cases hcontent : a.content? k with
        | none => rw [enter_of_none hcontent, enter_of_none hcontent, contentOf]
        | some content =>
            obtain ⟨hentered, hinner⟩ := resolve_of_failure?_enter hcontent (hok k hk)
            have hentered' : k ∉ active' := fun hmem => hentered (hactive k hmem)
            rw [enter_of_not_mem hcontent hentered']
            exact ih k content hcontent hentered hinner fun other hother =>
              (List.mem_cons.mp hother).elim (· ▸ List.mem_cons_self)
                fun hother => List.mem_cons_of_mem k (hactive other hother)
      exact resolve_eq_ok_of_enter henter

/-- The content of a key is what the nodes that stand for it resolve to: had they to be
entered from inside themselves, they could not be resolved at all. -/
theorem enter_nil_eq_ok_iff {key : String} {content out : List Node}
    (hcontent : a.content? key = some content) :
    a.enter [] key = .ok out ↔ a.resolve [] content = .ok out := by
  rw [enter_of_not_mem hcontent List.not_mem_nil]
  constructor
  · intro h
    exact resolve_of_subset h fun _ hmem => absurd hmem List.not_mem_nil
  · intro h
    cases hinner : a.resolve [key] content with
    | ok inner =>
        have hout : a.resolve [] content = .ok inner :=
          resolve_of_subset hinner fun _ hmem => absurd hmem List.not_mem_nil
        exact hout.symm.trans h
    | error e =>
        obtain ⟨other, -, hreach, hcause⟩ := reaches_of_resolve_eq_error hinner
        refine absurd ⟨other, hreach, ?_⟩ (not_reachesCycle h)
        rcases hcause with hmem | hcycle
        · obtain rfl := List.mem_singleton.mp hmem
          exact hreach.transGen hcontent
        · exact hcycle

/-- When nodes are resolved, every key that they need has its content, and they are
filled with it. -/
theorem exists_enter_of_resolve {nodes out : List Node} (h : a.resolve [] nodes = .ok out) :
    ∃ content : String → List Node,
      (∀ key ∈ needed a.replacements nodes, a.enter [] key = .ok (content key))
        ∧ out = a.fill content nodes := by
  rw [resolve_eq, expand_eq_ok_iff] at h
  obtain ⟨hok, hout⟩ := h
  refine ⟨_, fun key hkey => ?_, hout⟩
  cases henter : a.enter [] key with
  | ok content => rfl
  | error e =>
      have hnone := hok key hkey
      rw [henter] at hnone
      cases hnone

/-- To prove something of nodes that are resolved, it may be assumed of the contents that
they need. -/
@[elab_as_elim]
theorem resolve_induction {P : List Node → Prop} {active : List String} {nodes out : List Node}
    (h : a.resolve active nodes = .ok out)
    (step : ∀ nodes, (∀ key ∈ needed a.replacements nodes, ∀ content,
      a.content? key = some content → P content) → P nodes) :
    P nodes := by
  induction active, nodes using resolve.induct (a := a) generalizing out with
  | case1 active nodes ih =>
      rw [resolve_eq, expand_eq_ok_iff] at h
      refine step nodes fun key hkey content hcontent => ?_
      obtain ⟨hactive, hinner⟩ := resolve_of_failure?_enter hcontent (h.1 key hkey)
      exact ih key content hcontent hactive hinner

end Assembly

end TemplateTree
