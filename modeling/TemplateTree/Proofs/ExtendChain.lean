import TemplateTree.Inheritance
import TemplateTree.Proofs.Inlining
import Mathlib.Data.List.Nodup
import Mathlib.Data.List.Perm.Subperm

/-!
# Where a chain of templates ends

A template leads to the one it is built on, that one to the next, and so on.
`Leads` is this walk through the store on its own: it knows nothing of what was
visited and of no failure, so it can run in circles for as long as one likes.
`inherit` is the walk with a stop at the first key that was visited before, and
the theorems here say what comes of it. There are three ways to stop, and which
one it is depends on the keys alone; what the templates hold besides is looked
at only when the walk has come to a template that is built on none
(`inherit_of_leads`). Then the contents are put together from the end upwards,
which is `assemble`, and the only failure left is a cycle among blocks.
-/

namespace TemplateTree

/-! ## The walk -/

/-- Following the templates that templates are built on leads from one template
to another. Each link has the key that is followed and the content supplied for
the template under it. -/
inductive Store.Leads (store : Store) : Template → List (String × Contents) → Template → Prop where
  | here (nodes : Template) : Leads store nodes [] nodes
  | step {nodes base last : Template} {key : String} {exports : List (String × List Node)}
      {links : List (String × Contents)} (hextends : extension? nodes = some (key, exports))
      (hbase : store[key]? = some base) (hleads : Leads store base links last) :
      Leads store nodes ((key, supplied nodes exports) :: links) last

/-- No key is followed twice, and none that is in `chain`. -/
def Fresh (chain : List String) (links : List (String × Contents)) : Prop :=
  (links.map (·.1)).Nodup ∧ ∀ key ∈ links.map (·.1), key ∉ chain

theorem fresh_nil (chain : List String) : Fresh chain [] :=
  ⟨List.nodup_nil, fun _ hkey => nomatch hkey⟩

theorem fresh_cons_iff {chain : List String} {key : String} {contents : Contents}
    {links : List (String × Contents)} :
    Fresh chain ((key, contents) :: links) ↔ key ∉ chain ∧ Fresh (key :: chain) links := by
  rw [Fresh, Fresh, List.map_cons, List.nodup_cons, List.forall_mem_cons]
  simp only [List.mem_cons, not_or]
  constructor
  · rintro ⟨⟨hkey, hnodup⟩, hchain, hlinks⟩
    exact ⟨hchain, hnodup, fun other hother =>
      ⟨fun heq => hkey (heq ▸ hother), hlinks other hother⟩⟩
  · rintro ⟨hchain, hnodup, hlinks⟩
    exact ⟨⟨fun hkey => (hlinks key hkey).1 rfl, hnodup⟩, hchain,
      fun other hother => (hlinks other hother).2⟩

section Lookup

variable {β : Type} {map : Std.ExtTreeMap String β} {key : String}

theorem mem_iff_getElem?_eq_some : key ∈ map ↔ ∃ value, map[key]? = some value := by
  rw [Std.ExtTreeMap.mem_iff_isSome_getElem?, Option.isSome_iff_exists]

theorem mem_of_getElem?_eq_some {value : β} (h : map[key]? = some value) : key ∈ map :=
  mem_iff_getElem?_eq_some.mpr ⟨value, h⟩

theorem not_mem_of_getElem?_eq_none (h : map[key]? = none) : key ∉ map := by
  rw [Std.ExtTreeMap.mem_iff_isSome_getElem?, h]
  exact Bool.false_ne_true

end Lookup

theorem Store.Leads.mem_store {store : Store} {nodes last : Template}
    {links : List (String × Contents)} (h : store.Leads nodes links last) :
    ∀ key ∈ links.map (·.1), key ∈ store.keys := by
  induction h with
  | here _ => exact fun _ hkey => nomatch hkey
  | step _ hbase _ ih =>
      rw [List.map_cons, List.forall_mem_cons]
      exact ⟨Std.ExtTreeMap.mem_keys.mpr (mem_of_getElem?_eq_some hbase), ih⟩

theorem Store.Leads.length_le {store : Store} {chain : List String} {nodes last : Template}
    {links : List (String × Contents)} (h : store.Leads nodes links last)
    (hfresh : Fresh chain links) : links.length ≤ store.size := by
  rw [← Std.ExtTreeMap.length_keys, ← List.length_map (·.1)]
  exact (List.subperm_of_subset hfresh.1 h.mem_store).length_le

namespace Store

variable {store : Store} {nodes middle base last : Template} {key : String}
  {exports : List (String × List Node)} {contents : Contents}

theorem Leads.snoc {links : List (String × Contents)} (h : store.Leads nodes links middle)
    (hextends : extension? middle = some (key, exports)) (hbase : store[key]? = some base) :
    store.Leads nodes (links ++ [(key, supplied middle exports)]) base := by
  induction h with
  | here _ => exact .step hextends hbase (.here base)
  | step hfirst hnext _ ih => exact .step hfirst hnext (ih hextends)

/-- A walk comes apart at each key that it follows. -/
theorem Leads.split {before after : List (String × Contents)}
    (h : store.Leads nodes (before ++ (key, contents) :: after) last) :
    ∃ middle exports base, store.Leads nodes before middle
      ∧ extension? middle = some (key, exports) ∧ store[key]? = some base
      ∧ store.Leads base after last := by
  induction before generalizing nodes with
  | nil =>
      cases h with
      | step hextends hbase hleads => exact ⟨nodes, _, _, .here nodes, hextends, hbase, hleads⟩
  | cons link before ih =>
      cases h with
      | step hextends hbase hleads =>
          obtain ⟨middle, exports, base, hbefore, hmiddle⟩ := ih hleads
          exact ⟨middle, exports, base, .step hextends hbase hbefore, hmiddle⟩

end Store

/-- The walk from any template comes to one where it has to stop. -/
theorem exists_leads_stop (store : Store) (chain : List String) (nodes : Template) :
    ∃ links last, store.Leads nodes links last ∧ Fresh chain links
      ∧ ∀ key exports, extension? last = some (key, exports) →
        key ∈ chain ∨ key ∈ links.map (·.1) ∨ store[key]? = none := by
  induction chain, nodes using inherit.induct store with
  | case1 chain nodes hroot =>
      refine ⟨[], nodes, .here nodes, fresh_nil chain, fun key exports h => ?_⟩
      rw [hroot] at h
      cases h
  | case2 chain nodes key exports hextends ih =>
      by_cases hstop : key ∈ chain ∨ store[key]? = none
      · refine ⟨[], nodes, .here nodes, fresh_nil chain, fun key' exports' h => ?_⟩
        rw [hextends] at h
        cases h
        exact hstop.imp_right .inr
      · rw [not_or] at hstop
        obtain ⟨base, hbase⟩ := Option.ne_none_iff_exists'.mp hstop.2
        obtain ⟨links, last, hleads, hfresh, hlast⟩ := ih hstop.1 base hbase
        refine ⟨_, last, .step hextends hbase hleads, fresh_cons_iff.mpr ⟨hstop.1, hfresh⟩, ?_⟩
        intro key' exports' h
        rw [List.map_cons, List.mem_cons]
        rcases hlast key' exports' h with hmem | hmem | hnone
        · rcases List.mem_cons.mp hmem with heq | hmem
          · exact .inr (.inl (.inl heq))
          · exact .inl hmem
        · exact .inr (.inl (.inr hmem))
        · exact .inr (.inr hnone)

/-! ## Following it -/

section Traced

variable {α β : Type}

theorem Traced.result_bind (x : Traced α) (f : α → Traced β) :
    (x >>= f).result = x.result >>= fun a => (f a).result := by
  obtain ⟨records, e | a⟩ := x
  · rfl
  · rfl

/-- The keys of the base templates that were fetched, each with the number of
templates that were being resolved then. -/
def fetched (records : List Record) : List (String × Nat) :=
  records.filterMap fun
    | .resolving base depth => some (base, depth)
    | _ => none

theorem fetched_append (xs ys : List Record) : fetched (xs ++ ys) = fetched xs ++ fetched ys :=
  List.filterMap_append

theorem fetched_passedOver (base : String) (nodes : Template) :
    fetched (passedOver base nodes) = [] := by
  rw [fetched, List.filterMap_eq_nil_iff]
  intro record hrecord
  rw [passedOver, List.mem_append, List.mem_map, List.mem_filterMap] at hrecord
  rcases hrecord with ⟨_, _, rfl⟩ | ⟨node, _, hnode⟩
  · rfl
  · split at hnode
    · cases hnode
    · cases hnode
    · cases hnode
      rfl

end Traced

/-- One template's content put onto the tree of the template it is built on. -/
def layer (contents : Contents) (base : List Node) : Except RenderError (List Node) :=
  (Assembly.onto contents base).resolve [] base

/-- The contents of all links put onto the tree at the end, the last link's
first. -/
def assemble (links : List (String × Contents)) (root : Except RenderError (List Node)) :
    Except RenderError (List Node) :=
  links.foldr (fun link base => base >>= layer link.2) root

theorem assemble_cons (link : String × Contents) (links : List (String × Contents))
    (root : Except RenderError (List Node)) :
    assemble (link :: links) root = assemble links root >>= layer link.2 :=
  List.foldr_cons

theorem assemble_error (links : List (String × Contents)) (e : RenderError) :
    assemble links (.error e) = .error e := by
  induction links with
  | nil => rfl
  | cons link links ih => rw [assemble_cons, ih]; rfl

theorem extension?_eq_none_iff {nodes : Template} :
    extension? nodes = none ↔ ∀ node ∈ nodes, node.kind ≠ .extend := by
  induction nodes with
  | nil => simp [extension?]
  | cons node nodes ih =>
      rw [List.forall_mem_cons, ← ih]
      cases node with
      | _ => simp [extension?, Node.kind]

section Inherit

variable {store : Store} {chain : List String} {nodes base : Template} {key : String}
  {exports : List (String × List Node)}

theorem inherit_of_root (h : extension? nodes = none) : inherit store chain nodes = pure nodes := by
  rw [inherit, h]

theorem inherit_of_mem (h : extension? nodes = some (key, exports)) (hchain : key ∈ chain) :
    inherit store chain nodes = ⟨passedOver key nodes, .error (.compositionCycle key)⟩ := by
  rw [inherit, h]
  simp only [dif_pos hchain]
  rw [Traced.recordAll, Traced.bind_ok, Traced.fail, List.append_nil]

theorem inherit_of_missing (h : extension? nodes = some (key, exports)) (hchain : key ∉ chain)
    (hmissing : store[key]? = none) :
    inherit store chain nodes = ⟨passedOver key nodes, .error (.templateNotFound key)⟩ := by
  rw [inherit, h]
  simp only [dif_neg hchain]
  split
  · rw [Traced.recordAll, Traced.bind_ok, Traced.fail, List.append_nil]
  · next hbase => rw [hmissing] at hbase; cases hbase

theorem inherit_of_base (h : extension? nodes = some (key, exports)) (hchain : key ∉ chain)
    (hbase : store[key]? = some base) :
    inherit store chain nodes
      = ⟨passedOver key nodes ++ .resolving key chain.length
            :: (inherit store (key :: chain) base).records,
          (inherit store (key :: chain) base).result >>= layer (supplied nodes exports)⟩ := by
  rw [inherit, h]
  simp only [dif_neg hchain]
  split
  · next hnone => rw [hbase] at hnone; cases hnone
  · next base' hbase' =>
      obtain rfl : base = base' := Option.some.inj (hbase.symm.trans hbase')
      cases inherit store (key :: chain) base with
      | mk records result =>
          cases result with
          | error e => rfl
          | ok merged =>
              rw [Traced.recordAll, Traced.record, Traced.bind_ok, Traced.bind_ok, Traced.bind_ok,
                Traced.ofExcept, List.append_nil]
              rfl

/-- What becomes of a template depends on no more of it than what it is built on and what
it supplies. -/
theorem result_inherit_congr {nodes' : Template} {exports' : List (String × List Node)}
    (h : extension? nodes = some (key, exports)) (h' : extension? nodes' = some (key, exports'))
    (hsupplied : supplied nodes exports = supplied nodes' exports') :
    (inherit store chain nodes).result = (inherit store chain nodes').result := by
  by_cases hchain : key ∈ chain
  · rw [inherit_of_mem h hchain, inherit_of_mem h' hchain]
  · cases hbase : store[key]? with
    | none => rw [inherit_of_missing h hchain hbase, inherit_of_missing h' hchain hbase]
    | some base =>
        rw [inherit_of_base h hchain hbase, inherit_of_base h' hchain hbase, hsupplied]

end Inherit

/-- The walk as far as it goes: what it fetches, and what becomes of the result
that stands at its end. -/
theorem inherit_of_leads {store : Store} {nodes last : Template}
    {links : List (String × Contents)} (h : store.Leads nodes links last) :
    ∀ {chain : List String}, Fresh chain links →
      (inherit store chain nodes).result
          = assemble links (inherit store ((links.map (·.1)).reverse ++ chain) last).result
        ∧ fetched (inherit store chain nodes).records
          = (links.map (·.1)).zipIdx chain.length
            ++ fetched (inherit store ((links.map (·.1)).reverse ++ chain) last).records := by
  induction h with
  | here nodes => exact fun _ => ⟨rfl, rfl⟩
  | @step nodes base last key exports links hextends hbase _ ih =>
      intro chain hfresh
      obtain ⟨hchain, hfresh⟩ := fresh_cons_iff.mp hfresh
      obtain ⟨hresult, hfetched⟩ := ih hfresh
      have hreverse : ((key :: links.map (·.1)).reverse ++ chain)
          = (links.map (·.1)).reverse ++ key :: chain := by
        rw [List.reverse_cons, List.append_assoc, List.singleton_append]
      rw [inherit_of_base hextends hchain hbase, List.map_cons, hreverse]
      refine ⟨?_, ?_⟩
      · rw [assemble_cons, hresult]
      · rw [fetched_append, fetched_passedOver, List.nil_append, List.zipIdx_cons, List.cons_append,
          ← List.length_cons (a := key), ← hfetched]
        rfl

theorem compose_eq (store : Store) (chain : List String) (nodes : Template) :
    compose store chain nodes
      = ⟨(inherit store chain nodes).records,
          (inherit store chain nodes).result >>= flatten⟩ := by
  rw [compose]
  cases inherit store chain nodes with
  | mk records result =>
      cases result with
      | error e => rfl
      | ok merged => rw [Traced.bind_ok, Traced.ofExcept, List.append_nil]; rfl

section Outcome

variable {store : Store} {chain : List String} {nodes last : Template}
  {links : List (String × Contents)} {key : String} {exports : List (String × List Node)}

theorem compose_of_visited (hleads : store.Leads nodes links last) (hfresh : Fresh chain links)
    (hlast : extension? last = some (key, exports))
    (hvisited : key ∈ chain ∨ key ∈ links.map (·.1)) :
    (compose store chain nodes).result = .error (.compositionCycle key) := by
  have hmem : key ∈ (links.map (·.1)).reverse ++ chain := by
    rw [List.mem_append, List.mem_reverse]
    exact hvisited.symm
  rw [compose_eq, (inherit_of_leads hleads hfresh).1, inherit_of_mem hlast hmem, assemble_error]
  rfl

theorem compose_of_missing (hleads : store.Leads nodes links last) (hfresh : Fresh chain links)
    (hlast : extension? last = some (key, exports)) (hchain : key ∉ chain)
    (hmissing : store[key]? = none) :
    (compose store chain nodes).result = .error (.templateNotFound key) := by
  have hmem : key ∉ (links.map (·.1)).reverse ++ chain := by
    rw [List.mem_append, List.mem_reverse, not_or]
    refine ⟨fun hlink => ?_, hchain⟩
    have hkey : key ∈ store := Std.ExtTreeMap.mem_keys.mp (hleads.mem_store key hlink)
    exact not_mem_of_getElem?_eq_none hmissing hkey
  rw [compose_eq, (inherit_of_leads hleads hfresh).1, inherit_of_missing hlast hmem hmissing,
    assemble_error]
  rfl

/-- A walk that comes to an end: the contents of all its templates are put
together, and nothing else of the store is looked at. -/
theorem compose_of_root (hleads : store.Leads nodes links last) (hfresh : Fresh chain links)
    (hlast : extension? last = none) :
    (compose store chain nodes).result = (assemble links (.ok last) >>= flatten)
      ∧ fetched (compose store chain nodes).records
        = (links.map (·.1)).zipIdx chain.length := by
  obtain ⟨hresult, hfetched⟩ := inherit_of_leads hleads hfresh
  rw [inherit_of_root hlast] at hresult hfetched
  rw [compose_eq]
  refine ⟨?_, ?_⟩
  · rw [hresult]
    rfl
  · rw [hfetched]
    exact List.append_nil _

end Outcome

/-- At one of the links the content that is supplied there, put onto the tree
that has been put together below, refers to itself by way of `key`. -/
def BlockCycle (links : List (String × Contents)) (root : List Node) (key : String) : Prop :=
  ∃ upper link lower base, links = upper ++ link :: lower
    ∧ assemble lower (.ok root) = .ok base
    ∧ (Assembly.onto link.2 base).Reaches base key
    ∧ Relation.TransGen (Assembly.onto link.2 base).Refers key key

theorem blockCycle_of_assemble {links : List (String × Contents)} {root : List Node}
    {e : RenderError} (h : assemble links (.ok root) = .error e) :
    ∃ key, e = .compositionCycle key ∧ BlockCycle links root key := by
  induction links with
  | nil => cases h
  | cons link links ih =>
      rw [assemble_cons, bind_eq_error_iff] at h
      rcases h with hbelow | ⟨base, hbase, hlayer⟩
      · obtain ⟨key, hkey, upper, link', lower, base, hlinks, hcycle⟩ := ih hbelow
        exact ⟨key, hkey, link :: upper, link', lower, base,
          by rw [hlinks, List.cons_append], hcycle⟩
      · obtain ⟨key, hkey, hcycle⟩ := Assembly.exists_cycle_of_resolve_eq_error hlayer
        exact ⟨key, hkey, [], link, links, base, rfl, hbase, hcycle⟩

/-- Once content has been put together without a failure, there is none in
taking the blocks away. -/
theorem assemble_of_flatten_eq_error {link : String × Contents}
    {links : List (String × Contents)} {root : List Node} {e : RenderError}
    (h : (assemble (link :: links) (.ok root) >>= flatten) = .error e) :
    assemble (link :: links) (.ok root) = .error e := by
  rcases bind_eq_error_iff.mp h with h | ⟨merged, hmerged, hflatten⟩
  · exact h
  · rw [assemble_cons, bind_eq_ok_iff] at hmerged
    obtain ⟨base, -, hlayer⟩ := hmerged
    rw [Assembly.flatten_of_resolve rfl hlayer] at hflatten
    cases hflatten

/-- What becomes of a template that is built on another. The walk always comes
to a stop. If it comes back to a key first, or to a key without a template, that
is the failure, whatever the blocks hold. Otherwise every template on the way is
fetched once and in order, and blocks are all that can still fail. -/
theorem compose_outcome (store : Store) (chain : List String) (nodes : Template)
    (hextends : extension? nodes ≠ none) :
    (∃ links last, store.Leads nodes links last ∧ Fresh chain links
        ∧ ∀ key exports, extension? last = some (key, exports) →
          key ∈ chain ∨ key ∈ links.map (·.1) ∨ store[key]? = none)
      ∧ ∀ links last, store.Leads nodes links last → Fresh chain links →
        (∀ key exports, extension? last = some (key, exports) →
          (key ∈ chain ∨ key ∈ links.map (·.1) →
            (compose store chain nodes).result = .error (.compositionCycle key))
          ∧ (key ∉ chain → store[key]? = none →
            (compose store chain nodes).result = .error (.templateNotFound key)))
        ∧ (extension? last = none →
          fetched (compose store chain nodes).records = (links.map (·.1)).zipIdx chain.length
          ∧ links.length ≤ store.size
          ∧ (compose store chain nodes).result = (assemble links (.ok last) >>= flatten)
          ∧ ∀ e, (compose store chain nodes).result = .error e →
            ∃ key, e = .compositionCycle key ∧ BlockCycle links last key) := by
  refine ⟨exists_leads_stop store chain nodes, fun links last hleads hfresh => ⟨?_, ?_⟩⟩
  · intro key exports hlast
    exact ⟨compose_of_visited hleads hfresh hlast, compose_of_missing hleads hfresh hlast⟩
  · intro hlast
    obtain ⟨hresult, hfetched⟩ := compose_of_root hleads hfresh hlast
    refine ⟨hfetched, hleads.length_le hfresh, hresult, fun e he => ?_⟩
    rw [hresult] at he
    cases hleads with
    | here _ => exact absurd hlast hextends
    | step _ _ _ => exact blockCycle_of_assemble (assemble_of_flatten_eq_error he)

/-- A store whose templates run in a circle, with one before it. -/
def circularStore : Store :=
  .ofList [("a", [Node.extend "b" []]), ("b", [Node.extend "c" []]), ("c", [Node.extend "b" []])]

/-- The circle is found at the first key that comes back, although the content
supplied at the top refers to itself. -/
theorem compose_outcome_circular :
    extension? [Node.extend "a" [("x", [.slot "x"])]] ≠ none
      ∧ (compose circularStore [] [.extend "a" [("x", [.slot "x"])]]).result
        = .error (.compositionCycle "b") := by
  have hleads : circularStore.Leads [.extend "a" [("x", [.slot "x"])]]
      [("a", supplied [.extend "a" [("x", [.slot "x"])]] [("x", [.slot "x"])]),
        ("b", supplied [.extend "b" []] []), ("c", supplied [.extend "c" []] [])]
      [.extend "b" []] :=
    .step rfl (by decide +kernel) (.step rfl (by decide +kernel)
      (.step rfl (by decide +kernel) (.here _)))
  refine ⟨by simp [extension?], ?_⟩
  exact ((compose_outcome circularStore [] [.extend "a" [("x", [.slot "x"])]]
    (by simp [extension?])).2 _ _ hleads ⟨by decide, by decide⟩).1 "b" [] rfl |>.1 (.inr (by decide))

end TemplateTree
