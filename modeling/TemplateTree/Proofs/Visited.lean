import TemplateTree.Proofs.Unresolved

/-!
# What a call looks up

A store may hold any number of templates, and a template may name any number of them:
below its top level, in a later `extend` node, in the content it supplies. None of this
matters. The one key that counts in a template is that of its first top-level `extend`
node, and the keys of one chain (`Store.Visits`) are all that a call asks the store for.

This holds because the walk through the store is over before anything is put in place
(`inherit` goes down first and assembles on the way back), and each of its steps reads the
template as it is stored. So `extend` nodes that come to the top of a tree when content is
put into it or when blocks give way come too late to be followed.
-/

namespace TemplateTree

/-- The chain of a template comes to this key: it is followed, or the walk stops at it. -/
def Store.Visits (store : Store) (chain : List String) (nodes : Template) (key : String) : Prop :=
  ∃ links last exports, store.Leads nodes links last ∧ Fresh chain links
    ∧ extension? last = some (key, exports)

/-- What a template is built on is named by its first top-level `extend` node. -/
theorem extension?_eq_some_iff {nodes : Template} {key : String}
    {exports : List (String × List Node)} :
    extension? nodes = some (key, exports)
      ↔ ∃ before after, nodes = before ++ .extend key exports :: after
        ∧ ∀ node ∈ before, node.kind ≠ .extend := by
  constructor
  · intro h
    induction nodes with
    | nil => cases h
    | cons node nodes ih =>
        by_cases hnode : node.kind = .extend
        · cases node with
          | extend _ _ =>
              cases h
              exact ⟨[], nodes, rfl, fun _ hmem => nomatch hmem⟩
          | _ => cases hnode
        · have hrest : extension? nodes = some (key, exports) := by
            cases node with
            | extend _ _ => exact absurd rfl hnode
            | _ => exact h
          obtain ⟨before, after, rfl, hbefore⟩ := ih hrest
          exact ⟨node :: before, after, rfl, List.forall_mem_cons.mpr ⟨hnode, hbefore⟩⟩
  · rintro ⟨before, after, rfl, hbefore⟩
    induction before with
    | nil => rfl
    | cons node before ih =>
        rw [List.forall_mem_cons] at hbefore
        cases node with
        | extend _ _ => exact absurd rfl hbefore.1
        | _ => exact ih hbefore.2

section Visits

variable {store : Store} {chain : List String} {nodes base : Template} {key next : String}
  {exports : List (String × List Node)}

theorem Store.Visits.first (hextends : extension? nodes = some (key, exports)) :
    store.Visits chain nodes key :=
  ⟨[], nodes, exports, .here nodes, fresh_nil chain, hextends⟩

theorem Store.Visits.below (hextends : extension? nodes = some (next, exports))
    (hchain : next ∉ chain) (hbase : store[next]? = some base)
    (h : store.Visits (next :: chain) base key) : store.Visits chain nodes key := by
  obtain ⟨links, last, exports', hleads, hfresh, hlast⟩ := h
  exact ⟨_, last, exports', .step hextends hbase hleads, fresh_cons_iff.mpr ⟨hchain, hfresh⟩, hlast⟩

theorem Store.visits_iff (hextends : extension? nodes = some (next, exports)) :
    store.Visits chain nodes key
      ↔ key = next ∨ next ∉ chain ∧ ∃ base, store[next]? = some base
        ∧ store.Visits (next :: chain) base key := by
  constructor
  · rintro ⟨links, last, exports', hleads, hfresh, hlast⟩
    cases hleads with
    | here _ =>
        rw [hextends] at hlast
        cases hlast
        exact .inl rfl
    | step hextends' hbase hleads =>
        rw [hextends] at hextends'
        cases hextends'
        obtain ⟨hchain, hfresh⟩ := fresh_cons_iff.mp hfresh
        exact .inr ⟨hchain, _, hbase, _, last, exports', hleads, hfresh, hlast⟩
  · rintro (rfl | ⟨hchain, base, hbase, h⟩)
    · exact .first hextends
    · exact .below hextends hchain hbase h

theorem Store.not_visits_of_root (hroot : extension? nodes = none) :
    ¬ store.Visits chain nodes key := by
  rintro ⟨links, last, exports', hleads, -, hlast⟩
  cases hleads with
  | here _ =>
      rw [hroot] at hlast
      cases hlast
  | step hextends _ _ =>
      rw [hroot] at hextends
      cases hextends

/-- Only templates that are visited are fetched. -/
theorem visits_of_mem_fetched (h : key ∈ (fetched (inherit store chain nodes).records).map (·.1)) :
    store.Visits chain nodes key := by
  induction chain, nodes using inherit.induct store with
  | case1 chain nodes hroot =>
      rw [inherit_of_root hroot] at h
      cases h
  | case2 chain nodes next exports hextends ih =>
      by_cases hchain : next ∈ chain
      · rw [inherit_of_mem hextends hchain, fetched_passedOver] at h
        cases h
      · cases hbase : store[next]? with
        | none =>
            rw [inherit_of_missing hextends hchain hbase, fetched_passedOver] at h
            cases h
        | some base =>
            rw [inherit_of_base hextends hchain hbase, fetched_append, fetched_passedOver,
              List.nil_append] at h
            rcases List.mem_cons.mp h with rfl | h
            · exact .first hextends
            · exact .below hextends hchain hbase (ih hchain base hbase h)

end Visits

section Agreement

variable {store store' : Store} {chain : List String} {nodes : Template}

/-- Stores that agree where the chain goes lead to the same template, by the same records. -/
theorem inherit_congr (h : ∀ key, store.Visits chain nodes key → store'[key]? = store[key]?) :
    inherit store' chain nodes = inherit store chain nodes := by
  induction chain, nodes using inherit.induct store with
  | case1 chain nodes hroot => rw [inherit_of_root hroot, inherit_of_root hroot]
  | case2 chain nodes key exports hextends ih =>
      have hkey : store'[key]? = store[key]? := h key (.first hextends)
      by_cases hchain : key ∈ chain
      · rw [inherit_of_mem hextends hchain, inherit_of_mem hextends hchain]
      · cases hbase : store[key]? with
        | none =>
            rw [inherit_of_missing hextends hchain (hkey.trans hbase),
              inherit_of_missing hextends hchain hbase]
        | some base =>
            rw [inherit_of_base hextends hchain (hkey.trans hbase),
              inherit_of_base hextends hchain hbase,
              ih hchain base hbase fun other hother => h other (.below hextends hchain hbase hother)]

theorem renderFrom_congr (tags : Registry) (context : Context)
    (h : ∀ key, store.Visits chain nodes key → store'[key]? = store[key]?) :
    tags.renderFrom store' chain context nodes = tags.renderFrom store chain context nodes := by
  rw [Registry.renderFrom, Registry.renderFrom, compose_eq, compose_eq, inherit_congr h]

end Agreement

/-- Only the templates of the chain matter. Two stores that agree on the keys of the chain,
up to the one where it stops, give the same records and the same outcome. A key that no
template of the chain names in its first top-level `extend` node is not looked up, whatever
else names it: what is stored there is not fetched, and it may as well be replaced or taken
away. A template that is built on none does without the store. -/
theorem render_of_visited (tags : Registry) (context : Context) (store : Store)
    (nodes : Template) :
    (∀ store' : Store, (∀ key, store.Visits [] nodes key → store'[key]? = store[key]?) →
        tags.render store' context nodes = tags.render store context nodes)
      ∧ (∀ key,
        (∀ links last before exports after, store.Leads nodes links last →
            last = before ++ .extend key exports :: after → ∃ node ∈ before, node.kind = .extend) →
          key ∉ (fetched (compose store [] nodes).records).map (·.1)
          ∧ (∀ stored, tags.render (store.insert key stored) context nodes
              = tags.render store context nodes)
          ∧ tags.render (store.erase key) context nodes = tags.render store context nodes)
      ∧ ((∀ node ∈ nodes, node.kind ≠ .extend) →
        tags.render store context nodes = tags.render ∅ context nodes) := by
  refine ⟨fun store' h => renderFrom_congr tags context h, fun key hkey => ?_, fun hroot => ?_⟩
  · have hunvisited : ¬ store.Visits [] nodes key := by
      rintro ⟨links, last, exports, hleads, -, hlast⟩
      obtain ⟨before, after, hnodes, hbefore⟩ := extension?_eq_some_iff.mp hlast
      obtain ⟨node, hnode, hkind⟩ := hkey links last before exports after hleads hnodes
      exact hbefore node hnode hkind
    have hne : ∀ other, store.Visits [] nodes other → key ≠ other :=
      fun other hother heq => hunvisited (heq ▸ hother)
    refine ⟨fun hfetched => ?_, fun stored => ?_, ?_⟩
    · rw [compose_eq] at hfetched
      exact hunvisited (visits_of_mem_fetched hfetched)
    · refine renderFrom_congr tags context fun other hother => ?_
      rw [Std.ExtTreeMap.getElem?_insert, if_neg (by simpa using hne other hother)]
    · refine renderFrom_congr tags context fun other hother => ?_
      rw [Std.ExtTreeMap.getElem?_erase, if_neg (by simpa using hne other hother)]
  · refine (renderFrom_congr tags context fun key hkey => ?_).symm
    exact absurd hkey (Store.not_visits_of_root (extension?_eq_none_iff.mpr hroot))

/-- A base with an `extend` node in its block. -/
def namingBase : Template :=
  [.raw "<", .block "body" [.extend "inner" []], .raw ">"]

/-- A template that names further ones: in what it supplies, and in a later `extend` node. -/
def namingPage : Template :=
  [.extend "base" [("body", [.raw "text"]), ("spare", [.extend "spare" []])], .extend "later" []]

def namingStore : Store :=
  .ofList [("base", namingBase), ("inner", [.raw "inner"]), ("later", [.raw "later"])]

/-- A store with the same base, in which the other keys are missing or run in a circle. -/
def circlingStore : Store :=
  .ofList [("base", namingBase), ("later", [.extend "later" []]), ("spare", [.raw "spare"])]

/-- Of the four keys only that of the base is looked up. -/
theorem render_of_visited_naming :
    (∀ key, namingStore.Visits [] namingPage key → circlingStore[key]? = namingStore[key]?)
      ∧ Registry.builtin.render circlingStore ∅ namingPage
        = Registry.builtin.render namingStore ∅ namingPage
      ∧ (Registry.builtin.render namingStore ∅ namingPage).result = .ok "<text>"
      ∧ Registry.builtin.render (namingStore.erase "later") ∅ namingPage
        = Registry.builtin.render namingStore ∅ namingPage := by
  have hbase : namingStore["base"]? = some namingBase := by decide +kernel
  have hagree : ∀ key, namingStore.Visits [] namingPage key →
      circlingStore[key]? = namingStore[key]? := by
    intro key hkey
    rcases (Store.visits_iff rfl).mp hkey with rfl | ⟨-, base, hbase', hbelow⟩
    · decide +kernel
    · rw [hbase] at hbase'
      cases hbase'
      exact absurd hbelow (Store.not_visits_of_root rfl)
  have hlater : ∀ links last before exports after, namingStore.Leads namingPage links last →
      last = before ++ .extend "later" exports :: after → ∃ node ∈ before, node.kind = .extend := by
    intro links last before exports after hleads hlast
    cases hleads with
    | here _ =>
        cases before with
        | nil => simp [namingPage] at hlast
        | cons first before =>
            rw [namingPage, List.cons_append, List.cons.injEq] at hlast
            exact ⟨first, List.mem_cons_self, by rw [← hlast.1]; rfl⟩
    | step hextends hbase' hleads =>
        cases hextends
        rw [hbase] at hbase'
        cases hbase'
        cases hleads with
        | here _ =>
            have hmem : Node.extend "later" exports ∈ namingBase := by simp [hlast]
            simp [namingBase] at hmem
        | step hextends _ _ => cases hextends
  obtain ⟨hstores, hkeys, -⟩ := render_of_visited Registry.builtin ∅ namingStore namingPage
  exact ⟨hagree, hstores circlingStore hagree, by decide +kernel, (hkeys "later" hlater).2.2⟩

end TemplateTree
