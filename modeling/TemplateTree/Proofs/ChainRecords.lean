import TemplateTree.Proofs.Visited

/-!
# What a call records

The log of a call has three parts: that the call was entered, what composition records,
and what evaluation records. The middle part is told by the chain alone. Each template of
the chain that is built on another (an `Heir`) records what it passes over, and then, if
its base is there and was not visited before, that the base is fetched. Nothing else is
recorded until evaluation begins, whatever blocks and slots there are: the walk down the
chain is over before any content is put in place, and putting it in place is silent.

So the records of composition are those of the heirs the walk leaves behind (`descent`),
one after the other, each with the number of templates that are being resolved at that
moment, and then those of the heir at which the walk fails, if it does (`Store.Ends`).

A call by a key that is not in the store fails before it is entered and records nothing.
-/

namespace TemplateTree

/-- A template that is built on another, cut at its first top-level `extend` node. -/
structure Heir where
  before : List Node
  key : String
  exports : List (String × List Node)
  after : List Node
  isFirst : ∀ node ∈ before, node.kind ≠ .extend

namespace Heir

def nodes (heir : Heir) : Template :=
  heir.before ++ .extend heir.key heir.exports :: heir.after

/-- What follows the key of the heir in a walk. -/
def link (heir : Heir) : String × Contents :=
  (heir.key, supplied heir.nodes heir.exports)

/-- What is recorded before the base is looked for: the later `extend` nodes at the top
level, and after them the nodes there that are neither `extend` nor block. -/
def asides (heir : Heir) : List Record :=
  (extendKeys heir.after).map (.ignoredExtend heir.key)
    ++ ((heir.before ++ heir.after).filter fun node =>
        node.kind ≠ .extend ∧ node.kind ≠ .block).map (.discarded ·.kind)

theorem exists_nodes_eq {nodes : Template} {key : String} {exports : List (String × List Node)}
    (h : extension? nodes = some (key, exports)) :
    ∃ heir : Heir, heir.nodes = nodes ∧ heir.key = key ∧ heir.exports = exports := by
  obtain ⟨before, after, rfl, hbefore⟩ := extension?_eq_some_iff.mp h
  exact ⟨⟨before, key, exports, after, hbefore⟩, rfl, rfl, rfl⟩

end Heir

theorem extendKeys_append {before : List Node} (h : ∀ node ∈ before, node.kind ≠ .extend)
    (nodes : Template) : extendKeys (before ++ nodes) = extendKeys nodes := by
  induction before with
  | nil => rfl
  | cons node before ih =>
      rw [List.forall_mem_cons] at h
      cases node with
      | extend _ _ => exact absurd rfl h.1
      | _ => exact ih h.2

theorem passedOver_eq (base : String) (nodes : Template) :
    passedOver base nodes
      = (extendKeys nodes).tail.map (.ignoredExtend base)
        ++ (nodes.filter fun node => node.kind ≠ .extend ∧ node.kind ≠ .block).map
            (.discarded ·.kind) := by
  rw [passedOver]
  congr 1
  induction nodes with
  | nil => rfl
  | cons node nodes ih =>
      cases node with
      | _ => simpa [Node.kind] using ih

/-- What an heir passes over has no part of its first `extend` node. -/
theorem passedOver_nodes (heir : Heir) : passedOver heir.key heir.nodes = heir.asides := by
  rw [passedOver_eq, Heir.nodes, extendKeys_append heir.isFirst]
  simp [Heir.asides, extendKeys, Node.kind]

/-! ## The chain, heir by heir -/

/-- The chain leads from one template to another by these heirs, each built on the next. -/
inductive Store.Descends (store : Store) : Template → List Heir → Template → Prop where
  | here (nodes : Template) : Descends store nodes [] nodes
  | step {heir : Heir} {base last : Template} {heirs : List Heir}
      (hbase : store[heir.key]? = some base) (h : Descends store base heirs last) :
      Descends store heir.nodes (heir :: heirs) last

/-- How the chain ends at a template when these keys were visited: what that template still
records, and the failure it ends in, if it does. -/
inductive Store.Ends (store : Store) (visited : List String) :
    Template → List Record → Option RenderError → Prop where
  | root {last : Template} (hroot : ∀ node ∈ last, node.kind ≠ .extend) :
      Ends store visited last [] none
  | cycle (heir : Heir) (hvisited : heir.key ∈ visited) :
      Ends store visited heir.nodes heir.asides (some (.compositionCycle heir.key))
  | missing (heir : Heir) (hnew : heir.key ∉ visited) (hmissing : store[heir.key]? = none) :
      Ends store visited heir.nodes heir.asides (some (.templateNotFound heir.key))

/-- What is recorded by heirs whose bases are fetched, when so many templates are being
resolved at the first of them. -/
def descent (heirs : List Heir) (depth : Nat) : List Record :=
  (heirs.zipIdx depth).flatMap fun (heir, depth) => heir.asides ++ [.resolving heir.key depth]

theorem descent_cons (heir : Heir) (heirs : List Heir) (depth : Nat) :
    descent (heir :: heirs) depth
      = heir.asides ++ .resolving heir.key depth :: descent heirs (depth + 1) := by
  simp [descent, List.zipIdx_cons]

/-- The records and the failures of a chain, whatever its templates hold. -/
theorem exists_descent (store : Store) (chain : List String) (nodes : Template) :
    ∃ heirs last asides failure?, store.Descends nodes heirs last
      ∧ Fresh chain (heirs.map Heir.link)
      ∧ store.Ends ((heirs.map Heir.key).reverse ++ chain) last asides failure?
      ∧ (inherit store chain nodes).records = descent heirs chain.length ++ asides
      ∧ ∀ e, failure? = some e → (inherit store chain nodes).result = .error e := by
  induction chain, nodes using inherit.induct store with
  | case1 chain nodes hroot =>
      refine ⟨[], nodes, [], none, .here nodes, fresh_nil chain,
        .root (extension?_eq_none_iff.mp hroot), ?_, ?_⟩
      · rw [inherit_of_root hroot]
        rfl
      · intro e he
        cases he
  | case2 chain nodes key exports hextends ih =>
      obtain ⟨heir, rfl, rfl, rfl⟩ := Heir.exists_nodes_eq hextends
      by_cases hchain : heir.key ∈ chain
      · refine ⟨[], heir.nodes, heir.asides, _, .here heir.nodes, fresh_nil chain,
          .cycle heir hchain, ?_, ?_⟩
        · rw [inherit_of_mem hextends hchain, passedOver_nodes]
          rfl
        · intro e he
          rw [inherit_of_mem hextends hchain, Option.some.inj he]
      · cases hbase : store[heir.key]? with
        | none =>
            refine ⟨[], heir.nodes, heir.asides, _, .here heir.nodes, fresh_nil chain,
              .missing heir hchain hbase, ?_, ?_⟩
            · rw [inherit_of_missing hextends hchain hbase, passedOver_nodes]
              rfl
            · intro e he
              rw [inherit_of_missing hextends hchain hbase, Option.some.inj he]
        | some base =>
            obtain ⟨heirs, last, asides, failure?, hdescends, hfresh, hends, hrecords, hfailure⟩ :=
              ih hchain base hbase
            refine ⟨heir :: heirs, last, asides, failure?, .step hbase hdescends,
              fresh_cons_iff.mpr ⟨hchain, hfresh⟩, ?_, ?_, ?_⟩
            · simpa using hends
            · rw [inherit_of_base hextends hchain hbase, hrecords, passedOver_nodes, descent_cons]
              simp
            · intro e he
              rw [inherit_of_base hextends hchain hbase, hfailure e he]
              rfl

/-! ## The log of a call -/

/-- What evaluation records after composition: nothing, if composition failed. -/
def Registry.evaluated (tags : Registry) (context : Context) :
    Except RenderError Template → List Record
  | .ok nodes => (TemplateTree.render tags (.ofContext context) nodes).traced.records
  | .error _ => []

/-- The log of a call that was entered: first that it was, then what its chain records, heir
by heir and as far as the chain comes, and then what evaluation records. If the chain fails,
that is the failure of the call, and its records end with it. -/
def Registry.Logs (tags : Registry) (store : Store) (context : Context) (chain : List String)
    (nodes : Template) (call : Traced String) : Prop :=
  ∃ heirs last asides failure?, store.Descends nodes heirs last
    ∧ Fresh chain (heirs.map Heir.link)
    ∧ store.Ends ((heirs.map Heir.key).reverse ++ chain) last asides failure?
    ∧ call.records = .entered nodes.length :: (descent heirs chain.length ++ asides)
        ++ tags.evaluated context (compose store chain nodes).result
    ∧ ∀ e, failure? = some e → call.result = .error e
        ∧ call.records = .entered nodes.length :: (descent heirs chain.length ++ asides)

theorem records_renderFrom (tags : Registry) (store : Store) (chain : List String)
    (context : Context) (nodes : Template) :
    (tags.renderFrom store chain context nodes).records
      = .entered nodes.length :: (inherit store chain nodes).records
        ++ tags.evaluated context (compose store chain nodes).result := by
  rw [Registry.renderFrom, Traced.record, compose_eq]
  cases (inherit store chain nodes).result >>= flatten with
  | error e => simp [Registry.evaluated]
  | ok composed => simp [Registry.evaluated]

theorem logs_renderFrom (tags : Registry) (store : Store) (context : Context)
    (chain : List String) (nodes : Template) :
    tags.Logs store context chain nodes (tags.renderFrom store chain context nodes) := by
  obtain ⟨heirs, last, asides, failure?, hdescends, hfresh, hends, hrecords, hfailure⟩ :=
    exists_descent store chain nodes
  have hlog := records_renderFrom tags store chain context nodes
  rw [hrecords] at hlog
  refine ⟨heirs, last, asides, failure?, hdescends, hfresh, hends, hlog, fun e he => ?_⟩
  have hcompose : (compose store chain nodes).result = .error e := by
    rw [compose_eq, hfailure e he]
    rfl
  rw [result_renderFrom, hlog, hcompose]
  exact ⟨rfl, List.append_nil _⟩

/-- What a call records, in order. A call with a template, and a call by a key that is in the
store, records that it is entered with so many top-level nodes; then, for each template of the
chain that is built on another, the later `extend` nodes that are ignored, the content that is
discarded, and the base if it is fetched, with the number of templates that are being resolved,
the one that was called by its key included; and then, if composition succeeds, what evaluation
records. A call by a key that is not in the store records nothing. -/
theorem render_records (tags : Registry) (store : Store) (context : Context) :
    (∀ nodes, tags.Logs store context [] nodes (tags.render store context nodes))
      ∧ ∀ key,
        (∀ nodes, store[key]? = some nodes →
          tags.Logs store context [key] nodes (tags.renderNamed store context key))
        ∧ (store[key]? = none →
          tags.renderNamed store context key = ⟨[], .error (.templateNotFound key)⟩) := by
  refine ⟨fun nodes => logs_renderFrom tags store context [] nodes, fun key => ⟨?_, ?_⟩⟩
  · intro nodes hstored
    rw [Registry.renderNamed, hstored]
    exact logs_renderFrom tags store context [key] nodes
  · intro hmissing
    rw [Registry.renderNamed, hmissing]
    rfl

/-- A chain of two heirs, the second of which has a further `extend` node. -/
def recordedStore : Store :=
  .ofList [("article", [Node.raw "draft", .extend "page" []]),
    ("page", [.extend "base" [("body", [.loop "i" (.constant (.list [.text "x"])) [.var "i"]])],
      .block "spare" [], .extend "other" []]),
    ("base", [.raw "<", .slot "body", .raw ">"])]

/-- All records of a call by a key, as they are shown; those of a call with a template whose
chain comes to a key that is missing; and a call by such a key. -/
theorem render_records_article :
    recordedStore["article"]? = some [.raw "draft", .extend "page" []]
      ∧ Registry.builtin.Logs recordedStore ∅ ["article"] [.raw "draft", .extend "page" []]
        (Registry.builtin.renderNamed recordedStore ∅ "article")
      ∧ (Registry.builtin.renderNamed recordedStore ∅ "article").records.map
          (fun record => (record.level.name, record.message, record.fields))
        = [("DEBUG", "span render_composed", [("nodes", "2")]),
          ("DEBUG", "discarding content beside extend node", [("kind", "raw")]),
          ("DEBUG", "resolving base template", [("base", "page"), ("depth", "1")]),
          ("WARN", "ignoring additional extend node", [("base", "base"), ("ignored", "other")]),
          ("DEBUG", "resolving base template", [("base", "base"), ("depth", "2")]),
          ("TRACE", "rendering loop", [("variable", "i"), ("items", "1")])]
      ∧ (Registry.builtin.render (recordedStore.erase "base") ∅ [.extend "page" []]).records
        = [.entered 1, .resolving "page" 0, .ignoredExtend "base" "other"]
      ∧ recordedStore["base/body"]? = none
      ∧ Registry.builtin.renderNamed recordedStore ∅ "base/body"
        = ⟨[], .error (.templateNotFound "base/body")⟩ := by
  have hstored : recordedStore["article"]? = some [.raw "draft", .extend "page" []] := by
    decide +kernel
  have hmissing : recordedStore["base/body"]? = none := by decide +kernel
  obtain ⟨-, hnamed⟩ := render_records .builtin recordedStore ∅
  exact ⟨hstored, (hnamed "article").1 _ hstored, by decide +kernel, by decide +kernel, hmissing,
    (hnamed "base/body").2 hmissing⟩

/-- Not every call is entered: none is by a key that is not in the store. -/
theorem renderNamed_missing_records :
    ¬ ∃ nodes rest,
      (Registry.builtin.renderNamed ∅ ∅ "missing").records = .entered nodes :: rest := by
  rintro ⟨nodes, rest, h⟩
  have hnone : (Registry.builtin.renderNamed ∅ ∅ "missing").records = [] := by decide +kernel
  rw [hnone] at h
  cases h

end TemplateTree
