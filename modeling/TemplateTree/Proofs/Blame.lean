import TemplateTree.Proofs.Unresolved

/-!
# What is to blame for a failure

When the evaluation of a composed tree fails, the failure names something: a variable, a
tag, a kind of node. `Blame` says what the tree then holds, and where. The failure is never
an accident of how far evaluation came: each one is found in the tree and the context alone,
and there are no others than those that `Blame` lists.

The proof has nothing to do with runs. `render_closed_of_meets` leaves the failures of
single nodes in the scopes in which they can be met, and such a scope is known well enough:
its frames are those of the loops around the node (`Meets.stands`).

Read the other way round, a tree with nothing to blame is rendered to its end. `Node.Safe`
is such a condition, on each node by itself with the names of the loops around it.
-/

namespace TemplateTree

open Render

/-- What accounts for a failure in the evaluation of a tree with the tags that are built in. -/
inductive Blame (context : Context) (nodes : List Node) : RenderError → Prop where
  /-- A variable that is output or looped over, outside all loops that bind it. -/
  | undefinedVariable {name : String} {bound : List String}
      (hplace : Stands (.var name) bound nodes
        ∨ ∃ item body, Stands (.loop item (.var name) body) bound nodes)
      (hbound : name ∉ bound) (hcontext : context.get? name = none) :
      Blame context nodes (.undefinedVariable name)
  | unknownTag {name : String} {params : List Node} (hplace : Within (.tag name params) nodes)
      (hregistry : Registry.builtin.get? name = none) : Blame context nodes (.unknownTag name)
  | tagArity {params : List Node} (hplace : Within (.tag "get" params) nodes)
      (hlength : params.length ≠ 1) :
      Blame context nodes (.invalidTagArity "get" params.length)
  | condition {chain : Chain} {condition : Node} {body : List Node}
      (hplace : Within (.conditional chain) nodes) (harm : (condition, body) ∈ chain.arms)
      (hvar : condition.kind ≠ .var) (hconstant : condition.kind ≠ .constant) :
      Blame context nodes (.undecidableCondition condition.kind)
  /-- The source of a loop has no value. -/
  | sourceKind {item : String} {source : Node} {body : List Node}
      (hplace : Within (.loop item source body) nodes)
      (hvar : source.kind ≠ .var) (hconstant : source.kind ≠ .constant) :
      Blame context nodes (.notAList source.kind none)
  /-- In a scope in which the loop can be met its source is a value, but no list. -/
  | sourceValue {item : String} {source : Node} {body : List Node} {scope : Scope} {value : Value}
      (hplace : Meets (.loop item source body) scope (.ofContext context) nodes)
      (hvalue : source = .constant value ∨ ∃ name, source = .var name ∧ scope.get? name = some value)
      (hlist : ∀ items, value ≠ .list items) :
      Blame context nodes (.notAList source.kind (some value.display))
  | extend {key : String} {exports : List (String × List Node)}
      (hplace : Within (.extend key exports) nodes) :
      Blame context nodes (.unresolvedNode .extend)

/-! ## From failures to places -/

theorem Scope.lookup_frames_eq_none_iff {scope : Scope} {name : String} :
    scope.frames.lookup name = none ↔ name ∉ scope.frames.map (·.1) := by
  rw [List.lookup_eq_none_iff, List.mem_map]
  constructor
  · rintro h ⟨frame, hframe, rfl⟩
    simpa using h frame hframe
  · intro h frame hframe
    exact bne_iff_ne.mpr fun heq => h ⟨frame, hframe, heq.symm⟩

theorem Scope.get?_of_not_mem_frames {scope : Scope} {name : String}
    (h : name ∉ scope.frames.map (·.1)) : scope.get? name = scope.context.get? name := by
  rw [Scope.get?, Scope.lookup_frames_eq_none_iff.mpr h]
  rfl

theorem Scope.not_mem_frames_of_get?_eq_none {scope : Scope} {name : String}
    (h : scope.get? name = none) : name ∉ scope.frames.map (·.1) := by
  rw [Scope.get?, Option.orElse_eq_orElse, Option.orElse_eq_or, Option.or_eq_none_iff] at h
  exact Scope.lookup_frames_eq_none_iff.mp h.1

section Blame

variable {context : Context} {nodes : List Node}

theorem blame_of_unbound {name : String} {node : Node} {scope : Scope}
    (hplace : Meets node scope (.ofContext context) nodes)
    (hnode : node = .var name ∨ ∃ item body, node = .loop item (.var name) body)
    (hunbound : scope.get? name = none) : Blame context nodes (.undefinedVariable name) := by
  obtain ⟨hstands, hcontext⟩ := hplace.stands_ofContext
  have hbound := Scope.not_mem_frames_of_get?_eq_none hunbound
  rw [Scope.get?_of_not_mem_frames hbound, hcontext] at hunbound
  refine .undefinedVariable ?_ hbound hunbound
  rcases hnode with rfl | ⟨item, body, rfl⟩
  · exact .inl hstands
  · exact .inr ⟨item, body, hstands⟩

theorem blame_of_items {item : String} {source : Node} {body : List Node} {scope : Scope}
    {e : RenderError} (hplace : Meets (.loop item source body) scope (.ofContext context) nodes)
    (h : scope.NoItems source e) : Blame context nodes e := by
  cases h with
  | unbound hsource hunbound =>
      exact blame_of_unbound hplace (.inr ⟨item, body, by rw [hsource]⟩) hunbound
  | noList hvalue hlist => exact .sourceValue hplace hvalue hlist
  | noValue hvar hconstant => exact .sourceKind hplace.within hvar hconstant

/-- What a node fails with is to be blamed on the tree that holds it. -/
theorem blame_of_raises (hfixed : ∀ n, Within n nodes → n.Fixed) {node : Node} {scope : Scope}
    {e : RenderError} (hplace : Meets node scope (.ofContext context) nodes)
    (h : node.Raises scope e) : Blame context nodes e := by
  cases h with
  | var hunbound => exact blame_of_unbound hplace (.inl rfl) hunbound
  | conditional harm hdecide =>
      obtain ⟨hvar, hconstant, rfl⟩ := Scope.decide_eq_error hdecide
      exact .condition hplace.within harm hvar hconstant
  | loop hitems => exact blame_of_items hplace (Scope.noItems_of_items hitems)
  | inherited hkind =>
      have hnode := hfixed node hplace.within
      cases node with
      | extend _ _ => exact .extend hplace.within
      | block _ _ => exact absurd rfl hnode.1
      | slot _ => exact absurd rfl hnode.2
      | _ => simp [Kind.ofInheritance, Node.kind] at hkind

/-- Evaluation fails with nothing that the tree is not to be blamed for. -/
theorem confined_render (hfixed : ∀ n, Within n nodes → n.Fixed) :
    Confined (Blame context nodes) (render .builtin (.ofContext context) nodes) := by
  have hclosed := closed_confined (Blame context nodes)
  refine render_closed_of_meets hclosed ?_ ?_
  · exact fun n inner hn e hraises => confined_throw (blame_of_raises hfixed hn hraises)
  · intro name params scope hplace hparams
    by_cases hname : name = "get"
    · subst hname
      rw [render_tag_get]
      refine hclosed.bind (hclosed.record _) fun _ => ?_
      split
      · next hlength =>
          obtain ⟨param, rfl⟩ := List.length_eq_one_iff.mp hlength
          rw [render_singleton]
          exact hparams _ List.mem_cons_self
      · next hlength => exact confined_throw (.tagArity hplace.within hlength)
    · rw [render_tag_of_ne hname]
      refine confined_throw (.unknownTag hplace.within ?_)
      rw [get?_builtin, if_neg fun h => hname h.symm]

end Blame

/-! ## Trees that are rendered to their end -/

/-- The node gives no cause for a failure inside loops that bind the names `bound`. -/
def Node.Safe (context : Context) (bound : List String) : Node → Prop
  | .var name => name ∈ bound ∨ (context.get? name).isSome
  | .tag name params => name = "get" ∧ params.length = 1
  | .conditional chain => ∀ arm ∈ chain.arms, arm.1.kind = .var ∨ arm.1.kind = .constant
  | .loop _ source _ =>
      (∃ items, source = .constant (.list items))
        ∨ ∃ name items, source = .var name ∧ name ∉ bound ∧ context.get? name = some (.list items)
  | .extend _ _ => False
  | .raw _ | .constant _ | .block _ _ | .slot _ => True

theorem not_blame_of_safe {context : Context} {nodes : List Node}
    (hsafe : ∀ node bound, Stands node bound nodes → node.Safe context bound) (e : RenderError) :
    ¬ Blame context nodes e := by
  have hwithin : ∀ node, Within node nodes → ∃ bound, node.Safe context bound := by
    intro node h
    obtain ⟨bound, hstands⟩ := h.exists_stands
    exact ⟨bound, hsafe node bound hstands⟩
  intro hblame
  cases hblame with
  | @undefinedVariable name bound hplace hbound hcontext =>
      rcases hplace with hplace | ⟨item, body, hplace⟩
      · rcases hsafe _ bound hplace with hbound' | hsome
        · exact hbound hbound'
        · rw [hcontext] at hsome
          cases hsome
      · rcases hsafe _ bound hplace with ⟨items, hconstant⟩ | ⟨other, items, hvar, -, hsome⟩
        · cases hconstant
        · cases hvar
          rw [hcontext] at hsome
          cases hsome
  | unknownTag hplace hregistry =>
      obtain ⟨_, rfl, -⟩ := hwithin _ hplace
      rw [get?_builtin, if_pos rfl] at hregistry
      cases hregistry
  | tagArity hplace hlength =>
      obtain ⟨_, -, hone⟩ := hwithin _ hplace
      exact hlength hone
  | condition hplace harm hvar hconstant =>
      obtain ⟨_, harms⟩ := hwithin _ hplace
      exact (harms _ harm).elim hvar hconstant
  | sourceKind hplace hvar hconstant =>
      obtain ⟨_, ⟨items, rfl⟩ | ⟨name, items, rfl, -⟩⟩ := hwithin _ hplace
      · exact hconstant rfl
      · exact hvar rfl
  | sourceValue hplace hvalue hlist =>
      obtain ⟨hstands, hcontext⟩ := hplace.stands_ofContext
      rcases hsafe _ _ hstands with ⟨items, rfl⟩ | ⟨name, items, rfl, hbound, hitems⟩
      · rcases hvalue with hvalue | ⟨_, hvalue, -⟩
        · cases hvalue
          exact hlist items rfl
        · cases hvalue
      · rcases hvalue with hvalue | ⟨other, hvalue, hget⟩
        · cases hvalue
        · cases hvalue
          rw [Scope.get?_of_not_mem_frames hbound, hcontext, hitems] at hget
          cases hget
          exact hlist items rfl
  | extend hplace =>
      obtain ⟨_, hfalse⟩ := hwithin _ hplace
      exact hfalse

/-- Blame is sound: whenever evaluation fails, the tree is to be blamed for just this
failure. So a tree evaluates to its end, on any output, if each variable that it outputs is
bound by the context or by a loop around it, conditions are variables or constants, tags are
`get` with one parameter, sources of loops are lists or variables that are lists in the
context and are not bound by a loop around, and no `extend` node is left. -/
theorem render_blame (store : Store) (chain : List String) (template : Template)
    (context : Context) (nodes : List Node)
    (hcomposed : (compose store chain template).result = .ok nodes) :
    (∀ out e, ((render .builtin (.ofContext context) nodes).on out).1 = .error e →
        Blame context nodes e)
      ∧ ((∀ node bound, Stands node bound nodes → node.Safe context bound) →
        ∀ out, ∃ out', (render .builtin (.ofContext context) nodes).on out = (.ok (), out')) := by
  have hblame : Confined (Blame context nodes) (render .builtin (.ofContext context) nodes) :=
    confined_render (fixed_of_compose hcomposed)
  refine ⟨hblame, fun hsafe out => ?_⟩
  rcases hon : (render .builtin (.ofContext context) nodes).on out with ⟨e | _, out'⟩
  · exact absurd (hblame out e (by rw [hon])) (not_blame_of_safe hsafe e)
  · exact ⟨out', rfl⟩

/-- A list of rows, each followed by the name of the table, put into a base. -/
def tableStore : Store :=
  .ofList [("page", [Node.raw "<", .slot "rows", .raw ">"])]

def tablePage : Template :=
  [.extend "page" [("rows", [.loop "row" (.var "rows") [.var "row", .tag "get" [.var "table"]]])]]

def tableNodes : List Node :=
  [.raw "<", .loop "row" (.var "rows") [.var "row", .tag "get" [.var "table"]], .raw ">"]

def tableContext : Context :=
  ⟨.ofList [("rows", Value.list [.text "1", .text "2"]), ("table", .text "t")]⟩

/-- Without a name for the table, the variable inside the tag is to blame, in the loop that
does not bind it; with one there is nothing to blame. -/
theorem render_blame_table :
    (compose tableStore [] tablePage).result = .ok tableNodes
      ∧ Blame ⟨tableContext.bindings.erase "table"⟩ tableNodes (.undefinedVariable "table")
      ∧ (∀ node bound, Stands node bound tableNodes → node.Safe tableContext bound)
      ∧ ∃ out', (render .builtin (.ofContext tableContext) tableNodes).on .empty = (.ok (), out') := by
  have hcomposed : (compose tableStore [] tablePage).result = .ok tableNodes := by
    decide +kernel
  have hsafe : ∀ node bound, Stands node bound tableNodes → node.Safe tableContext bound := by
    have hrows : tableContext.get? "rows" = some (.list [.text "1", .text "2"]) := by rfl
    have htable : tableContext.get? "table" = some (.text "t") := by rfl
    simp [tableNodes, forall_stands_cons, Stands.not_nil, Node.parts, Node.binds, Node.Safe,
      hrows, htable]
  refine ⟨hcomposed, ?_, hsafe, ?_⟩
  · exact (render_blame _ _ _ ⟨tableContext.bindings.erase "table"⟩ _ hcomposed).1 .empty _ rfl
  · exact (render_blame _ _ _ tableContext _ hcomposed).2 hsafe .empty

end TemplateTree
