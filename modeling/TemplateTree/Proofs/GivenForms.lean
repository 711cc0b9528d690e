import TemplateTree.Proofs.JsonWriting
import TemplateTree.Proofs.Presentation

/-!
# One form for all nodes

With all nodes objects, or with all nodes lists, a template is presented, if what it
supplies is sorted by key (`presents_givenAll`). Such a tree is plain, whatever the template
holds (`plainItems_givenAll`), so nothing keeps its texts from being read but their depth.

The written form is the text of one of these trees: with all nodes objects, and nothing left
out but the arms that are not there (`dataItems_givenAll`).
-/

namespace TemplateTree

/-! ## Names of fields -/

section Forms

variable {kind : Kind} {given : List Json.Tree}

theorem Kind.pieces_name_ne_kindMember {field : Field} (hfield : field ∈ kind.fields) :
    Json.pieces field.name ≠ Json.pieces kindMember := by
  have hall : ∀ field ∈ kind.fields, field.name ≠ kindMember := by
    cases kind with
    | _ => decide
  exact fun h => hall field hfield (Json.pieces_inj h)

theorem Kind.nodup_names (kind : Kind) :
    (kind.fields.map fun field => Json.pieces field.name).Nodup := by
  have hnames : (kind.fields.map Field.name).Nodup := by
    cases kind with
    | _ => decide
  have hpieces := hnames.map fun _ _ => Json.pieces_inj
  rw [List.map_map] at hpieces
  exact hpieces

theorem map_name_zip (fields : List Field) (given : List Json.Tree) :
    (fields.zip given).map (fun field => Json.pieces field.1.name)
      = (fields.take given.length).map fun field => Json.pieces field.name := by
  induction fields generalizing given with
  | nil => rw [List.zip_nil_left, List.take_nil]; rfl
  | cons field fields ih =>
      cases given with
      | nil => rfl
      | cons tree given =>
          rw [List.zip_cons_cons, List.map_cons, ih, List.length_cons, List.take_succ_cons,
            List.map_cons]

theorem Kind.mem_members {name : List Json.Piece} {tree : Json.Tree} :
    (name, tree) ∈ kind.members given
      ↔ ∃ field, (field, tree) ∈ kind.fields.zip given ∧ Json.pieces field.name = name := by
  rw [Kind.members, List.mem_map]
  constructor
  · rintro ⟨⟨field, tree⟩, hmem, heq⟩
    cases heq
    exact ⟨field, hmem, rfl⟩
  · rintro ⟨field, hmem, rfl⟩
    exact ⟨(field, tree), hmem, rfl⟩

/-! ## Trees that present -/

theorem Kind.listed_members {content : Parts} (hcovered : kind.Covered content given.length) :
    kind.Listed content (kind.members given) := by
  intro field hfield
  have hnames : (kind.members given).map (·.1)
      = (kind.fields.take given.length).map fun field => Json.pieces field.name := by
    rw [Kind.members, List.map_map]
    exact map_name_zip kind.fields given
  have hnodup := kind.nodup_names
  rw [← List.take_append_drop given.length kind.fields, List.map_append,
    List.nodup_append] at hnodup
  rw [← List.take_append_drop given.length kind.fields, List.mem_append] at hfield
  rw [hnames]
  rcases hfield with htake | hdrop
  · exact .inl (List.count_eq_one_of_mem hnodup.1 (List.mem_map.mpr ⟨field, htake, rfl⟩))
  · refine .inr ⟨fun hname => ?_, hcovered.2 field hdrop⟩
    exact hnodup.2.2 _ hname _ (List.mem_map.mpr ⟨field, hdrop, rfl⟩) rfl

/-- Fields that present are presented by the members that have them. -/
theorem Kind.presents_of_mem_members {content : Parts}
    (h : ∀ field ∈ kind.fields.zip given, ∀ c, content field.1.sort = some c →
      Presents field.1.sort c field.2)
    {field : Field} (hfield : field ∈ kind.fields) {tree : Json.Tree}
    (htree : (Json.pieces field.name, tree) ∈ kind.members given) :
    ∀ c, content field.sort = some c → Presents field.sort c tree := by
  obtain ⟨other, hother, hname⟩ := Kind.mem_members.mp htree
  obtain rfl := Kind.eq_of_name_eq (List.of_mem_zip hother).1 hfield (Json.pieces_inj hname)
  exact h (other, tree) hother

theorem Form.presents_node (form : Form) {node : Node}
    (hcovered : node.kind.Covered node.content given.length)
    (h : ∀ field ∈ node.kind.fields.zip given, ∀ c, node.content field.1.sort = some c →
      Presents field.1.sort c field.2) :
    Presents .node node (form.node node.kind given) := by
  cases form with
  | list => exact .list hcovered h
  | object =>
      have hother : ∀ field ∈ node.kind.fields,
          Json.pieces kindMember ≠ Json.pieces field.name :=
        fun field hfield => (Kind.pieces_name_ne_kindMember hfield).symm
      refine .object ?_ (fun field hfield => ?_) fun field hfield tree htree => ?_
      · rw [List.filter_cons, if_pos (beq_self_eq_true _)]
        refine congrArg _ (List.filter_eq_nil_iff.mpr fun member hmember heq => ?_)
        obtain ⟨field, hmem, hname⟩ := Kind.mem_members.mp hmember
        exact hother field (List.of_mem_zip hmem).1 ((beq_iff_eq.mp heq).symm.trans hname.symm)
      · have hlisted := Kind.listed_members hcovered field hfield
        rw [List.map_cons, List.count_cons_of_ne (hother field hfield)]
        simp only [List.mem_cons, not_or]
        exact hlisted.imp_right fun h => ⟨⟨(hother field hfield).symm, h.1⟩, h.2⟩
      · rcases List.mem_cons.mp htree with heq | htree
        · exact absurd (congrArg Prod.fst heq).symm (hother field hfield)
        · exact Kind.presents_of_mem_members h hfield htree

theorem Form.presents_arm (form : Form) {chain : Chain}
    (hcovered : Kind.conditional.Covered chain.content given.length)
    (h : ∀ field ∈ Kind.conditional.fields.zip given, ∀ c, chain.content field.1.sort = some c →
      Presents field.1.sort c field.2) :
    Presents .next (some chain) (form.arm given) := by
  cases form with
  | list => exact .armList hcovered h
  | object =>
      exact .arm (Kind.listed_members hcovered) fun field hfield tree htree =>
        Kind.presents_of_mem_members h hfield htree

theorem length_givenAll (form : Form) (nodes : List Node) :
    nodes.length = (givenAll form nodes).length := by
  induction nodes with
  | nil => rw [givenAll]; rfl
  | cons node nodes ih => rw [givenAll, List.length_cons, List.length_cons, ih]

theorem map_pieces_givenExports (form : Form) (exports : List (String × List Node)) :
    exports.map (fun block => Json.pieces block.1) = (givenExports form exports).map (·.1) := by
  induction exports with
  | nil => rw [givenExports]; rfl
  | cons block exports ih => rw [givenExports, List.map_cons, List.map_cons, ih]

theorem presents_some {sort : FieldSort} {c : sort.Content} {tree : Json.Tree}
    (h : Presents sort c tree) : ∀ c', some c = some c' → Presents sort c' tree :=
  fun _ heq => Option.some.inj heq ▸ h

end Forms

section Given

variable (form : Form)

theorem Chain.covered_given (chain : Chain) :
    Kind.conditional.Covered chain.content (chain.given form).length := by
  cases chain with
  | last condition body =>
      rw [Chain.given]
      exact ⟨Nat.le_succ _, List.forall_mem_singleton.mpr rfl⟩
  | more condition body next =>
      rw [Chain.given]
      exact ⟨Nat.le_refl _, nofun⟩

mutual

theorem Node.presents_given (node : Node) (h : node.Ordered) :
    Presents .node node (form.node node.kind (node.given form)) := by
  match node with
  | .raw text =>
      rw [Node.given]
      refine form.presents_node ⟨Nat.le_refl _, nofun⟩ ?_
      exact List.forall_mem_singleton.mpr (presents_some (.text text))
  | .var name =>
      rw [Node.given]
      refine form.presents_node ⟨Nat.le_refl _, nofun⟩ ?_
      exact List.forall_mem_singleton.mpr (presents_some (.text name))
  | .constant value =>
      rw [Node.given]
      refine form.presents_node ⟨Nat.le_refl _, nofun⟩ ?_
      exact List.forall_mem_singleton.mpr (presents_some (.value value))
  | .tag name params =>
      rw [Node.Ordered] at h
      rw [Node.given]
      refine form.presents_node ⟨Nat.le_refl _, nofun⟩ ?_
      refine List.forall_mem_cons.mpr ⟨presents_some (.text name), ?_⟩
      exact List.forall_mem_singleton.mpr (presents_some (presents_givenAll params h))
  | .conditional chain =>
      rw [Node.Ordered] at h
      rw [Node.given]
      exact form.presents_node (chain.covered_given form) (chain.presents_given_field h)
  | .loop item source body =>
      rw [Node.Ordered] at h
      rw [Node.given]
      refine form.presents_node ⟨Nat.le_refl _, nofun⟩ ?_
      refine List.forall_mem_cons.mpr ⟨presents_some (.text item), ?_⟩
      refine List.forall_mem_cons.mpr ⟨presents_some (source.presents_given h.1), ?_⟩
      exact List.forall_mem_singleton.mpr (presents_some (presents_givenAll body h.2))
  | .extend key exports =>
      rw [Node.Ordered] at h
      have hexports : Presents .exports (sortByKey exports) (.object (givenExports form exports)) :=
        .exports (map_pieces_givenExports form exports) (presents_givenExports exports h.2)
      rw [sortByKey_of_sorted h.1] at hexports
      rw [Node.given]
      refine form.presents_node ⟨Nat.le_refl _, nofun⟩ ?_
      refine List.forall_mem_cons.mpr ⟨presents_some (.text key), ?_⟩
      exact List.forall_mem_singleton.mpr (presents_some hexports)
  | .block key body =>
      rw [Node.Ordered] at h
      rw [Node.given]
      refine form.presents_node ⟨Nat.le_refl _, nofun⟩ ?_
      refine List.forall_mem_cons.mpr ⟨presents_some (.text key), ?_⟩
      exact List.forall_mem_singleton.mpr (presents_some (presents_givenAll body h))
  | .slot key =>
      rw [Node.given]
      refine form.presents_node ⟨Nat.le_refl _, nofun⟩ ?_
      exact List.forall_mem_singleton.mpr (presents_some (.text key))

theorem Chain.presents_given_field (chain : Chain) (h : chain.Ordered) :
    ∀ field ∈ Kind.conditional.fields.zip (chain.given form),
      ∀ c, chain.content field.1.sort = some c → Presents field.1.sort c field.2 := by
  match chain with
  | .last condition body =>
      rw [Chain.Ordered] at h
      rw [Chain.given]
      refine List.forall_mem_cons.mpr ⟨presents_some (condition.presents_given h.1), ?_⟩
      exact List.forall_mem_singleton.mpr (presents_some (presents_givenAll body h.2))
  | .more condition body next =>
      rw [Chain.Ordered] at h
      rw [Chain.given]
      refine List.forall_mem_cons.mpr ⟨presents_some (condition.presents_given h.1), ?_⟩
      refine List.forall_mem_cons.mpr ⟨presents_some (presents_givenAll body h.2.1), ?_⟩
      exact List.forall_mem_singleton.mpr
        (presents_some (form.presents_arm (next.covered_given form)
          (next.presents_given_field h.2.2)))

theorem presents_givenAll (nodes : List Node) (h : Ordered nodes) :
    Presents .nodes nodes (.list (givenAll form nodes)) :=
  .nodes (length_givenAll form nodes) (presents_of_mem_zip nodes h)

theorem presents_of_mem_zip (nodes : List Node) (h : Ordered nodes) :
    ∀ given ∈ nodes.zip (givenAll form nodes), Presents .node given.1 given.2 := by
  match nodes with
  | [] => exact nofun
  | node :: nodes =>
      rw [Ordered] at h
      rw [givenAll]
      exact List.forall_mem_cons.mpr ⟨node.presents_given h.1, presents_of_mem_zip nodes h.2⟩

theorem presents_givenExports (exports : List (String × List Node)) (h : OrderedExports exports) :
    ∀ given ∈ exports.zip (givenExports form exports), Presents .nodes given.1.2 given.2.2 := by
  match exports with
  | [] => exact nofun
  | (key, body) :: exports =>
      rw [OrderedExports] at h
      rw [givenExports]
      exact List.forall_mem_cons.mpr
        ⟨presents_givenAll body h.1, presents_givenExports exports h.2⟩

end

end Given

/-! ## They are plain -/

section Plain

open Json.Tree (Plain PlainItems PlainMembers)

variable {given : List Json.Tree}

theorem Kind.plainMembers_members (kind : Kind) (h : PlainItems given) :
    PlainMembers (kind.members given) := by
  rw [Json.Tree.plainItems_iff] at h
  rw [Json.Tree.plainMembers_iff]
  intro ⟨name, tree⟩ hmember
  obtain ⟨field, hfield, rfl⟩ := Kind.mem_members.mp hmember
  exact ⟨Json.complete_pieces _, h tree (List.of_mem_zip hfield).2⟩

theorem Form.plain_node (form : Form) (kind : Kind) (h : PlainItems given) :
    (form.node kind given).Plain := by
  have hname : (Json.Tree.string (Json.pieces kind.name)).Plain := by
    rw [Plain]
    exact Json.complete_pieces _
  cases form with
  | object =>
      rw [Form.node, Plain, PlainMembers]
      exact ⟨Json.complete_pieces _, hname, kind.plainMembers_members h⟩
  | list =>
      rw [Form.node, Plain, PlainItems]
      exact ⟨hname, h⟩

theorem Form.plain_arm (form : Form) (h : PlainItems given) : (form.arm given).Plain := by
  cases form with
  | object =>
      rw [Form.arm, Plain]
      exact Kind.conditional.plainMembers_members h
  | list =>
      rw [Form.arm, Plain]
      exact h

mutual

theorem Value.plain_given (v : Value) : v.given.Plain := by
  match v with
  | .bool _ => rw [Value.given, Plain]; trivial
  | .text _ => rw [Value.given, Plain]; exact Json.complete_pieces _
  | .list items => rw [Value.given, Plain]; exact Value.plainItems_givenAll items

theorem Value.plainItems_givenAll (vs : List Value) : PlainItems (Value.givenAll vs) := by
  match vs with
  | [] => rw [Value.givenAll, PlainItems]; trivial
  | v :: vs =>
      rw [Value.givenAll, PlainItems]
      exact ⟨v.plain_given, Value.plainItems_givenAll vs⟩

end

variable (form : Form)

mutual

theorem Node.plainItems_given (node : Node) : PlainItems (node.given form) := by
  match node with
  | .raw _ | .var _ | .slot _ =>
      simp [Node.given, PlainItems, Plain]
  | .constant value => simp [Node.given, PlainItems, value.plain_given]
  | .tag _ params =>
      simp [Node.given, PlainItems, Plain, plainItems_givenAll params]
  | .conditional chain => rw [Node.given]; exact chain.plainItems_given
  | .loop _ source body =>
      simp [Node.given, PlainItems, Plain,
        form.plain_node source.kind source.plainItems_given, plainItems_givenAll body]
  | .extend _ exports =>
      simp [Node.given, PlainItems, Plain, plainMembers_givenExports exports]
  | .block _ body =>
      simp [Node.given, PlainItems, Plain, plainItems_givenAll body]

theorem Chain.plainItems_given (chain : Chain) : PlainItems (chain.given form) := by
  match chain with
  | .last condition body =>
      simp [Chain.given, PlainItems, Plain,
        form.plain_node condition.kind condition.plainItems_given, plainItems_givenAll body]
  | .more condition body next =>
      simp [Chain.given, PlainItems, Plain,
        form.plain_node condition.kind condition.plainItems_given, plainItems_givenAll body,
        form.plain_arm next.plainItems_given]

theorem plainItems_givenAll (nodes : List Node) : PlainItems (givenAll form nodes) := by
  match nodes with
  | [] => simp [givenAll, PlainItems]
  | node :: nodes =>
      simp [givenAll, PlainItems, form.plain_node node.kind node.plainItems_given,
        plainItems_givenAll nodes]

theorem plainMembers_givenExports (exports : List (String × List Node)) :
    PlainMembers (givenExports form exports) := by
  match exports with
  | [] => simp [givenExports, PlainMembers]
  | (_, body) :: exports =>
      simp [givenExports, PlainMembers, Plain, plainItems_givenAll body,
        plainMembers_givenExports exports]

end

end Plain

/-! ## The written form -/

section Written

open Json.Tree (data dataItems dataMembers)

theorem Kind.dataMembers_members (kind : Kind) (given : List Json.Tree) :
    dataMembers (kind.members given)
      = (kind.fields.zip (dataItems given)).map fun field => (field.1.name, field.2) := by
  rw [Json.Tree.dataMembers_eq_map, Kind.members, List.map_map, Json.Tree.dataItems_eq_map,
    List.zip_map_right, List.map_map]
  refine List.map_congr_left fun field _ => ?_
  show (Json.textOf (Json.pieces field.1.name), _) = _
  rw [Json.textOf_pieces]
  rfl

theorem Form.data_object_node (kind : Kind) (given : List Json.Tree) :
    (Form.object.node kind given).data
      = .object ((kindMember, .string kind.name)
        :: (kind.fields.zip (dataItems given)).map fun field => (field.1.name, field.2)) := by
  rw [Form.node, data, dataMembers, data, Json.textOf_pieces, Json.textOf_pieces,
    kind.dataMembers_members]

mutual

theorem Node.data_given (node : Node) :
    (Form.object.node node.kind (node.given .object)).data = node.toJson := by
  rw [Form.data_object_node]
  match node with
  | .raw _ | .var _ | .slot _ =>
      rw [Node.given, dataItems, dataItems, data, Json.textOf_pieces, Node.toJson]
      rfl
  | .constant value =>
      rw [Node.given, dataItems, dataItems, value.data_given, Node.toJson]
      rfl
  | .tag _ params =>
      rw [Node.given, dataItems, dataItems, dataItems, data, data, Json.textOf_pieces,
        dataItems_givenAll params, Node.toJson]
      rfl
  | .conditional chain =>
      rw [Node.given, Node.toJson, ← chain.data_given]
      rfl
  | .loop _ source body =>
      rw [Node.given, dataItems, dataItems, dataItems, dataItems, data, data, Json.textOf_pieces,
        source.data_given, dataItems_givenAll body, Node.toJson]
      rfl
  | .extend _ exports =>
      rw [Node.given, dataItems, dataItems, dataItems, data, data, Json.textOf_pieces,
        dataMembers_givenExports exports, Node.toJson]
      rfl
  | .block _ body =>
      rw [Node.given, dataItems, dataItems, dataItems, data, data, Json.textOf_pieces,
        dataItems_givenAll body, Node.toJson]
      rfl

theorem Chain.data_given (chain : Chain) :
    (Kind.conditional.fields.zip (dataItems (chain.given .object))).map
      (fun field => (field.1.name, field.2)) = chain.toMembers := by
  match chain with
  | .last condition body =>
      rw [Chain.given, dataItems, dataItems, dataItems, condition.data_given, data,
        dataItems_givenAll body, Chain.toMembers]
      rfl
  | .more condition body next =>
      rw [Chain.given, dataItems, dataItems, dataItems, dataItems, condition.data_given, data,
        dataItems_givenAll body, Form.arm, data, Kind.dataMembers_members, next.data_given,
        Chain.toMembers]
      rfl

theorem dataItems_givenAll (nodes : List Node) :
    dataItems (givenAll .object nodes) = toJsonAll nodes := by
  match nodes with
  | [] => rw [givenAll, dataItems, toJsonAll]
  | node :: nodes =>
      rw [givenAll, dataItems, node.data_given, dataItems_givenAll nodes, toJsonAll]

theorem dataMembers_givenExports (exports : List (String × List Node)) :
    dataMembers (givenExports .object exports) = exportsToJson exports := by
  match exports with
  | [] => rw [givenExports, dataMembers, exportsToJson]
  | (key, body) :: exports =>
      rw [givenExports, dataMembers, Json.textOf_pieces, data, dataItems_givenAll body,
        dataMembers_givenExports exports, exportsToJson]

end

end Written

end TemplateTree
