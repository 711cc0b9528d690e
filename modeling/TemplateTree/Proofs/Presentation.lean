import TemplateTree.Json.Template
import TemplateTree.Node.Presentation
import TemplateTree.Node.Writer
import TemplateTree.Proofs.JsonReading
import Mathlib.Data.List.Nodup

/-!
# Reading templates in whatever way they are given

A readable tree that presents a template is read as the template
(`readTemplate_of_presents`), and so is every text of such a tree that is not nested too
deep. The induction is over the way in which the tree presents, and each of its cases has
to do with one node alone: the members or elements give the fields of the node, up to those
that are absent and may be (`Parts.Gives`), and from these the node is built.

Members are read one by one into parts that are still empty for the fields to come. That a
field stands there once is what keeps them empty until then; how often a member stands
there that is no field does not matter.

If the tree is not readable or nested too deep, its text cannot be read to its end. What has
been read of it is the beginning of a template, with nothing wrong in it
(`checkOpenTemplate_of_opens`), so that the complaint is about the text and not about what
it holds.
-/

namespace TemplateTree

/-! ## Fields -/

section Fields

variable {kind : Kind} {field other : Field}

theorem Kind.eq_of_name_eq (hfield : field ∈ kind.fields) (hother : other ∈ kind.fields)
    (h : field.name = other.name) : field = other := by
  have hall : ∀ field ∈ kind.fields, ∀ other ∈ kind.fields, field.name = other.name →
      field = other := by
    cases kind with
    | _ => decide
  exact hall field hfield other hother h

theorem Kind.nodup_sorts (kind : Kind) : (kind.fields.map Field.sort).Nodup := by
  cases kind with
  | _ => decide

theorem Kind.eq_of_sort_eq (hfield : field ∈ kind.fields) (hother : other ∈ kind.fields)
    (h : field.sort = other.sort) : field = other := by
  have hall : ∀ field ∈ kind.fields, ∀ other ∈ kind.fields, field.sort = other.sort →
      field = other := by
    cases kind with
    | _ => decide
  exact hall field hfield other hother h

theorem Kind.field?_of_mem (hfield : field ∈ kind.fields) :
    kind.field? (.text field.name) = .ok (some field) := by
  rw [Kind.field?]
  refine congrArg Except.ok ?_
  have hall : ∀ field ∈ kind.fields, kind.fields.find? (·.name == field.name) = some field := by
    cases kind with
    | _ => decide
  exact hall field hfield

theorem Kind.field?_of_not_mem {name : String} (h : ∀ field ∈ kind.fields, field.name ≠ name) :
    kind.field? (.text name) = .ok none := by
  rw [Kind.field?]
  refine congrArg Except.ok (List.find?_eq_none.mpr fun field hfield => ?_)
  simpa using h field hfield

theorem Parts.set_self (parts : Parts) (sort : FieldSort) (content : sort.Content) :
    parts.set sort content sort = some content :=
  dif_pos rfl

theorem Parts.set_of_ne (parts : Parts) {sort other : FieldSort} (content : sort.Content)
    (h : sort ≠ other) : parts.set sort content other = parts other :=
  dif_neg h

theorem Chain.exists_content (chain : Chain) (field : Field)
    (hfield : field ∈ Kind.conditional.fields) :
    ∃ content, chain.content field.sort = some content := by
  simp only [Kind.fields, List.mem_cons, List.not_mem_nil, or_false] at hfield
  cases chain with
  | _ =>
      rcases hfield with rfl | rfl | rfl
      · exact ⟨_, rfl⟩
      · exact ⟨_, rfl⟩
      · exact ⟨_, rfl⟩

theorem Node.exists_content (node : Node) (field : Field) (hfield : field ∈ node.kind.fields) :
    ∃ content, node.content field.sort = some content := by
  cases node with
  | conditional chain => exact chain.exists_content field hfield
  | raw _ | var _ | constant _ | slot _ =>
      simp only [Node.kind, Kind.fields, List.mem_cons, List.not_mem_nil, or_false] at hfield
      subst hfield
      exact ⟨_, rfl⟩
  | tag _ _ | extend _ _ | block _ _ =>
      simp only [Node.kind, Kind.fields, List.mem_cons, List.not_mem_nil, or_false] at hfield
      rcases hfield with rfl | rfl
      · exact ⟨_, rfl⟩
      · exact ⟨_, rfl⟩
  | loop _ _ _ =>
      simp only [Node.kind, Kind.fields, List.mem_cons, List.not_mem_nil, or_false] at hfield
      rcases hfield with rfl | rfl | rfl
      · exact ⟨_, rfl⟩
      · exact ⟨_, rfl⟩
      · exact ⟨_, rfl⟩

end Fields

/-! ## Nodes from their fields -/

/-- What has been read of a field is its content, or nothing if it may be absent and is. -/
def Parts.Gives (parts : Parts) (sort : FieldSort) (content? : Option sort.Content) : Prop :=
  parts sort = content? ∨ (parts sort = none ∧ content? = sort.absent?)

section Build

variable {parts : Parts} {sort : FieldSort} {content : sort.Content}

theorem Parts.need_of_gives (absent : FieldSort → ShapeError)
    (h : parts.Gives sort (some content)) (hneeded : sort.absent? = none) :
    parts.need absent sort = .ok content := by
  rcases h with h | ⟨-, h⟩
  · rw [Parts.need, h]
  · rw [hneeded] at h
    cases h

theorem Parts.getD_of_gives {default : sort.Content} (h : parts.Gives sort (some content))
    (habsent : sort.absent? = some default) : (parts sort).getD default = content := by
  rcases h with h | ⟨hnone, h⟩
  · rw [h, Option.getD_some]
  · rw [habsent] at h
    rw [hnone, Option.getD_none, Option.some.inj h]

theorem buildChain_of_gives (chain : Chain) (absent : FieldSort → ShapeError)
    (h : ∀ field ∈ Kind.conditional.fields, parts.Gives field.sort (chain.content field.sort)) :
    buildChain parts absent = .ok chain := by
  have hcondition := h _ (.head _)
  have hbody := h _ (.tail _ (.head _))
  have hnext := h _ (.tail _ (.tail _ (.head _)))
  cases chain with
  | last condition body =>
      have hcondition : parts.need absent .node = .ok condition :=
        Parts.need_of_gives absent hcondition rfl
      have hbody : (parts .nodes).getD [] = body := Parts.getD_of_gives hbody rfl
      have hnext : (parts .next).getD none = none := Parts.getD_of_gives hnext rfl
      rw [buildChain, hcondition, hbody, hnext]
      rfl
  | more condition body next =>
      have hcondition : parts.need absent .node = .ok condition :=
        Parts.need_of_gives absent hcondition rfl
      have hbody : (parts .nodes).getD [] = body := Parts.getD_of_gives hbody rfl
      have hnext : (parts .next).getD none = some next := Parts.getD_of_gives hnext rfl
      rw [buildChain, hcondition, hbody, hnext]
      rfl

theorem Kind.build_of_gives (node : Node) (absent : FieldSort → ShapeError)
    (h : ∀ field ∈ node.kind.fields, parts.Gives field.sort (node.content field.sort)) :
    node.kind.build parts absent = .ok node := by
  cases node with
  | raw text =>
      have htext : parts.need absent .text = .ok text :=
        Parts.need_of_gives absent (h _ (.head _)) rfl
      rw [Node.kind, Kind.build, htext]
      rfl
  | var name =>
      have hname : parts.need absent .text = .ok name :=
        Parts.need_of_gives absent (h _ (.head _)) rfl
      rw [Node.kind, Kind.build, hname]
      rfl
  | constant value =>
      have hvalue : parts.need absent .value = .ok value :=
        Parts.need_of_gives absent (h _ (.head _)) rfl
      rw [Node.kind, Kind.build, hvalue]
      rfl
  | tag name params =>
      have hname : parts.need absent .text = .ok name :=
        Parts.need_of_gives absent (h _ (.head _)) rfl
      have hparams : (parts .nodes).getD [] = params :=
        Parts.getD_of_gives (h _ (.tail _ (.head _))) rfl
      rw [Node.kind, Kind.build, hname, hparams]
      rfl
  | conditional chain =>
      rw [Node.kind, Kind.build, buildChain_of_gives chain absent h]
      rfl
  | loop item source body =>
      have hitem : parts.need absent .text = .ok item :=
        Parts.need_of_gives absent (h _ (.head _)) rfl
      have hsource : parts.need absent .node = .ok source :=
        Parts.need_of_gives absent (h _ (.tail _ (.head _))) rfl
      have hbody : (parts .nodes).getD [] = body :=
        Parts.getD_of_gives (h _ (.tail _ (.tail _ (.head _)))) rfl
      rw [Node.kind, Kind.build, hitem, hsource, hbody]
      rfl
  | extend key exports =>
      have hkey : parts.need absent .text = .ok key :=
        Parts.need_of_gives absent (h _ (.head _)) rfl
      have hexports : (parts .exports).getD [] = exports :=
        Parts.getD_of_gives (h _ (.tail _ (.head _))) rfl
      rw [Node.kind, Kind.build, hkey, hexports]
      rfl
  | block key body =>
      have hkey : parts.need absent .text = .ok key :=
        Parts.need_of_gives absent (h _ (.head _)) rfl
      have hbody : (parts .nodes).getD [] = body :=
        Parts.getD_of_gives (h _ (.tail _ (.head _))) rfl
      rw [Node.kind, Kind.build, hkey, hbody]
      rfl
  | slot key =>
      have hkey : parts.need absent .text = .ok key :=
        Parts.need_of_gives absent (h _ (.head _)) rfl
      rw [Node.kind, Kind.build, hkey]
      rfl

end Build

/-! ## Fields from members and from elements -/

section Read

variable {kind : Kind} {content : Parts}

/-- A member that is a field not read before is read as such. -/
theorem readMembers_cons_field {field : Field} (hfield : field ∈ kind.fields) {parts : Parts}
    (hnone : parts field.sort = none) {datum : Datum} {c : field.sort.Content}
    (hc : readField field.sort datum = .ok c) (members : List (Datum × Datum)) :
    readMembers kind parts ((.text field.name, datum) :: members)
      = readMembers kind (parts.set field.sort c) members := by
  rw [readMembers, Kind.field?_of_mem hfield]
  show (if (parts field.sort).isSome then _ else _) = _
  rw [hnone, if_neg (by simp), hc]
  rfl

theorem readMembers_cons_other {name : String} (h : ∀ field ∈ kind.fields, field.name ≠ name)
    (parts : Parts) (datum : Datum) (members : List (Datum × Datum)) :
    readMembers kind parts ((.text name, datum) :: members)
      = readMembers kind parts members := by
  rw [readMembers, Kind.field?_of_not_mem h]
  rfl

/-- The members of an object give each field of the kind that is among them. -/
theorem readMembers_of_fields {members : List (List Json.Piece × Json.Tree)} (parts : Parts)
    (hreadable : Json.Tree.ReadableMembers members)
    (hread : ∀ field ∈ kind.fields, ∀ tree, (Json.pieces field.name, tree) ∈ members →
      ∃ c, content field.sort = some c ∧ readField field.sort tree.data.toDatum = .ok c)
    (honce : ∀ field ∈ kind.fields, (members.map (·.1)).count (Json.pieces field.name) ≤ 1)
    (hparts : ∀ field ∈ kind.fields, Json.pieces field.name ∈ members.map (·.1) →
      parts field.sort = none) :
    ∃ parts', readMembers kind parts (Json.toMembers (Json.Tree.dataMembers members)) = .ok parts'
      ∧ ∀ field ∈ kind.fields, parts' field.sort
        = if Json.pieces field.name ∈ members.map (·.1) then content field.sort
          else parts field.sort := by
  induction members generalizing parts with
  | nil =>
      refine ⟨parts, ?_, fun field _ => by simp⟩
      rw [Json.Tree.dataMembers, Json.toMembers, readMembers]
      rfl
  | cons member members ih =>
      obtain ⟨name, tree⟩ := member
      rw [Json.Tree.ReadableMembers] at hreadable
      rw [Json.Tree.dataMembers, Json.toMembers]
      simp only [List.map_cons, List.count_cons] at honce
      simp only [List.map_cons, List.mem_cons] at hparts ⊢
      have ih := fun parts => ih parts hreadable.2.2
        (fun field hfield tree htree => hread field hfield tree (List.mem_cons_of_mem _ htree))
        fun field hfield => Nat.le_trans (Nat.le_add_right _ _) (honce field hfield)
      by_cases hknown : ∃ field ∈ kind.fields, Json.pieces field.name = name
      · obtain ⟨field, hfield, rfl⟩ := hknown
        obtain ⟨c, hcontent, hc⟩ := hread field hfield tree List.mem_cons_self
        have hnew : Json.pieces field.name ∉ members.map (·.1) := by
          have hcount := honce field hfield
          rw [beq_self_eq_true, if_pos rfl] at hcount
          exact List.count_eq_zero.mp (by omega)
        have hkeeps : ∀ other ∈ kind.fields, field ≠ other →
            parts.set field.sort c other.sort = parts other.sort :=
          fun other hother hne => Parts.set_of_ne _ _ fun hsort =>
            hne (Kind.eq_of_sort_eq hfield hother hsort)
        obtain ⟨parts', hparts', hgives⟩ := ih (parts.set field.sort c) fun other hother hname => by
          rw [hkeeps other hother fun heq => hnew (heq ▸ hname)]
          exact hparts other hother (.inr hname)
        refine ⟨parts', ?_, fun other hother => ?_⟩
        · have hnone : parts field.sort = none := hparts field hfield (.inl rfl)
          rw [Json.textOf_pieces, readMembers_cons_field hfield hnone hc]
          exact hparts'
        · rw [hgives other hother]
          by_cases hsame : field = other
          · subst hsame
            rw [if_neg hnew, if_pos (.inl rfl), Parts.set_self, hcontent]
          · have hname : Json.pieces other.name ≠ Json.pieces field.name :=
              fun h => hsame (Kind.eq_of_name_eq hfield hother (Json.pieces_inj h).symm)
            simp only [hkeeps other hother hsame, hname, false_or]
      · have hunknown : ∀ field ∈ kind.fields, Json.pieces field.name ≠ name :=
          fun field hfield heq => hknown ⟨field, hfield, heq⟩
        have hother : ∀ field ∈ kind.fields, field.name ≠ Json.textOf name :=
          fun field hfield heq => hunknown field hfield (heq ▸ hreadable.1.pieces_textOf)
        obtain ⟨parts', hparts', hgives⟩ := ih parts fun field hfield hname =>
          hparts field hfield (.inr hname)
        refine ⟨parts', ?_, fun field hfield => ?_⟩
        · rw [readMembers_cons_other hother]
          exact hparts'
        · rw [hgives field hfield]
          simp only [hunknown field hfield, false_or]

/-- The elements of a list give as many fields, from the first on. -/
theorem readItems_of_fields {fields : List Field} {items : List Json.Tree} (parts : Parts)
    (hsorts : (fields.map Field.sort).Nodup) (hlength : items.length ≤ fields.length)
    (hread : ∀ given ∈ fields.zip items, ∃ c, content given.1.sort = some c
      ∧ readField given.1.sort given.2.data.toDatum = .ok c) :
    ∃ parts', readItems fields parts (Json.toData (Json.Tree.dataItems items)) = .ok parts'
      ∧ (∀ field ∈ fields.take items.length, parts' field.sort = content field.sort)
      ∧ ∀ sort, (∀ field ∈ fields.take items.length, field.sort ≠ sort) →
        parts' sort = parts sort := by
  induction items generalizing fields parts with
  | nil =>
      refine ⟨parts, ?_, fun field hfield => ?_, fun sort _ => rfl⟩
      · rw [Json.Tree.dataItems, Json.toData, readItems]
        rfl
      · rw [List.length_nil, List.take_zero] at hfield
        cases hfield
  | cons item items ih =>
      cases fields with
      | nil => cases hlength
      | cons field fields =>
          rw [List.map_cons, List.nodup_cons] at hsorts
          obtain ⟨c, hcontent, hc⟩ := hread (field, item) List.mem_cons_self
          obtain ⟨parts', hparts', hgives, hkeeps⟩ :=
            ih (parts.set field.sort c) hsorts.2 (Nat.le_of_succ_le_succ hlength)
              fun given hgiven => hread given (List.mem_cons_of_mem _ hgiven)
          have hfresh : ∀ other ∈ fields.take items.length, other.sort ≠ field.sort := by
            intro other hother heq
            exact hsorts.1 (List.mem_map.mpr ⟨other, List.mem_of_mem_take hother, heq⟩)
          refine ⟨parts', ?_, fun other hother => ?_, fun sort hsort => ?_⟩
          · rw [Json.Tree.dataItems, Json.toData, readItems, hc]
            exact hparts'
          · rw [List.length_cons, List.take_succ_cons, List.mem_cons] at hother
            rcases hother with rfl | hother
            · rw [hkeeps _ hfresh, Parts.set_self, hcontent]
            · exact hgives other hother
          · rw [List.length_cons, List.take_succ_cons, List.forall_mem_cons] at hsort
            rw [hkeeps sort hsort.2, Parts.set_of_ne _ _ hsort.1]

variable (hfull : ∀ field ∈ kind.fields, ∃ c, content field.sort = some c)
include hfull

theorem gives_of_listed {members : List (List Json.Piece × Json.Tree)}
    (hreadable : Json.Tree.ReadableMembers members) (hlisted : kind.Listed content members)
    (h : ∀ field ∈ kind.fields, ∀ tree, (Json.pieces field.name, tree) ∈ members →
      ∀ c, content field.sort = some c → tree.Readable →
        readField field.sort tree.data.toDatum = .ok c) :
    ∃ parts, readMembers kind .empty (Json.toMembers (Json.Tree.dataMembers members)) = .ok parts
      ∧ ∀ field ∈ kind.fields, parts.Gives field.sort (content field.sort) := by
  have hread : ∀ field ∈ kind.fields, ∀ tree, (Json.pieces field.name, tree) ∈ members →
      ∃ c, content field.sort = some c ∧ readField field.sort tree.data.toDatum = .ok c := by
    intro field hfield tree htree
    obtain ⟨c, hc⟩ := hfull field hfield
    have hmember := (Json.Tree.readableMembers_iff members).mp hreadable _ htree
    exact ⟨c, hc, h field hfield tree htree c hc hmember.2⟩
  have honce : ∀ field ∈ kind.fields,
      (members.map (·.1)).count (Json.pieces field.name) ≤ 1 := by
    intro field hfield
    rcases hlisted field hfield with honce | ⟨hnot, -⟩
    · exact Nat.le_of_eq honce
    · rw [List.count_eq_zero.mpr hnot]
      exact Nat.zero_le 1
  obtain ⟨parts, hparts, hgives⟩ :=
    readMembers_of_fields .empty hreadable hread honce fun _ _ _ => rfl
  refine ⟨parts, hparts, fun field hfield => ?_⟩
  have hfield' := hgives field hfield
  rcases hlisted field hfield with honce | ⟨hnot, habsent⟩
  · rw [if_pos (List.count_pos_iff.mp (by omega))] at hfield'
    exact .inl hfield'
  · rw [if_neg hnot] at hfield'
    exact .inr ⟨hfield', habsent⟩

theorem gives_of_covered {items : List Json.Tree} (hreadable : Json.Tree.ReadableItems items)
    (hcovered : kind.Covered content items.length)
    (h : ∀ given ∈ kind.fields.zip items, ∀ c, content given.1.sort = some c →
      given.2.Readable → readField given.1.sort given.2.data.toDatum = .ok c) :
    ∃ parts, readItems kind.fields .empty (Json.toData (Json.Tree.dataItems items)) = .ok parts
      ∧ ∀ field ∈ kind.fields, parts.Gives field.sort (content field.sort) := by
  have hread : ∀ given ∈ kind.fields.zip items, ∃ c, content given.1.sort = some c
      ∧ readField given.1.sort given.2.data.toDatum = .ok c := by
    intro given hgiven
    obtain ⟨c, hc⟩ := hfull given.1 (List.of_mem_zip hgiven).1
    have hitem := (Json.Tree.readableItems_iff items).mp hreadable _ (List.of_mem_zip hgiven).2
    exact ⟨c, hc, h given hgiven c hc hitem⟩
  obtain ⟨hlength, habsent⟩ := hcovered
  obtain ⟨parts, hparts, hgives, hkeeps⟩ :=
    readItems_of_fields .empty kind.nodup_sorts hlength hread
  refine ⟨parts, hparts, fun field hfield => ?_⟩
  rw [← List.take_append_drop items.length kind.fields, List.mem_append] at hfield
  rcases hfield with hfield | hfield
  · exact .inl (hgives field hfield)
  · refine .inr ⟨hkeeps field.sort fun other hother hsort => ?_, habsent field hfield⟩
    have hsorts := kind.nodup_sorts
    rw [← List.take_append_drop items.length kind.fields, List.map_append,
      List.nodup_append] at hsorts
    exact hsorts.2.2 _ (List.mem_map_of_mem hother) _ (List.mem_map_of_mem hfield) hsort

end Read

/-! ## The name of the kind -/

theorem readKind_name (numbered : Bool) (kind : Kind) :
    readKind numbered (.text kind.name) = .ok kind := by
  rw [readKind, Kind.ofName?_name]

theorem isKindMember_textOf {name : List Json.Piece} (h : Json.Complete name) :
    isKindMember (.text (Json.textOf name)) = (name == Json.pieces kindMember) := by
  rw [isKindMember]
  by_cases hname : name = Json.pieces kindMember
  · rw [hname, Json.textOf_pieces, beq_self_eq_true, beq_self_eq_true]
  · have hne : Json.textOf name ≠ kindMember := fun heq => hname (heq ▸ h.pieces_textOf.symm)
    rw [beq_eq_false_iff_ne.mpr hname, beq_eq_false_iff_ne.mpr hne]

section Kinds

variable {members : List (List Json.Piece × Json.Tree)}

theorem findKind_of_filter_nil (numbered : Bool) (found? : Option Kind)
    (hreadable : Json.Tree.ReadableMembers members)
    (h : members.filter (·.1 == Json.pieces kindMember) = []) :
    findKind numbered found? (Json.toMembers (Json.Tree.dataMembers members)) = .ok found? := by
  induction members with
  | nil =>
      rw [Json.Tree.dataMembers, Json.toMembers]
      cases found? with
      | none => rfl
      | some _ => rfl
  | cons member members ih =>
      obtain ⟨name, tree⟩ := member
      rw [Json.Tree.ReadableMembers] at hreadable
      rw [List.filter_cons] at h
      split at h
      · cases h
      · next hname =>
          rw [Json.Tree.dataMembers, Json.toMembers]
          unfold findKind
          rw [isKindMember_textOf hreadable.1, if_neg hname]
          exact ih hreadable.2.2 h

theorem findKind_of_filter (numbered : Bool) {kind : Kind}
    (hreadable : Json.Tree.ReadableMembers members)
    (h : members.filter (·.1 == Json.pieces kindMember)
      = [(Json.pieces kindMember, .string (Json.pieces kind.name))]) :
    findKind numbered none (Json.toMembers (Json.Tree.dataMembers members)) = .ok (some kind) := by
  induction members with
  | nil => cases h
  | cons member members ih =>
      obtain ⟨name, tree⟩ := member
      rw [Json.Tree.ReadableMembers] at hreadable
      rw [List.filter_cons] at h
      rw [Json.Tree.dataMembers, Json.toMembers, findKind, isKindMember_textOf hreadable.1]
      split at h
      · next hname =>
          obtain ⟨hmember, hrest⟩ := List.cons.inj h
          cases hmember
          rw [if_pos hname, Json.Tree.data, Json.textOf_pieces, Json.toDatum, readKind_name]
          exact findKind_of_filter_nil numbered (some kind) hreadable.2.2 hrest
      · next hname =>
          rw [if_neg hname]
          exact ih hreadable.2.2 h

end Kinds

/-! ## Trees that present -/

theorem length_toData_dataItems (items : List Json.Tree) :
    (Json.toData (Json.Tree.dataItems items)).length = items.length := by
  induction items with
  | nil => rw [Json.Tree.dataItems, Json.toData]; rfl
  | cons item items ih =>
      rw [Json.Tree.dataItems, Json.toData, List.length_cons, List.length_cons, ih]

theorem Kind.checkLength_of_covered {kind : Kind} {content : Parts} {items : List Json.Tree}
    (h : kind.Covered content items.length) :
    kind.checkLength (Json.toData (Json.Tree.dataItems items)).length = .ok () := by
  rw [Kind.checkLength, length_toData_dataItems, if_neg (Nat.not_lt.mpr h.1)]

theorem readNodes_of_zip {nodes : List Node} {items : List Json.Tree}
    (hlength : nodes.length = items.length)
    (h : ∀ given ∈ nodes.zip items, readField .node given.2.data.toDatum = .ok given.1) :
    readNodes (Json.toData (Json.Tree.dataItems items)) = .ok nodes := by
  induction items generalizing nodes with
  | nil =>
      rw [List.length_eq_zero_iff.mp hlength, Json.Tree.dataItems, Json.toData, readNodes]
      rfl
  | cons item items ih =>
      cases nodes with
      | nil => cases hlength
      | cons node nodes =>
          rw [List.zip_cons_cons, List.forall_mem_cons] at h
          rw [Json.Tree.dataItems, Json.toData, readNodes, h.1, ih (Nat.succ.inj hlength) h.2]
          rfl

theorem readExports_of_zip {pairs : List (String × List Node)}
    {members : List (List Json.Piece × Json.Tree)}
    (hkeys : pairs.map (fun pair => Json.pieces pair.1) = members.map (·.1))
    (h : ∀ given ∈ pairs.zip members, readField .nodes given.2.2.data.toDatum = .ok given.1.2) :
    readExports (Json.toMembers (Json.Tree.dataMembers members)) = .ok pairs := by
  induction members generalizing pairs with
  | nil =>
      rw [List.map_eq_nil_iff.mp hkeys, Json.Tree.dataMembers, Json.toMembers, readExports]
      rfl
  | cons member members ih =>
      cases pairs with
      | nil => cases hkeys
      | cons pair pairs =>
          obtain ⟨key, body⟩ := pair
          obtain ⟨name, tree⟩ := member
          obtain ⟨hkey, htail⟩ := List.cons.inj hkeys
          obtain rfl : Json.pieces key = name := hkey
          rw [List.zip_cons_cons, List.forall_mem_cons] at h
          rw [Json.Tree.dataMembers, Json.toMembers, Json.textOf_pieces, readExports, readText,
            h.1, ih htail h.2]
          rfl

mutual

theorem Value.data_given (v : Value) : v.given.data = v.toJson := by
  match v with
  | .bool _ => rw [Value.given, Json.Tree.data, Value.toJson]
  | .text s => rw [Value.given, Json.Tree.data, Value.toJson, Json.textOf_pieces]
  | .list items =>
      rw [Value.given, Json.Tree.data, Value.toJson, Value.dataItems_givenAll items]

theorem Value.dataItems_givenAll (vs : List Value) :
    Json.Tree.dataItems (Value.givenAll vs) = Value.toJsonAll vs := by
  match vs with
  | [] => rw [Value.givenAll, Json.Tree.dataItems, Value.toJsonAll]
  | v :: vs =>
      rw [Value.givenAll, Json.Tree.dataItems, Value.toJsonAll, v.data_given,
        Value.dataItems_givenAll vs]

end

mutual

theorem readValue_toJson (v : Value) : readValue v.toJson.toDatum = .ok v := by
  match v with
  | .bool _ => rw [Value.toJson, Json.toDatum, readValue]
  | .text _ => rw [Value.toJson, Json.toDatum, readValue]
  | .list items =>
      rw [Value.toJson, Json.toDatum, readValue, readValues_toJsonAll items]
      rfl

theorem readValues_toJsonAll (vs : List Value) :
    readValues (Json.toData (Value.toJsonAll vs)) = .ok vs := by
  match vs with
  | [] =>
      rw [Value.toJsonAll, Json.toData, readValues]
      rfl
  | v :: vs =>
      rw [Value.toJsonAll, Json.toData, readValues, readValue_toJson v, readValues_toJsonAll vs]
      rfl

end

/-- A readable tree that presents the content of a field is read as that content. -/
theorem readField_of_presents {sort : FieldSort} {content : sort.Content} {tree : Json.Tree}
    (h : Presents sort content tree) (hreadable : tree.Readable) :
    readField sort tree.data.toDatum = .ok content := by
  induction h with
  | text s => rw [Json.Tree.data, Json.textOf_pieces, Json.toDatum, readField, readText]
  | value v => rw [v.data_given, readField, readValue_toJson]
  | @object node members hkind hlisted _ ih =>
      rw [Json.Tree.Readable] at hreadable
      obtain ⟨parts, hparts, hgives⟩ :=
        gives_of_listed node.exists_content hreadable hlisted ih
      rw [Json.Tree.data, Json.toDatum, readField, kindOfMembers,
        findKind_of_filter true hreadable hkind]
      show (readMembers node.kind .empty _ >>= _) = _
      rw [hparts]
      exact Kind.build_of_gives node _ hgives
  | @list node items hcovered _ ih =>
      rw [Json.Tree.Readable, Json.Tree.ReadableItems] at hreadable
      obtain ⟨parts, hparts, hgives⟩ :=
        gives_of_covered node.exists_content hreadable.2 hcovered ih
      rw [Json.Tree.data, Json.Tree.dataItems, Json.Tree.data, Json.textOf_pieces, Json.toDatum,
        Json.toData, Json.toDatum, readField, readKind_name]
      show (readItems node.kind.fields .empty _ >>= _) = _
      rw [hparts]
      show (node.kind.checkLength _ >>= _) = _
      rw [Kind.checkLength_of_covered hcovered]
      exact Kind.build_of_gives node _ hgives
  | @nodes nodes items hlength _ ih =>
      rw [Json.Tree.Readable, Json.Tree.readableItems_iff] at hreadable
      rw [Json.Tree.data, Json.toDatum, readField]
      exact readNodes_of_zip hlength fun given hgiven =>
        ih given hgiven (hreadable _ (List.of_mem_zip hgiven).2)
  | noArm => rw [Json.Tree.data, Json.toDatum, readField]; rfl
  | @arm chain members hlisted _ ih =>
      rw [Json.Tree.Readable] at hreadable
      obtain ⟨parts, hparts, hgives⟩ :=
        gives_of_listed chain.exists_content hreadable hlisted ih
      rw [Json.Tree.data, Json.toDatum, readField, hparts]
      show (some <$> buildChain parts _) = _
      rw [buildChain_of_gives chain _ hgives]
      rfl
  | @armList chain items hcovered _ ih =>
      rw [Json.Tree.Readable] at hreadable
      obtain ⟨parts, hparts, hgives⟩ :=
        gives_of_covered chain.exists_content hreadable hcovered ih
      rw [Json.Tree.data, Json.toDatum, readField, hparts]
      show (Kind.checkLength .conditional _ >>= _) = _
      rw [Kind.checkLength_of_covered hcovered]
      show (some <$> buildChain parts _) = _
      rw [buildChain_of_gives chain _ hgives]
      rfl
  | @exports pairs members hkeys _ ih =>
      rw [Json.Tree.Readable, Json.Tree.readableMembers_iff] at hreadable
      have hread := readExports_of_zip hkeys fun given hgiven =>
        ih given hgiven (hreadable _ (List.of_mem_zip hgiven).2).2
      rw [Json.Tree.data, Json.toDatum, readField, hread]
      rfl

/-! ## Whole templates -/

theorem checkTopKind_of_presents {node : Node} {tree : Json.Tree} (h : Presents .node node tree)
    (hreadable : tree.Readable) : checkTopKind tree.data.toDatum = .ok () := by
  cases h with
  | object hkind _ _ =>
      rw [Json.Tree.Readable] at hreadable
      rw [Json.Tree.data, Json.toDatum, checkTopKind, findKind_of_filter false hreadable hkind]
      rfl
  | list _ _ =>
      rw [Json.Tree.data, Json.Tree.dataItems, Json.Tree.data, Json.textOf_pieces, Json.toDatum,
        Json.toData, Json.toDatum, checkTopKind, readKind_name]
      rfl

theorem readTopNodes_of_zip {nodes : List Node} {items : List Json.Tree}
    (hlength : nodes.length = items.length)
    (h : ∀ given ∈ nodes.zip items, Presents .node given.1 given.2)
    (hreadable : Json.Tree.ReadableItems items) :
    readTopNodes (Json.Tree.dataItems items) = .ok nodes := by
  induction items generalizing nodes with
  | nil =>
      rw [List.length_eq_zero_iff.mp hlength, Json.Tree.dataItems]
      rfl
  | cons item items ih =>
      cases nodes with
      | nil => cases hlength
      | cons node nodes =>
          rw [Json.Tree.ReadableItems] at hreadable
          rw [List.zip_cons_cons, List.forall_mem_cons] at h
          have hrest : (Json.Tree.dataItems items).mapM (fun item => readTopNode item.toDatum)
              = .ok nodes :=
            ih (Nat.succ.inj hlength) h.2 hreadable.2
          rw [Json.Tree.dataItems, readTopNodes, List.mapM_cons, readTopNode,
            checkTopKind_of_presents h.1 hreadable.1, hrest]
          show (readField .node item.data.toDatum >>= _) = _
          rw [readField_of_presents h.1 hreadable.1]
          rfl

theorem readTemplate_of_presents {template : Template} {tree : Json.Tree}
    (h : Presents .nodes template tree) (hreadable : tree.Readable) :
    readTemplate tree.data = .ok template := by
  cases h with
  | nodes hlength h =>
      rw [Json.Tree.Readable] at hreadable
      rw [Json.Tree.data]
      exact readTopNodes_of_zip hlength h hreadable

/-! ## Texts that cannot be read -/

/-- A text alone opens nothing. -/
theorem Json.eq_nil_of_opens_string {ps : List Json.Piece} {frames : List Json.Frame}
    (h : Json.Opens (.string ps) frames) : frames = [] := by
  cases h with
  | here _ => rfl

section Kinds

variable {before after : List (List Json.Piece × Json.Tree)} {kind : Kind}

/-- The members before some member name the kind, or it is yet to be named. -/
theorem exists_findKind_of_append (numbered : Bool)
    (hreadable : Json.Tree.ReadableMembers before)
    (h : (before ++ after).filter (·.1 == Json.pieces kindMember)
      = [(Json.pieces kindMember, .string (Json.pieces kind.name))]) :
    ∃ found?, findKind numbered none (Json.toMembers (Json.Tree.dataMembers before))
      = .ok found? := by
  rw [List.filter_append] at h
  rcases List.append_eq_singleton_iff.mp h with ⟨hbefore, -⟩ | ⟨hbefore, -⟩
  · exact ⟨none, findKind_of_filter_nil numbered none hreadable hbefore⟩
  · exact ⟨some kind, findKind_of_filter numbered hreadable hbefore⟩

/-- Before the member that names the kind no other does. -/
theorem findKind_of_append_kindMember (numbered : Bool) {tree : Json.Tree}
    (hreadable : Json.Tree.ReadableMembers before)
    (h : (before ++ (Json.pieces kindMember, tree) :: after).filter
        (·.1 == Json.pieces kindMember)
      = [(Json.pieces kindMember, .string (Json.pieces kind.name))]) :
    findKind numbered none (Json.toMembers (Json.Tree.dataMembers before)) = .ok none
      ∧ tree = .string (Json.pieces kind.name) := by
  rw [List.filter_append, List.filter_cons, if_pos (beq_self_eq_true _)] at h
  rcases List.append_eq_singleton_iff.mp h with ⟨hbefore, hmember⟩ | ⟨-, hmember⟩
  · obtain ⟨hmember, -⟩ := List.cons.inj hmember
    exact ⟨findKind_of_filter_nil numbered none hreadable hbefore, congrArg Prod.snd hmember⟩
  · cases hmember

end Kinds

/-- A node that is open has named its kind, unless that is what it is about to do. -/
theorem checkOpenNode_of_opens {node : Node} {tree : Json.Tree} (h : Presents .node node tree)
    {frames : List Json.Frame} (hopens : Json.Opens tree frames) :
    checkOpenNode frames = .ok () := by
  cases h with
  | @object _ members hkind _ _ =>
      generalize hmembers : Json.Tree.object members = tree at hopens
      cases hopens with
      | here _ => rfl
      | item _ _ => cases hmembers
      | @name before after member hbefore =>
          cases hmembers
          obtain ⟨found?, hfound⟩ := exists_findKind_of_append false hbefore hkind
          rw [checkOpenNode, List.reverse_reverse, hfound]
          rfl
      | @member before after name tree inner hbefore hname hinner =>
          cases hmembers
          rw [checkOpenNode, List.reverse_reverse]
          by_cases hnamed : name = Json.pieces kindMember
          · subst hnamed
            obtain ⟨hfound, rfl⟩ := findKind_of_append_kindMember false hbefore hkind
            rw [hfound, Json.textOf_pieces, Json.eq_nil_of_opens_string hinner]
            rfl
          · obtain ⟨found?, hfound⟩ := exists_findKind_of_append false hbefore hkind
            have hother : some (Json.textOf name) ≠ some kindMember := fun heq =>
              hnamed (Option.some.inj heq ▸ hname.pieces_textOf.symm)
            rw [hfound]
            show (if some (Json.textOf name) = some kindMember then _ else pure ()) = _
            rw [if_neg hother]
            rfl
  | @list _ items _ _ =>
      generalize hitems : Json.Tree.list
        (.string (Json.pieces node.kind.name) :: items) = tree at hopens
      cases hopens with
      | here _ => rfl
      | name _ => cases hitems
      | member _ _ _ => cases hitems
      | @item before after item inner hbefore hinner =>
          rw [checkOpenNode, List.reverse_reverse]
          cases before with
          | nil =>
              cases hitems
              rw [Json.Tree.dataItems, Json.eq_nil_of_opens_string hinner]
              rfl
          | cons first before =>
              cases hitems
              rw [Json.Tree.dataItems, Json.Tree.data, Json.textOf_pieces]
              show discard (readKind false (.text node.kind.name)) = _
              rw [readKind_name]
              rfl

theorem checkOpenTemplate_of_opens {template : Template} {tree : Json.Tree}
    (h : Presents .nodes template tree) {frames : List Json.Frame}
    (hopens : Json.Opens tree frames) : checkOpenTemplate frames = .ok () := by
  cases h with
  | @nodes _ items hlength h =>
      generalize hitems : Json.Tree.list items = tree at hopens
      cases hopens with
      | here _ => rfl
      | name _ => cases hitems
      | member _ _ _ => cases hitems
      | @item before after item inner hbefore hinner =>
          cases hitems
          obtain ⟨first, rest, rfl, hfirst⟩ : ∃ first rest,
              template = first ++ rest ∧ first.length = before.length := by
            refine ⟨_, _, (List.take_append_drop before.length template).symm, ?_⟩
            rw [List.length_append] at hlength
            rw [List.length_take]
            omega
          rw [List.zip_append hfirst, List.forall_mem_append] at h
          cases rest with
          | nil =>
              simp only [List.length_append, List.length_cons, List.length_nil, hfirst] at hlength
              omega
          | cons node rest =>
              rw [List.zip_cons_cons, List.forall_mem_cons] at h
              rw [checkOpenTemplate, List.reverse_reverse, readTopNodes_of_zip hfirst h.1 hbefore]
              exact checkOpenNode_of_opens h.2.1 hinner

/-- What becomes of a text that presents a template: it is the template, if the text can be
read, and otherwise the complaint is that it cannot. -/
theorem loadTemplate_of_presents {template : Template} {tree : Json.Tree} {text : String}
    (h : Presents .nodes template tree) (htext : tree.IsText text) :
    (tree.Readable ∧ tree.depth ≤ 127 → Json.loadTemplate text = .ok template)
      ∧ (¬ (tree.Readable ∧ tree.depth ≤ 127) →
        Json.loadTemplate text = .error (.json .malformed)) := by
  constructor
  · intro ⟨hreadable, hdepth⟩
    rw [Json.loadTemplate, Json.read_eq_whole htext hreadable hdepth]
    show (readTemplate tree.data).mapError LoadError.shape = .ok template
    rw [readTemplate_of_presents h hreadable]
    rfl
  · intro hbad
    obtain ⟨frames, hopens, hread⟩ := Json.read_eq_broken htext fun hreadable =>
      Nat.not_le.mp fun hdepth => hbad ⟨hreadable, hdepth⟩
    rw [Json.loadTemplate, hread]
    show ((checkOpenTemplate frames).mapError LoadError.shape >>= _) = _
    rw [checkOpenTemplate_of_opens h hopens]
    rfl

end TemplateTree
