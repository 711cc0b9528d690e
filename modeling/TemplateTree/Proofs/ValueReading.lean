import TemplateTree.Source
import TemplateTree.Proofs.Expansion
import TemplateTree.Proofs.WrittenForm

/-!
# Data read as values

Values are read in three ways: from JSON data, from YAML data, and from the form in which
they are written. The readers differ in what they refuse. JSON and YAML data has no
counterpart among values where it is an object or a mapping, and the written form allows
neither numbers nor null in addition. All three look into lists and nowhere else, and the
first element that is refused is what a list is refused for.

So whether data is read depends on what occurs in it (`OccursIn`), at any depth. This is
shown by induction on the lists in the data: an object needs no look inside, since it is
refused as it stands. What one reader accepts another one gives the same value for, because
they agree on everything that is no list.
-/

namespace TemplateTree

/-! ## Lists that are read element by element -/

section Lists

variable {ε α β : Type} {f g : α → Except ε β} {xs : List α}

theorem mapM_eq_ok_iff {ys : List β} :
    xs.mapM f = .ok ys ↔ List.Forall₂ (fun x y => f x = .ok y) xs ys := by
  induction xs generalizing ys with
  | nil =>
      rw [List.mapM_nil, List.forall₂_nil_left_iff]
      exact ⟨fun h => (Except.ok.inj h).symm, fun h => h ▸ rfl⟩
  | cons x xs ih =>
      rw [List.mapM_cons, bind_eq_ok_iff, List.forall₂_cons_left_iff]
      constructor
      · rintro ⟨y, hy, h⟩
        obtain ⟨rest, hrest, h⟩ := bind_eq_ok_iff.mp h
        exact ⟨y, rest, hy, ih.mp hrest, (Except.ok.inj h).symm⟩
      · rintro ⟨y, rest, hy, hrest, rfl⟩
        exact ⟨y, hy, bind_eq_ok_iff.mpr ⟨rest, ih.mpr hrest, rfl⟩⟩

/-- The failure of a list is that of its first element that fails. -/
theorem mapM_eq_error_iff {e : ε} :
    xs.mapM f = .error e
      ↔ ∃ before x after, xs = before ++ x :: after ∧ (∀ y ∈ before, ∃ b, f y = .ok b)
        ∧ f x = .error e := by
  induction xs with
  | nil =>
      refine iff_of_false nofun ?_
      rintro ⟨before, x, after, h, -⟩
      cases before with
      | nil => cases h
      | cons _ _ => cases h
  | cons x xs ih =>
      rw [List.mapM_cons, bind_eq_error_iff]
      constructor
      · rintro (h | ⟨y, hy, h⟩)
        · exact ⟨[], x, xs, rfl, nofun, h⟩
        · rcases bind_eq_error_iff.mp h with h | ⟨rest, -, h⟩
          · obtain ⟨before, x', after, rfl, hbefore, hx'⟩ := ih.mp h
            exact ⟨x :: before, x', after, rfl,
              List.forall_mem_cons.mpr ⟨⟨y, hy⟩, hbefore⟩, hx'⟩
          · cases h
      · rintro ⟨before, x', after, hsplit, hbefore, hx'⟩
        cases before with
        | nil =>
            obtain ⟨rfl, rfl⟩ := List.cons.inj hsplit
            exact .inl hx'
        | cons first before =>
            obtain ⟨rfl, rfl⟩ := List.cons.inj hsplit
            obtain ⟨⟨y, hy⟩, hbefore⟩ := List.forall_mem_cons.mp hbefore
            refine .inr ⟨y, hy, bind_eq_error_iff.mpr (.inl (ih.mpr ?_))⟩
            exact ⟨before, x', after, rfl, hbefore, hx'⟩

theorem exists_mapM_eq_ok_iff :
    (∃ ys, xs.mapM f = .ok ys) ↔ ∀ x ∈ xs, ∃ y, f x = .ok y := by
  induction xs with
  | nil => exact iff_of_true ⟨[], rfl⟩ nofun
  | cons x xs ih =>
      rw [List.forall_mem_cons, ← ih]
      constructor
      · rintro ⟨ys, h⟩
        obtain ⟨y, rest, hy, hrest, -⟩ := List.forall₂_cons_left_iff.mp (mapM_eq_ok_iff.mp h)
        exact ⟨⟨y, hy⟩, rest, mapM_eq_ok_iff.mpr hrest⟩
      · rintro ⟨⟨y, hy⟩, rest, hrest⟩
        exact ⟨y :: rest, mapM_eq_ok_iff.mpr (.cons hy (mapM_eq_ok_iff.mp hrest))⟩

theorem mapM_congr (h : ∀ x ∈ xs, f x = g x) : xs.mapM f = xs.mapM g := by
  induction xs with
  | nil => rfl
  | cons x xs ih =>
      obtain ⟨hx, hxs⟩ := List.forall_mem_cons.mp h
      rw [List.mapM_cons, List.mapM_cons, hx, ih hxs]

end Lists

/-- The list of the values that the elements are read as. -/
def Value.readList {ε α : Type} (read : α → Except ε Value) (items : List α) : Except ε Value := do
  return .list (← items.mapM read)

section ReadList

variable {ε α : Type} {read read' : α → Except ε Value} {items : List α}

theorem readList_eq_ok_iff {v : Value} :
    Value.readList read items = .ok v ↔ ∃ vs, items.mapM read = .ok vs ∧ .list vs = v := by
  rw [Value.readList, bind_eq_ok_iff]
  exact exists_congr fun vs => and_congr_right fun _ => ⟨Except.ok.inj, congrArg Except.ok⟩

theorem exists_readList_iff :
    (∃ v, Value.readList read items = .ok v) ↔ ∀ item ∈ items, ∃ v, read item = .ok v := by
  rw [← exists_mapM_eq_ok_iff]
  constructor
  · rintro ⟨v, h⟩
    obtain ⟨vs, hvs, -⟩ := readList_eq_ok_iff.mp h
    exact ⟨vs, hvs⟩
  · rintro ⟨vs, hvs⟩
    exact ⟨.list vs, readList_eq_ok_iff.mpr ⟨vs, hvs, rfl⟩⟩

/-- A list is refused because of an element. -/
theorem exists_of_readList_eq_error {e : ε} (h : Value.readList read items = .error e) :
    ∃ item ∈ items, read item = .error e := by
  rw [Value.readList, bind_eq_error_iff] at h
  rcases h with h | ⟨vs, -, h⟩
  · obtain ⟨before, item, after, rfl, -, hitem⟩ := mapM_eq_error_iff.mp h
    exact ⟨item, List.mem_append_right before List.mem_cons_self, hitem⟩
  · cases h

/-- If one reader accepts no element that another does not give the same value for, then no
list either. -/
theorem readList_eq_ok_of_imp {ε' : Type} {read' : α → Except ε' Value}
    (himp : ∀ item ∈ items, ∀ v, read item = .ok v → read' item = .ok v) {v : Value}
    (h : Value.readList read items = .ok v) : Value.readList read' items = .ok v := by
  rw [readList_eq_ok_iff] at h ⊢
  obtain ⟨vs, hvs, hv⟩ := h
  rw [mapM_eq_ok_iff] at hvs
  refine ⟨vs, mapM_eq_ok_iff.mpr ?_, hv⟩
  exact ((List.forall₂_and_left items vs).mpr ⟨himp, hvs⟩).imp fun item v h => h.1 v h.2

theorem readList_congr (h : ∀ item ∈ items, read item = read' item) :
    Value.readList read items = Value.readList read' items := by
  rw [Value.readList, Value.readList, mapM_congr h]

theorem readList_map {β : Type} (f : β → α) (items : List β) :
    Value.readList read (items.map f) = Value.readList (fun item => read (f item)) items := by
  rw [Value.readList, Value.readList, List.mapM_map]
  rfl

end ReadList

/-! ## JSON data -/

namespace Json

/-- The part stands somewhere in the data, or is all of it. -/
inductive OccursIn (part : Json) : Json → Prop where
  | here : OccursIn part part
  | item {items : List Json} {item : Json} (hitem : item ∈ items) (h : OccursIn part item) :
      OccursIn part (.list items)
  | member {members : List (String × Json)} {member : String × Json} (hmember : member ∈ members)
      (h : OccursIn part member.2) : OccursIn part (.object members)

def IsObject : Json → Prop
  | .object _ => True
  | _ => False

/-- The data is of a kind that the written form of values knows. -/
def IsPlain : Json → Prop
  | .bool _ | .string _ | .list _ => True
  | .null | .number _ | .object _ => False

/-- What holds of a list whenever it holds of its elements, and of everything else, holds of
all data. Nothing is said of what is in an object. -/
@[elab_as_elim]
theorem induct_items {P : Json → Prop} (null : P .null) (bool : ∀ b, P (.bool b))
    (number : ∀ n, P (.number n)) (string : ∀ s, P (.string s))
    (list : ∀ items, (∀ item ∈ items, P item) → P (.list items))
    (object : ∀ members, P (.object members)) (data : Json) : P data := by
  match data with
  | .null => exact null
  | .bool b => exact bool b
  | .number n => exact number n
  | .string s => exact string s
  | .list items =>
      exact list items fun item hitem => item.induct_items null bool number string list object
  | .object members => exact object members
termination_by sizeOf data
decreasing_by
  have := List.sizeOf_lt_of_mem hitem
  simp
  omega

theorem forall_occursIn_list {P : Json → Prop} {items : List Json} (hlist : P (.list items)) :
    (∀ part : Json, part.OccursIn (.list items) → P part)
      ↔ ∀ item ∈ items, ∀ part : Json, part.OccursIn item → P part := by
  constructor
  · exact fun h item hitem part hpart => h part (.item hitem hpart)
  · intro h part hpart
    cases hpart with
    | here => exact hlist
    | item hitem hpart => exact h _ hitem part hpart

theorem toValue_list (items : List Json) : (list items).toValue = Value.readList toValue items := by
  have hmapM : toValues items = items.mapM toValue := by
    induction items with
    | nil => rw [toValues, List.mapM_nil]
    | cons item items ih => rw [toValues, List.mapM_cons, ih]
  rw [toValue, Value.readList, hmapM]

theorem toDatum_list (items : List Json) : (list items).toDatum = .list (items.map toDatum) := by
  have hmap : toData items = items.map toDatum := by
    induction items with
    | nil => rw [toData, List.map_nil]
    | cons item items ih => rw [toData, List.map_cons, ih]
  rw [toDatum, hmap]

/-- JSON data is a value unless there is an object in it. -/
theorem exists_toValue_iff (data : Json) :
    (∃ v, data.toValue = .ok v) ↔ ∀ part : Json, part.OccursIn data → ¬ part.IsObject := by
  induction data using induct_items with
  | null | bool _ | number _ | string _ =>
      rw [toValue]
      refine iff_of_true ⟨_, rfl⟩ fun part hpart => ?_
      cases hpart
      exact id
  | list items ih =>
      rw [forall_occursIn_list id, toValue_list, exists_readList_iff]
      exact forall₂_congr ih
  | object members =>
      rw [toValue]
      exact iff_of_false (fun ⟨_, h⟩ => nomatch h) fun h => h _ .here trivial

theorem eq_of_toValue_eq_error {data : Json} {e : ValueError} (h : data.toValue = .error e) :
    e = .unsupported "object" := by
  induction data using induct_items with
  | null | bool _ | number _ | string _ =>
      rw [toValue] at h
      cases h
  | list items ih =>
      rw [toValue_list] at h
      obtain ⟨item, hitem, h⟩ := exists_of_readList_eq_error h
      exact ih item hitem h
  | object members =>
      rw [toValue] at h
      cases h
      rfl

end Json

/-! ## The written form -/

theorem readValue_list (items : List Datum) :
    readValue (.list items) = Value.readList readValue items := by
  have hmapM : readValues items = items.mapM readValue := by
    induction items with
    | nil => rw [readValues, List.mapM_nil]
    | cons item items ih => rw [readValues, List.mapM_cons, ih]
  rw [readValue, Value.readList, hmapM]

/-- The list of a written value, read from JSON data. -/
theorem readValue_toDatum_list (items : List Json) :
    readValue (Json.list items).toDatum
      = Value.readList (fun item => readValue item.toDatum) items := by
  rw [Json.toDatum_list, readValue_list, readList_map]

theorem exists_readValue_iff (data : Json) :
    (∃ v, readValue data.toDatum = .ok v) ↔ ∀ part : Json, part.OccursIn data → part.IsPlain := by
  induction data using Json.induct_items with
  | bool _ | string _ =>
      rw [Json.toDatum, readValue]
      refine iff_of_true ⟨_, rfl⟩ fun part hpart => ?_
      cases hpart
      trivial
  | list items ih =>
      rw [Json.forall_occursIn_list trivial, readValue_toDatum_list, exists_readList_iff]
      exact forall₂_congr ih
  | null | number _ | object _ =>
      rw [Json.toDatum, readValue]
      exact iff_of_false (fun ⟨_, h⟩ => nomatch h) fun h => h _ .here

/-- What is read from the written form is read from it as JSON data, too. -/
theorem toValue_of_readValue {data : Json} {v : Value} (h : readValue data.toDatum = .ok v) :
    data.toValue = .ok v := by
  induction data using Json.induct_items generalizing v with
  | bool _ | string _ =>
      rw [Json.toDatum, readValue] at h
      cases h
      rw [Json.toValue]
  | list items ih =>
      rw [readValue_toDatum_list] at h
      rw [Json.toValue_list]
      refine readList_eq_ok_of_imp ?_ h
      exact fun item hitem v hv => ih item hitem hv
  | null | number _ | object _ =>
      rw [Json.toDatum, readValue] at h
      cases h

/-- What the two readers of JSON text make of a text of a readable tree is what they make of
the data of the tree, unless that is nested too deep. -/
theorem load_of_isText {tree : Json.Tree} {text : String} (h : tree.IsText text)
    (hreadable : tree.Readable) :
    (ValueSource.written text).load
        = (if tree.data.depth ≤ 127 then (readValue tree.data.toDatum).mapError .shape
          else .error (.json .malformed))
      ∧ (ValueSource.json text).load
        = (if tree.data.depth ≤ 127 then tree.data.toValue.mapError .value
          else .error (.json .malformed)) := by
  rw [ValueSource.load, ValueSource.load, Json.loadValue, loadJson, Json.parse, tree.depth_data]
  by_cases hdepth : tree.depth ≤ 127
  · rw [if_pos hdepth, if_pos hdepth, Json.read_eq_whole h hreadable hdepth]
    exact ⟨rfl, rfl⟩
  · obtain ⟨frames, -, hbroken⟩ := Json.read_eq_broken h fun _ => Nat.not_le.mp hdepth
    rw [if_neg hdepth, if_neg hdepth, hbroken]
    exact ⟨rfl, rfl⟩

/-! ## YAML data -/

namespace Yaml

/-- The part stands somewhere in the data, or is all of it. -/
inductive OccursIn (part : Yaml) : Yaml → Prop where
  | here : OccursIn part part
  | item {items : List Yaml} {item : Yaml} (hitem : item ∈ items) (h : OccursIn part item) :
      OccursIn part (.sequence items)
  | key {members : List (Yaml × Yaml)} {member : Yaml × Yaml} (hmember : member ∈ members)
      (h : OccursIn part member.1) : OccursIn part (.mapping members)
  | value {members : List (Yaml × Yaml)} {member : Yaml × Yaml} (hmember : member ∈ members)
      (h : OccursIn part member.2) : OccursIn part (.mapping members)
  | tagged {tag : String} {data : Yaml} (h : OccursIn part data) : OccursIn part (.tagged tag data)

def IsMapping : Yaml → Prop
  | .mapping _ => True
  | _ => False

mutual

/-- The data without any tags. -/
def untagged : Yaml → Yaml
  | .null => .null
  | .bool b => .bool b
  | .number n => .number n
  | .string s => .string s
  | .sequence items => .sequence (untaggedItems items)
  | .mapping members => .mapping (untaggedMembers members)
  | .tagged _ data => data.untagged

def untaggedItems : List Yaml → List Yaml
  | [] => []
  | item :: items => item.untagged :: untaggedItems items

def untaggedMembers : List (Yaml × Yaml) → List (Yaml × Yaml)
  | [] => []
  | (key, value) :: members => (key.untagged, value.untagged) :: untaggedMembers members

end

/-- What holds of a sequence whenever it holds of its elements, of tagged data whenever it
holds of the data, and of everything else, holds of all data. -/
@[elab_as_elim]
theorem induct_items {P : Yaml → Prop} (null : P .null) (bool : ∀ b, P (.bool b))
    (number : ∀ n, P (.number n)) (string : ∀ s, P (.string s))
    (sequence : ∀ items, (∀ item ∈ items, P item) → P (.sequence items))
    (mapping : ∀ members, P (.mapping members))
    (tagged : ∀ tag data, P data → P (.tagged tag data)) (data : Yaml) : P data := by
  match data with
  | .null => exact null
  | .bool b => exact bool b
  | .number n => exact number n
  | .string s => exact string s
  | .sequence items =>
      exact sequence items fun item hitem =>
        item.induct_items null bool number string sequence mapping tagged
  | .mapping members => exact mapping members
  | .tagged tag data =>
      exact tagged tag data (data.induct_items null bool number string sequence mapping tagged)
termination_by sizeOf data
decreasing_by
  · have := List.sizeOf_lt_of_mem hitem
    simp
    omega
  · simp

theorem forall_occursIn_sequence {P : Yaml → Prop} {items : List Yaml}
    (hsequence : P (.sequence items)) :
    (∀ part : Yaml, part.OccursIn (.sequence items) → P part)
      ↔ ∀ item ∈ items, ∀ part : Yaml, part.OccursIn item → P part := by
  constructor
  · exact fun h item hitem part hpart => h part (.item hitem hpart)
  · intro h part hpart
    cases hpart with
    | here => exact hsequence
    | item hitem hpart => exact h _ hitem part hpart

theorem toValue_sequence (items : List Yaml) :
    (sequence items).toValue = Value.readList toValue items := by
  have hmapM : toValues items = items.mapM toValue := by
    induction items with
    | nil => rw [toValues, List.mapM_nil]
    | cons item items ih => rw [toValues, List.mapM_cons, ih]
  rw [toValue, Value.readList, hmapM]

theorem untaggedItems_eq_map (items : List Yaml) : untaggedItems items = items.map untagged := by
  induction items with
  | nil => rw [untaggedItems, List.map_nil]
  | cons item items ih => rw [untaggedItems, List.map_cons, ih]

/-- YAML data is a value unless there is a mapping in it. -/
theorem exists_toValue_iff (data : Yaml) :
    (∃ v, data.toValue = .ok v) ↔ ∀ part : Yaml, part.OccursIn data → ¬ part.IsMapping := by
  induction data using induct_items with
  | null | bool _ | number _ | string _ =>
      rw [toValue]
      refine iff_of_true ⟨_, rfl⟩ fun part hpart => ?_
      cases hpart
      exact id
  | sequence items ih =>
      rw [forall_occursIn_sequence id, toValue_sequence, exists_readList_iff]
      exact forall₂_congr ih
  | mapping members =>
      rw [toValue]
      exact iff_of_false (fun ⟨_, h⟩ => nomatch h) fun h => h _ .here trivial
  | tagged tag data ih =>
      rw [toValue, ih]
      constructor
      · intro h part hpart
        cases hpart with
        | here => exact id
        | tagged hpart => exact h part hpart
      · exact fun h part hpart => h part (.tagged hpart)

theorem eq_of_toValue_eq_error {data : Yaml} {e : ValueError} (h : data.toValue = .error e) :
    e = .unsupported "mapping" := by
  induction data using induct_items with
  | null | bool _ | number _ | string _ =>
      rw [toValue] at h
      cases h
  | sequence items ih =>
      rw [toValue_sequence] at h
      obtain ⟨item, hitem, h⟩ := exists_of_readList_eq_error h
      exact ih item hitem h
  | mapping members =>
      rw [toValue] at h
      cases h
      rfl
  | tagged tag data ih =>
      rw [toValue] at h
      exact ih h

/-- Tags do not count. -/
theorem toValue_untagged (data : Yaml) : data.untagged.toValue = data.toValue := by
  induction data using induct_items with
  | null | bool _ | number _ | string _ => rw [untagged]
  | mapping members => rw [untagged, toValue, toValue]
  | sequence items ih =>
      rw [untagged, untaggedItems_eq_map, toValue_sequence, toValue_sequence, readList_map,
        readList_congr ih]
  | tagged tag data ih => rw [untagged, ih, toValue]

end Yaml

/-! ## The same data in JSON and in YAML -/

mutual

/-- The same data in YAML. -/
def Json.toYaml : Json → Yaml
  | .null => .null
  | .bool b => .bool b
  | .number n => .number n
  | .string s => .string s
  | .list items => .sequence (Json.toYamlItems items)
  | .object members => .mapping (Json.toYamlMembers members)

def Json.toYamlItems : List Json → List Yaml
  | [] => []
  | item :: items => item.toYaml :: Json.toYamlItems items

def Json.toYamlMembers : List (String × Json) → List (Yaml × Yaml)
  | [] => []
  | (name, data) :: members => (.string name, data.toYaml) :: Json.toYamlMembers members

end

/-- The data is no number but a whole one. -/
def Json.IsIntegral : Json → Prop
  | .number (.float _) => False
  | _ => True

theorem Json.toYamlItems_eq_map (items : List Json) : toYamlItems items = items.map toYaml := by
  induction items with
  | nil => rw [toYamlItems, List.map_nil]
  | cons item items ih => rw [toYamlItems, List.map_cons, ih]

/-- Data without floating-point numbers is the same value in both formats, or in none. -/
theorem toValue_toYaml_iff {data : Json}
    (hintegral : ∀ part : Json, part.OccursIn data → part.IsIntegral) {v : Value} :
    data.toYaml.toValue = .ok v ↔ data.toValue = .ok v := by
  induction data using Json.induct_items generalizing v with
  | null | bool _ | string _ => rw [Json.toYaml, Yaml.toValue, Json.toValue]
  | number n =>
      cases n with
      | integer n => rw [Json.toYaml, Yaml.toValue, Json.toValue]; rfl
      | float x => exact (hintegral _ .here).elim
  | list items ih =>
      rw [Json.forall_occursIn_list trivial] at hintegral
      rw [Json.toYaml, Json.toYamlItems_eq_map, Yaml.toValue_sequence, Json.toValue_list,
        readList_map]
      exact ⟨readList_eq_ok_of_imp fun item hitem v => (ih item hitem (hintegral item hitem)).mp,
        readList_eq_ok_of_imp fun item hitem v => (ih item hitem (hintegral item hitem)).mpr⟩
  | object members =>
      rw [Json.toYaml, Yaml.toValue, Json.toValue]
      exact iff_of_false nofun nofun

/-! ## All readers -/

/-- JSON data is a value unless an object occurs in it, and YAML data unless a mapping does,
whatever its tags. The written form allows no number and no null either, and what is read
from it is the value that it is as JSON data. So what is written for a value is read as that
value in both ways, and nesting beyond 127 is the only obstacle. Where there are no
floating-point numbers, JSON and YAML data give the same values. -/
theorem value_readers_agree :
    (∀ data : Json,
        ((∃ v, data.toValue = .ok v) ↔ ∀ part : Json, part.OccursIn data → ¬ part.IsObject)
          ∧ (∀ e, data.toValue = .error e → e = .unsupported "object")
          ∧ ((∃ v, readValue data.toDatum = .ok v)
            ↔ ∀ part : Json, part.OccursIn data → part.IsPlain)
          ∧ ∀ v, readValue data.toDatum = .ok v → data.toValue = .ok v)
      ∧ (∀ v : Value,
        (ValueSource.written v.toJsonText).load
            = (if v.toJson.depth ≤ 127 then .ok v else .error (.json .malformed))
          ∧ (ValueSource.json v.toJsonText).load
            = (if v.toJson.depth ≤ 127 then .ok v else .error (.json .malformed)))
      ∧ (∀ data : Yaml,
        ((∃ v, data.toValue = .ok v) ↔ ∀ part : Yaml, part.OccursIn data → ¬ part.IsMapping)
          ∧ (∀ e, data.toValue = .error e → e = .unsupported "mapping")
          ∧ data.untagged.toValue = data.toValue)
      ∧ ∀ data : Json, (∀ part : Json, part.OccursIn data → part.IsIntegral) →
        ∀ v, data.toYaml.toValue = .ok v ↔ data.toValue = .ok v := by
  refine ⟨fun data => ⟨data.exists_toValue_iff, fun e => Json.eq_of_toValue_eq_error,
      exists_readValue_iff data, fun v => toValue_of_readValue⟩, fun v => ?_,
    fun data => ⟨data.exists_toValue_iff, fun e => Yaml.eq_of_toValue_eq_error,
      data.toValue_untagged⟩, fun data hintegral v => toValue_toYaml_iff hintegral⟩
  have hread : readValue v.toJson.toDatum = .ok v := readValue_toJson v
  have hload := load_of_isText (Json.isText_write v.plain_given)
    (Json.Tree.readable_of_plain v.plain_given)
  rw [v.data_given, hread, toValue_of_readValue hread] at hload
  exact hload

/-- A list in a list, with a number. -/
def pairData : Json :=
  .list [.number (.integer 1), .list [.bool true, .string "x"]]

theorem value_readers_agree_pairData :
    (∀ part : Json, part.OccursIn pairData → part.IsIntegral)
      ∧ pairData.toYaml.toValue = .ok (.list [.text "1", .list [.bool true, .text "x"]]) := by
  have hintegral : ∀ part : Json, part.OccursIn pairData → part.IsIntegral := by
    rw [pairData, Json.forall_occursIn_list trivial]
    intro item hitem
    rcases List.mem_pair.mp hitem with rfl | rfl
    · intro part hpart
      cases hpart
      trivial
    · rw [Json.forall_occursIn_list trivial]
      intro item hitem part hpart
      rcases List.mem_pair.mp hitem with rfl | rfl
      · cases hpart
        trivial
      · cases hpart
        trivial
  obtain ⟨-, -, -, hyaml⟩ := value_readers_agree
  refine ⟨hintegral, (hyaml pairData hintegral _).mpr ?_⟩
  decide +kernel

end TemplateTree
