import TemplateTree.Proofs.GivenForms
import TemplateTree.Proofs.NumberRange

/-!
# Loading templates from text

Every text that presents a template is the template or cannot be read, and whether it can is
a matter of the numbers, strings and names in it and of its depth (`load_of_presents`). The
written form is such a text, and nothing in it is in the way but its depth
(`load_written`).
-/

namespace TemplateTree

theorem Form.readable_tree (form : Form) (template : Template) :
    (form.tree template).Readable := by
  refine Json.Tree.readable_of_plain ?_
  rw [Form.tree, Json.Tree.Plain]
  exact plainItems_givenAll form template

theorem data_object_tree (template : Template) :
    (Form.object.tree template).data = .list (toJsonAll template) := by
  rw [Form.tree, Json.Tree.data, dataItems_givenAll]

/-- The written form is a text in which all nodes are objects. -/
theorem isText_templateToJsonText (template : Template) :
    (Form.object.tree template).IsText (templateToJsonText template) := by
  have hplain : (Form.object.tree template).Plain := by
    rw [Form.tree, Json.Tree.Plain]
    exact plainItems_givenAll .object template
  have htext := Json.isText_write hplain
  rw [data_object_tree] at htext
  exact htext

/-! ## What is written -/

/-- A template whose content is sorted by key, as it is in a map, is loaded from its written
form, if that is nested at most 127 deep. If it is nested deeper, its text cannot be read. -/
theorem load_written {template : Template} (h : Ordered template) :
    Json.loadTemplate (templateToJsonText template)
      = if (Json.list (toJsonAll template)).depth ≤ 127 then .ok template
        else .error (.json .malformed) := by
  have hload := loadTemplate_of_presents (presents_givenAll .object template h)
    (isText_templateToJsonText template)
  rw [← data_object_tree, Json.Tree.depth_data]
  split
  · next hdepth => exact hload.1 ⟨Form.object.readable_tree template, hdepth⟩
  · next hdepth => exact hload.2 fun h => hdepth h.2

/-- Blocks inside one another. -/
def nestedBlocks : Nat → Template
  | 0 => []
  | n + 1 => [.block "b" (nestedBlocks n)]

theorem ordered_nestedBlocks (n : Nat) : Ordered (nestedBlocks n) := by
  induction n with
  | zero => rw [nestedBlocks, Ordered]; trivial
  | succ n ih =>
      rw [nestedBlocks, Ordered, Ordered, Node.Ordered]
      exact ⟨ih, trivial⟩

/-- Two arms, and behind them a template that supplies blocks inside one another beside
something else. -/
def nestedExports (n : Nat) : Template :=
  [.conditional (.more (.var "on") [.raw "a"] (.last (.constant (.bool true)) [.slot "b"])),
    .extend "base" [("body", nestedBlocks n), ("head", [.raw "h"])]]

theorem ordered_nestedExports (n : Nat) : Ordered (nestedExports n) := by
  have hkeys : SortedByKey [("body", nestedBlocks n), ("head", [.raw "h"])] :=
    List.pairwise_pair.mpr (by decide : "body" < "head")
  simp only [nestedExports, Ordered, Node.Ordered, Chain.Ordered, OrderedExports,
    ordered_nestedBlocks n, hkeys, and_self]

/-- What is supplied is a list in an object in an object in a list, and in it each block is an
object with a list. -/
theorem load_written_nestedExports :
    Json.loadTemplate (templateToJsonText (nestedExports 61)) = .ok (nestedExports 61)
      ∧ Json.loadTemplate (templateToJsonText (nestedExports 62)) = .error (.json .malformed) := by
  have hfits : (Json.list (toJsonAll (nestedExports 61))).depth ≤ 127 := by decide +kernel
  have hdeep : ¬ (Json.list (toJsonAll (nestedExports 62))).depth ≤ 127 := by decide +kernel
  rw [load_written (ordered_nestedExports 61), load_written (ordered_nestedExports 62),
    if_pos hfits, if_neg hdeep]
  exact ⟨rfl, rfl⟩

/-! ## Whatever presents -/

/-- A text that presents a template is loaded as the template exactly if it is nested at most
127 deep, all its numbers are in range and no string or name in it has half a pair alone, be
it in a field or in a member that means nothing. Otherwise the complaint is that it cannot be
read. Numbers up to `10 ^ 308` are in range. If what the template supplies is sorted by key,
as it is in a map, then the forms in which all nodes are objects or all are lists present it,
and nothing in them keeps them from being read. The written form is a text of the first. -/
theorem load_of_presents (template : Template) :
    (∀ tree text, Presents .nodes template tree → tree.IsText text →
        (tree.Readable ∧ tree.depth ≤ 127 → Json.loadTemplate text = .ok template)
          ∧ (¬ (tree.Readable ∧ tree.depth ≤ 127) →
            Json.loadTemplate text = .error (.json .malformed)))
      ∧ (∀ (figures : Json.Figures) cs, Json.NumberText figures cs →
        figures.magnitude ≤ 10 ^ 308 → Json.ofDigits figures.power < 2 ^ 31 →
          figures.numeral.InRange)
      ∧ (Ordered template → ∀ form : Form, Presents .nodes template (form.tree template)
        ∧ (form.tree template).Readable)
      ∧ (Form.object.tree template).IsText (templateToJsonText template) := by
  refine ⟨fun tree text hpresents htext => loadTemplate_of_presents hpresents htext,
    fun figures cs htext hmagnitude hpower => ?_,
    fun hordered form => ⟨presents_givenAll form template hordered, form.readable_tree template⟩,
    isText_templateToJsonText template⟩
  exact Json.Figures.inRange_of_magnitude_le htext hmagnitude (Nat.le_of_lt_succ hpower)

/-- A text, with a member beside it that means nothing. -/
def rawBeside (extra : Json.Tree) : Json.Tree :=
  .object [(Json.pieces "node", .string (Json.pieces "raw")),
    (Json.pieces "text", .string (Json.pieces "a")), (Json.pieces "extra", extra)]

def rawTextBeside (extra : String) : String :=
  "\x7b" ++ "\"node\":\"raw\",\"text\":\"a\",\"extra\":" ++ extra ++ "\x7d"

theorem presents_rawBeside (extra : Json.Tree) : Presents .node (.raw "a") (rawBeside extra) := by
  refine .object rfl (List.forall_mem_singleton.mpr (.inl rfl)) ?_
  refine List.forall_mem_singleton.mpr fun tree htree => ?_
  have hnode : Json.pieces "text" ≠ Json.pieces "node" := by decide
  have hextra : Json.pieces "text" ≠ Json.pieces "extra" := by decide
  obtain rfl : tree = .string (Json.pieces "a") := by simpa [hnode, hextra] using htree
  exact presents_some (.text "a")

theorem valueText_rawBeside {extra : Json.Tree} {text : String}
    (h : Json.ValueText extra text.toList) :
    Json.ValueText (rawBeside extra) (rawTextBeside text).toList := by
  simp only [rawTextBeside, String.toList_append, List.append_assoc]
  generalize text.toList = cs at h ⊢
  have hnode := Json.memberText_of_valueText (Json.complete_pieces "node")
    (.string (Json.stringText_flatMap_escape "raw"))
  have htext := Json.memberText_of_valueText (Json.complete_pieces "text")
    (.string (Json.stringText_flatMap_escape "a"))
  have hextra := Json.memberText_of_valueText (Json.complete_pieces "extra") h
  have hobject := Json.ValueText.object (.more hnode (.more htext (.last hextra)))
  simp only [Json.textOf_pieces, Json.toList_writeString, List.append_assoc,
    List.cons_append] at hobject
  exact hobject

theorem readable_rawBeside (extra : Json.Tree) : (rawBeside extra).Readable ↔ extra.Readable := by
  simp [rawBeside, Json.Tree.Readable, Json.Tree.ReadableMembers]

/-- A power of ten with three digits. -/
def powerOfTen (d₁ d₂ d₃ : Nat) : Json.Figures :=
  ⟨false, [1], [], false, [d₁, d₂, d₃]⟩

theorem numberText_powerOfTen {d₁ d₂ d₃ : Nat} (h : ∀ d ∈ [d₁, d₂, d₃], d < 10) :
    Json.NumberText (powerOfTen d₁ d₂ d₃) ('1' :: 'e' :: Json.digitChars [d₁, d₂, d₃]) :=
  .intro ⟨by decide, by decide⟩ (.inr (by decide)) .none
    (.plain (.inl rfl) ⟨List.cons_ne_nil _ _, h⟩)

theorem valueText_largeNumber :
    Json.ValueText (.number (powerOfTen 4 0 0)) "1e400".toList :=
  .number (numberText_powerOfTen (by decide))

theorem not_readable_largeNumber : ¬ (Json.Tree.number (powerOfTen 4 0 0)).Readable := by
  have hrange : ¬ (powerOfTen 4 0 0).numeral.InRange := by decide +kernel
  simpa [Json.Tree.Readable] using hrange

theorem valueText_loneHalf :
    Json.ValueText (.string [.half 0xD800]) "\"\\ud800\"".toList :=
  .string (.half (by decide) (by decide) (fun _ ⟨_, _, h, _⟩ => nomatch h) .nil)

theorem not_readable_loneHalf : ¬ (Json.Tree.string [.half 0xD800]).Readable := by
  have hcomplete := Json.not_complete_cons_half 0xD800 []
  simpa [Json.Tree.Readable] using hcomplete

/-- A slot under a condition, given by lists of which the outer one ends early, and inside by
an object in an order of its own. -/
def listedConditional : Json.Tree :=
  .list [.string (Json.pieces "conditional"),
    .list [.string (Json.pieces "variable"), .string (Json.pieces "x")],
    .list [.object [(Json.pieces "key", .string (Json.pieces "y")),
      (Json.pieces "node", .string (Json.pieces "import"))]]]

def listedText : String :=
  "[\"conditional\",[\"variable\",\"x\"],[\x7b\"key\":\"y\",\"node\":\"import\"\x7d]]"

theorem presents_listedConditional :
    Presents .node (.conditional (.last (.var "x") [.slot "y"])) listedConditional := by
  have hslot : Presents .node (.slot "y") (.object [(Json.pieces "key", .string (Json.pieces "y")),
      (Json.pieces "node", .string (Json.pieces "import"))]) := by
    refine .object rfl (List.forall_mem_singleton.mpr (.inl rfl)) ?_
    refine List.forall_mem_singleton.mpr fun tree htree => ?_
    have hnode : Json.pieces "key" ≠ Json.pieces "node" := by decide
    obtain rfl : tree = .string (Json.pieces "y") := by simpa [hnode] using htree
    exact presents_some (.text "y")
  have hvar : Presents .node (.var "x")
      (.list [.string (Json.pieces "variable"), .string (Json.pieces "x")]) :=
    .list ⟨by decide, nofun⟩ (List.forall_mem_singleton.mpr (presents_some (.text "x")))
  have hbody : Presents .nodes [.slot "y"] (.list [.object
      [(Json.pieces "key", .string (Json.pieces "y")),
        (Json.pieces "node", .string (Json.pieces "import"))]]) :=
    .nodes rfl (List.forall_mem_singleton.mpr hslot)
  refine .list ⟨by decide, List.forall_mem_singleton.mpr rfl⟩ ?_
  refine List.forall_mem_cons.mpr ⟨presents_some hvar, ?_⟩
  exact List.forall_mem_singleton.mpr (presents_some hbody)

theorem plain_listedConditional : listedConditional.Plain := by
  simp [listedConditional, Json.Tree.Plain, Json.Tree.PlainItems, Json.Tree.PlainMembers]

theorem paddedText_listedConditional :
    Json.PaddedText listedConditional listedText.toList := by
  have hwritten : listedConditional.data.write = listedText := by decide +kernel
  have htext := Json.isText_write plain_listedConditional
  rw [hwritten] at htext
  exact htext

def note : Template :=
  [.raw "a", .conditional (.last (.var "x") [.slot "y"])]

def noteTree (extra : Json.Tree) : Json.Tree :=
  .list [rawBeside extra, listedConditional]

def noteText (extra : String) : String :=
  "[" ++ rawTextBeside extra ++ "," ++ listedText ++ "]"

theorem presents_noteTree (extra : Json.Tree) : Presents .nodes note (noteTree extra) :=
  .nodes rfl (List.forall_mem_cons.mpr ⟨presents_rawBeside extra,
    List.forall_mem_singleton.mpr presents_listedConditional⟩)

theorem isText_noteText {extra : Json.Tree} {text : String}
    (h : Json.ValueText extra text.toList) : (noteTree extra).IsText (noteText text) := by
  have hraw := Json.paddedText_of_valueText (valueText_rawBeside h)
  have hvalue := Json.paddedText_of_valueText
    (.list (.more hraw (.last paddedText_listedConditional)))
  rw [List.append_assoc] at hvalue
  simp only [Json.Tree.IsText, noteText, String.toList_append, List.append_assoc]
  exact hvalue

theorem readable_noteTree (extra : Json.Tree) : (noteTree extra).Readable ↔ extra.Readable := by
  have hlisted := Json.Tree.readable_of_plain plain_listedConditional
  simp [noteTree, Json.Tree.Readable, Json.Tree.ReadableItems, readable_rawBeside, hlisted]

/-- One text but for the member that means nothing, and the written form. -/
theorem load_of_presents_note :
    Json.loadTemplate (noteText "1e300") = .ok note
      ∧ Json.loadTemplate (noteText "1e400") = .error (.json .malformed)
      ∧ Json.loadTemplate (noteText "\"\\ud800\"") = .error (.json .malformed)
      ∧ Json.loadTemplate (templateToJsonText note) = .ok note := by
  obtain ⟨hload, hrange, hforms, hwritten⟩ := load_of_presents note
  have hsmall : Json.NumberText (powerOfTen 3 0 0) "1e300".toList :=
    numberText_powerOfTen (by decide)
  have hreadable : (noteTree (.number (powerOfTen 3 0 0))).Readable := by
    have hmagnitude : (powerOfTen 3 0 0).magnitude ≤ 10 ^ 308 := by
      show ((1 : Nat) : Rat) * 10 ^ 300 / 10 ^ 0 ≤ 10 ^ 308
      rw [Nat.cast_one, one_mul, pow_zero, div_one]
      exact pow_le_pow_right₀ (by norm_num) (by norm_num)
    rw [readable_noteTree, Json.Tree.Readable]
    exact hrange _ _ hsmall hmagnitude (by decide)
  have hordered : Ordered note := by
    simp [note, Ordered, Node.Ordered, Chain.Ordered]
  obtain ⟨hobject, hobjectReadable⟩ := hforms hordered .object
  refine ⟨?_, ?_, ?_, ?_⟩
  · exact (hload _ _ (presents_noteTree _) (isText_noteText (.number hsmall))).1
      ⟨hreadable, by decide +kernel⟩
  · exact (hload _ _ (presents_noteTree _) (isText_noteText valueText_largeNumber)).2
      fun h => not_readable_largeNumber ((readable_noteTree _).mp h.1)
  · exact (hload _ _ (presents_noteTree _) (isText_noteText valueText_loneHalf)).2
      fun h => not_readable_loneHalf ((readable_noteTree _).mp h.1)
  · exact (hload _ _ hobject hwritten).1 ⟨hobjectReadable, by decide +kernel⟩

/-- A member that means nothing keeps a text from being loaded, if it cannot be read itself. -/
theorem malformed_rawBeside {extra : Json.Tree} {text : String}
    (h : Json.ValueText extra text.toList) (hextra : ¬ extra.Readable) :
    Presents .nodes [.raw "a"] (.list [rawBeside extra])
      ∧ (Json.Tree.list [rawBeside extra]).IsText ("[" ++ rawTextBeside text ++ "]")
      ∧ Json.loadTemplate ("[" ++ rawTextBeside text ++ "]") = .error (.json .malformed) := by
  have hpresents : Presents .nodes [.raw "a"] (.list [rawBeside extra]) :=
    .nodes rfl (List.forall_mem_singleton.mpr (presents_rawBeside extra))
  have htext : (Json.Tree.list [rawBeside extra]).IsText ("[" ++ rawTextBeside text ++ "]") := by
    have hraw := Json.paddedText_of_valueText (valueText_rawBeside h)
    have hvalue := Json.paddedText_of_valueText (.list (.last hraw))
    simp only [Json.Tree.IsText, String.toList_append, List.append_assoc]
    exact hvalue
  have hmalformed : ¬ (Json.Tree.list [rawBeside extra]).Readable := by
    simpa [Json.Tree.Readable, Json.Tree.ReadableItems, readable_rawBeside] using hextra
  exact ⟨hpresents, htext, (loadTemplate_of_presents hpresents htext).2 fun h => hmalformed h.1⟩

/-- A number that is too large or half a pair, in a member that means nothing, is enough to
keep a text from being loaded. -/
theorem malformed_of_unreadable_member :
    (Presents .nodes [.raw "a"] (.list [rawBeside (.number (powerOfTen 4 0 0))])
        ∧ (Json.Tree.list [rawBeside (.number (powerOfTen 4 0 0))]).IsText
          ("[" ++ rawTextBeside "1e400" ++ "]")
        ∧ (Json.Tree.list [rawBeside (.number (powerOfTen 4 0 0))]).depth ≤ 127
        ∧ Json.loadTemplate ("[" ++ rawTextBeside "1e400" ++ "]") ≠ .ok [.raw "a"])
      ∧ Presents .nodes [.raw "a"] (.list [rawBeside (.string [.half 0xD800])])
        ∧ (Json.Tree.list [rawBeside (.string [.half 0xD800])]).IsText
          ("[" ++ rawTextBeside "\"\\ud800\"" ++ "]")
        ∧ (Json.Tree.list [rawBeside (.string [.half 0xD800])]).depth ≤ 127
        ∧ Json.loadTemplate ("[" ++ rawTextBeside "\"\\ud800\"" ++ "]") ≠ .ok [.raw "a"] := by
  obtain ⟨hpresents, htext, hload⟩ :=
    malformed_rawBeside valueText_largeNumber not_readable_largeNumber
  obtain ⟨hpresents', htext', hload'⟩ :=
    malformed_rawBeside valueText_loneHalf not_readable_loneHalf
  rw [hload, hload']
  refine ⟨⟨hpresents, htext, ?_, nofun⟩, hpresents', htext', ?_, nofun⟩
  · decide +kernel
  · decide +kernel

end TemplateTree
