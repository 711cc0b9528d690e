import TemplateTree.Proofs.DocumentOrder
import Mathlib.Tactic.Choose

/-!
# Positions, and the first block of a key

A node of a tree is found by numbers: which node of the top level, then which part of it, which
node in there, and so on. Positions are lists of numbers and compared as words are, so a node
comes before the nodes inside it, and otherwise what stands further to the left comes first. This
is document order, and it says nothing of how a tree is walked.

`blocks` is a walk, and it lists the blocks in the order of their positions, all of them and none
twice (`inOrder_blocks`). That is put together from two facts on lists in order, since a tree goes
down in two kinds of steps: from a list to its members, which are numbered (`InOrder.flatMap`), and
from a node to what is inside it, before which it comes itself (`InOrder.root`). The first entry for
a key is then the one at the least position, and this is the content that `firstBlocks` keeps,
whatever blocks of that key stand further on or further down.
-/

namespace TemplateTree

/-! ## What stands where -/

mutual

/-- The node that is found from a node by the number of one of its parts, the number of a node
in there, and so on. -/
def Node.at? (node : Node) : List Nat → Option Node
  | [] => some node
  | number :: position => node.parts[number]?.bind fun part => nodeAt? part position

/-- The node at a position. -/
def nodeAt? (nodes : List Node) : List Nat → Option Node
  | [] => none
  | number :: position => nodes[number]?.bind fun node => node.at? position

end

/-- The key and the body of a block. -/
def Node.block? : Node → Option (String × List Node)
  | .block key body => some (key, body)
  | _ => none

/-- The block at a position. -/
def blockAt? (nodes : List Node) (position : List Nat) : Option (String × List Node) :=
  (nodeAt? nodes position).bind Node.block?

theorem Node.block?_eq_some_iff {node : Node} {key : String} {body : List Node} :
    node.block? = some (key, body) ↔ node = .block key body := by
  cases node with
  | block _ _ => rw [Node.block?, Option.some.injEq, Prod.mk.injEq, Node.block.injEq]
  | _ => exact iff_of_false nofun nofun

theorem blockAt?_eq_some_iff {nodes : List Node} {position : List Nat} {key : String}
    {body : List Node} :
    blockAt? nodes position = some (key, body)
      ↔ nodeAt? nodes position = some (.block key body) := by
  rw [blockAt?, Option.bind_eq_some_iff]
  constructor
  · rintro ⟨node, hnode, hblock⟩
    rw [hnode, Node.block?_eq_some_iff.mp hblock]
  · intro h
    exact ⟨_, h, rfl⟩

mutual

theorem Node.within_of_at? {outer node : Node} {position : List Nat}
    (h : outer.at? position = some node) : Within node [outer] := by
  match position with
  | [] =>
      rw [Node.at?, Option.some.injEq] at h
      subst h
      exact .here List.mem_cons_self
  | number :: position =>
      rw [Node.at?, Option.bind_eq_some_iff] at h
      obtain ⟨part, hpart, hnode⟩ := h
      exact .inside List.mem_cons_self (List.mem_of_getElem? hpart) (within_of_nodeAt? hnode)

theorem within_of_nodeAt? {nodes : List Node} {node : Node} {position : List Nat}
    (h : nodeAt? nodes position = some node) : Within node nodes := by
  match position with
  | [] =>
      rw [nodeAt?] at h
      cases h
  | number :: position =>
      rw [nodeAt?, Option.bind_eq_some_iff] at h
      obtain ⟨outer, houter, hnode⟩ := h
      exact .of_mem (List.mem_of_getElem? houter) (Node.within_of_at? hnode)

end

/-- The places of a tree that can be rendered are those that have a position. -/
theorem exists_nodeAt?_iff {nodes : List Node} {node : Node} :
    (∃ position, nodeAt? nodes position = some node) ↔ Within node nodes := by
  constructor
  · rintro ⟨position, h⟩
    exact within_of_nodeAt? h
  · intro h
    induction h with
    | here hnode =>
        obtain ⟨number, hnumber⟩ := List.mem_iff_getElem?.mp hnode
        refine ⟨[number], ?_⟩
        rw [nodeAt?, hnumber, Option.bind_some, Node.at?]
    | inside houter hpart _ ih =>
        obtain ⟨position, hposition⟩ := ih
        obtain ⟨number, hnumber⟩ := List.mem_iff_getElem?.mp houter
        obtain ⟨partNumber, hpartNumber⟩ := List.mem_iff_getElem?.mp hpart
        refine ⟨number :: partNumber :: position, ?_⟩
        rw [nodeAt?, hnumber, Option.bind_some, Node.at?, hpartNumber, Option.bind_some, hposition]

/-! ## Lists in the order of positions -/

/-- The values are those that stand at the positions, each once, in the order of the positions. -/
def InOrder {β : Type} (at? : List Nat → Option β) (values : List β) : Prop :=
  ∃ entries : List (List Nat × β), entries.map (·.2) = values
    ∧ entries.Pairwise (fun earlier later => earlier.1 < later.1)
    ∧ ∀ position value, (position, value) ∈ entries ↔ at? position = some value

/-- What stands at a position in a list of things, the number of the thing coming first. -/
def among {α β : Type} (at? : α → List Nat → Option β) (things : List α) :
    List Nat → Option β
  | [] => none
  | number :: position => things[number]?.bind fun thing => at? thing position

theorem pairwise_zipIdx {α : Type} (things : List α) (start : Nat) :
    (things.zipIdx start).Pairwise fun earlier later => earlier.2 < later.2 := by
  induction things generalizing start with
  | nil => exact .nil
  | cons thing things ih =>
      rw [List.zipIdx_cons, List.pairwise_cons]
      exact ⟨fun later hlater => List.le_snd_of_mem_zipIdx hlater, ih (start + 1)⟩

namespace InOrder

variable {α β : Type}

/-- Things one after the other: the values of each are numbered by the thing they are of. -/
theorem flatMap {at? : α → List Nat → Option β} {values : α → List β} {things : List α}
    (h : ∀ thing ∈ things, InOrder (at? thing) (values thing)) :
    InOrder (among at? things) (things.flatMap values) := by
  choose! entries hvalues hordered hat using h
  have hmem : ∀ thing ∈ things.zipIdx, thing.1 ∈ things := fun thing hthing =>
    List.mem_of_getElem? (List.mem_zipIdx_iff_getElem?.mp hthing)
  refine ⟨things.zipIdx.flatMap fun (thing, number) =>
    (entries thing).map fun (position, value) => (number :: position, value), ?_, ?_, ?_⟩
  · calc (things.zipIdx.flatMap fun (thing, number) =>
          (entries thing).map fun (position, value) => (number :: position, value)).map (·.2)
        = things.zipIdx.flatMap fun thing => values thing.1 := by
          rw [List.map_flatMap]
          refine List.flatMap_congr fun thing hthing => ?_
          rw [← hvalues thing.1 (hmem thing hthing), List.map_map]
          rfl
      _ = things.flatMap values := by rw [← List.flatMap_map Prod.fst, List.zipIdx_map_fst]
  · rw [List.pairwise_flatMap]
    refine ⟨fun thing hthing => ?_, (pairwise_zipIdx things 0).imp fun hlt x hx y hy => ?_⟩
    · rw [List.pairwise_map]
      exact (hordered thing.1 (hmem thing hthing)).imp fun hlt =>
        List.cons_lt_cons_iff.mpr (.inr ⟨rfl, hlt⟩)
    · obtain ⟨_, -, rfl⟩ := List.mem_map.mp hx
      obtain ⟨_, -, rfl⟩ := List.mem_map.mp hy
      exact List.cons_lt_cons_iff.mpr (.inl hlt)
  · intro position value
    rw [List.mem_flatMap]
    constructor
    · rintro ⟨⟨thing, number⟩, hthing, hentry⟩
      obtain ⟨⟨inner, value⟩, hinner, heq⟩ := List.mem_map.mp hentry
      cases heq
      rw [among, List.mem_zipIdx_iff_getElem?.mp hthing, Option.bind_some]
      exact (hat thing (hmem _ hthing) inner value).mp hinner
    · intro hsome
      match position with
      | [] => cases hsome
      | number :: inner =>
          obtain ⟨thing, hthing, hinner⟩ := Option.bind_eq_some_iff.mp hsome
          refine ⟨(thing, number), List.mem_zipIdx_iff_getElem?.mpr hthing,
            List.mem_map.mpr ⟨(inner, value), ?_, rfl⟩⟩
          exact (hat thing (List.mem_of_getElem? hthing) inner value).mpr hinner

/-- What stands at the root comes before what stands below it. -/
theorem root {at? below? : List Nat → Option β} {values : List β} (h : InOrder below? values)
    (hroot : below? [] = none)
    (hbelow : ∀ number position, at? (number :: position) = below? (number :: position)) :
    InOrder at? ((at? []).toList ++ values) := by
  obtain ⟨entries, hvalues, hordered, hat⟩ := h
  have hne : ∀ entry ∈ entries, entry.1 ≠ [] := by
    rintro ⟨position, value⟩ hentry rfl
    rw [hat, hroot] at hentry
    cases hentry
  refine ⟨(at? []).toList.map (([], ·)) ++ entries, ?_, ?_, ?_⟩
  · rw [List.map_append, hvalues, List.map_map]
    exact congrArg (· ++ values) (List.map_id _)
  · rw [List.pairwise_append]
    refine ⟨?_, hordered, ?_⟩
    · cases at? [] with
      | none => exact .nil
      | some value => exact List.pairwise_singleton _ _
    · intro first hfirst entry hentry
      obtain ⟨value, -, rfl⟩ := List.mem_map.mp hfirst
      obtain ⟨number, position, hposition⟩ := List.exists_cons_of_ne_nil (hne entry hentry)
      rw [hposition]
      exact List.nil_lt_cons number position
  · intro position value
    rw [List.mem_append, List.mem_map]
    match position with
    | [] =>
        have hnot : ([], value) ∉ entries := fun hentry => hne _ hentry rfl
        simp [hnot]
    | number :: position =>
        rw [hat, hbelow]
        simp

/-- Of the entries for a key the first is the one at the least position. -/
theorem lookup_eq_some_iff {at? : List Nat → Option (String × β)} {listed : List (String × β)}
    (h : InOrder at? listed) {key : String} {value : β} :
    listed.lookup key = some value
      ↔ ∃ position, at? position = some (key, value)
        ∧ ∀ earlier < position, ∀ other, at? earlier ≠ some (key, other) := by
  obtain ⟨entries, rfl, hordered, hat⟩ := h
  simp only [← hat, ne_eq]
  clear hat
  induction entries with
  | nil => simp
  | cons entry entries ih =>
      obtain ⟨hfirst, hrest⟩ := List.pairwise_cons.mp hordered
      obtain ⟨start, name, content⟩ := entry
      rw [List.map_cons]
      by_cases hkey : key = name
      · subst hkey
        rw [List.lookup_cons_self, Option.some.injEq]
        constructor
        · rintro rfl
          refine ⟨start, List.mem_cons_self, fun earlier hlt other hother => ?_⟩
          rcases List.mem_cons.mp hother with heq | hother
          · cases heq
            exact List.lt_irrefl _ hlt
          · exact List.lt_asymm hlt (hfirst _ hother)
        · rintro ⟨position, hposition, hleast⟩
          rcases List.mem_cons.mp hposition with heq | hposition
          · cases heq
            rfl
          · exact absurd List.mem_cons_self (hleast start (hfirst _ hposition) content)
      · have hother : ∀ position other,
            (position, key, other) ∈ (start, name, content) :: entries
              ↔ (position, key, other) ∈ entries := by
          intro position other
          rw [List.mem_cons, or_iff_right]
          rintro heq
          cases heq
          exact hkey rfl
        rw [List.lookup_cons, beq_eq_false_iff_ne.mpr hkey]
        simp only [hother]
        exact ih hrest

end InOrder

/-! ## The blocks of a tree -/

theorem blocks_eq_flatMap (nodes : List Node) : blocks nodes = nodes.flatMap Node.blocks := by
  induction nodes with
  | nil => rw [blocks, List.flatMap_nil]
  | cons node nodes ih => rw [blocks, List.flatMap_cons, ih]

theorem Chain.blocks_eq_flatMap (chain : Chain) :
    chain.blocks = (chain.arms.map (·.2)).flatMap TemplateTree.blocks := by
  cases chain with
  | last _ body => rw [Chain.blocks, Chain.arms, List.map_singleton, List.flatMap_singleton]
  | more _ body next =>
      rw [Chain.blocks, Chain.arms, List.map_cons, List.flatMap_cons, next.blocks_eq_flatMap]

theorem Node.blocks_eq (node : Node) :
    node.blocks = node.block?.toList ++ node.parts.flatMap TemplateTree.blocks := by
  cases node with
  | block _ _ | tag _ _ | loop _ _ _ =>
      rw [Node.blocks, Node.parts, List.flatMap_singleton]
      rfl
  | conditional chain =>
      rw [Node.blocks, Node.parts, chain.blocks_eq_flatMap]
      rfl
  | raw _ | var _ | constant _ | extend _ _ | slot _ =>
      rw [Node.blocks, Node.parts, List.flatMap_nil]
      rfl

theorem blockAt?_eq_among (nodes : List Node) :
    blockAt? nodes = among (fun node position => (node.at? position).bind Node.block?) nodes := by
  funext position
  cases position with
  | nil => rfl
  | cons number position => rw [blockAt?, nodeAt?, Option.bind_assoc, among]

theorem Node.inOrder_blocks (node : Node) :
    InOrder (fun position => (node.at? position).bind Node.block?) node.blocks := by
  induction node using Node.induct_parts with
  | step outer ih =>
      have hpart : ∀ part ∈ outer.parts, InOrder (blockAt? part) (TemplateTree.blocks part) := by
        intro part hpart
        rw [blockAt?_eq_among, TemplateTree.blocks_eq_flatMap]
        exact .flatMap (ih part hpart)
      rw [Node.blocks_eq]
      refine (InOrder.flatMap hpart).root rfl fun number position => ?_
      rw [Node.at?, Option.bind_assoc, among]
      rfl

/-- The walk finds every block once, in the order of the positions. -/
theorem inOrder_blocks (nodes : List Node) : InOrder (blockAt? nodes) (blocks nodes) := by
  rw [blockAt?_eq_among, blocks_eq_flatMap]
  exact .flatMap fun node _ => node.inOrder_blocks

theorem getElem?_firstBlocks_append (xs ys : List Node) (key : String) :
    (firstBlocks (xs ++ ys))[key]? = (firstBlocks xs)[key]?.or (firstBlocks ys)[key]? := by
  rw [getElem?_firstBlocks, getElem?_firstBlocks, getElem?_firstBlocks, blocks_append,
    List.lookup_append]

/-- The content of a key is the body of the first of its blocks, first in the list of all blocks
and first by position; a key without a block has none. The list holds the blocks at the places
that can be rendered, each once, in the order of their positions. Of two trees side by side the
contents of the left one count first. -/
theorem firstBlocks_in_document_order (nodes : List Node) :
    (∀ node, (∃ position, nodeAt? nodes position = some node) ↔ Within node nodes)
      ∧ (∃ entries : List (List Nat × String × List Node), entries.map (·.2) = blocks nodes
        ∧ entries.Pairwise (fun earlier later => earlier.1 < later.1)
        ∧ ∀ position key body, (position, key, body) ∈ entries
          ↔ nodeAt? nodes position = some (.block key body))
      ∧ (∀ key : String, (firstBlocks nodes)[key]? = (blocks nodes).lookup key
        ∧ (key ∈ firstBlocks nodes ↔ key ∈ (blocks nodes).map (·.1))
        ∧ ∀ body, (firstBlocks nodes)[key]? = some body
          ↔ ∃ position, nodeAt? nodes position = some (.block key body)
            ∧ ∀ earlier < position, ∀ other, nodeAt? nodes earlier ≠ some (.block key other))
      ∧ ∀ (xs ys : List Node) (key : String),
        (firstBlocks (xs ++ ys))[key]? = (firstBlocks xs)[key]?.or (firstBlocks ys)[key]? := by
  refine ⟨fun node => exists_nodeAt?_iff, ?_, fun key => ⟨getElem?_firstBlocks nodes key, ?_, ?_⟩,
    getElem?_firstBlocks_append⟩
  · obtain ⟨entries, hvalues, hordered, hat⟩ := inOrder_blocks nodes
    refine ⟨entries, hvalues, hordered, fun position key body => ?_⟩
    rw [hat, blockAt?_eq_some_iff]
  · rw [Std.ExtTreeMap.mem_iff_isSome_getElem?, getElem?_firstBlocks, List.lookup_isSome_iff,
      List.mem_map]
    simp only [beq_iff_eq, eq_comm (a := key)]
  · intro body
    rw [getElem?_firstBlocks, (inOrder_blocks nodes).lookup_eq_some_iff]
    simp only [blockAt?_eq_some_iff, ne_eq]

/-- Three blocks of one key, at several depths, and one for a condition, which is no place. -/
def repeatedBlocks : Template :=
  [.conditional (.more (.block "condition" [])
      [.tag "get" [.block "b" [.block "a" [.raw "inner"]]]]
      (.last (.var "x") [.block "a" [.raw "arm"]])),
    .block "a" [.raw "outer"], .block "b" []]

/-- The block of key `a` that counts is three levels down, in the first arm. -/
theorem firstBlocks_in_document_order_repeated :
    nodeAt? repeatedBlocks [0, 0, 0, 0, 0, 0, 0] = some (.block "a" [.raw "inner"])
      ∧ nodeAt? repeatedBlocks [1] = some (.block "a" [.raw "outer"])
      ∧ [0, 0, 0, 0, 0, 0, 0] < [1]
      ∧ (firstBlocks repeatedBlocks)["a"]? = some [.raw "inner"]
      ∧ "condition" ∉ firstBlocks repeatedBlocks := by
  obtain ⟨-, -, hfirst, -⟩ := firstBlocks_in_document_order repeatedBlocks
  refine ⟨rfl, rfl, by decide, (hfirst "a").1.trans (by decide +kernel), ?_⟩
  rw [(hfirst "condition").2.1]
  decide

end TemplateTree
