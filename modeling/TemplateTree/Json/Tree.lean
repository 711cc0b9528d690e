import TemplateTree.Json.Basic

/-!
# JSON data as it is written

What a text writes is a tree before it is data. A number is the figures that stand there.
A string is made of characters and, where a code is half of a pair whose other half is
missing, of halves; so is the name of a member.

Not every tree is data. `Readable` excludes numbers that are too large for a floating-point
number, as it is reckoned from their figures, and strings and names with a half in them.
`Tree.data` is the data that a readable tree means.
-/

namespace TemplateTree.Json

/-! ## Numbers -/

/-- A number as it is written, its digits first digit first. -/
structure Figures where
  negative : Bool
  whole : List Nat
  fraction : List Nat
  powerNegative : Bool
  power : List Nat
  deriving DecidableEq, Repr

/-- The natural number with the given digits. -/
def ofDigits (digits : List Nat) : Nat :=
  digits.foldl (fun n d => n * 10 + d) 0

namespace Figures

/-- The number that is written, without its sign. -/
def magnitude (figures : Figures) : Rat :=
  let digits : Rat := ofDigits (figures.whole ++ figures.fraction)
  let behind := figures.fraction.length
  if figures.powerNegative then digits / 10 ^ (behind + ofDigits figures.power)
  else digits * 10 ^ ofDigits figures.power / 10 ^ behind

def numeral (figures : Figures) : Numeral where
  negative := figures.negative
  whole := figures.whole.reverse
  fraction := figures.fraction.reverse
  powerNegative := figures.powerNegative
  power := figures.power.reverse
  stage := .whole

end Figures

/-! ## Strings -/

/-- What a string is made of. -/
inductive Piece where
  | char (c : Char)
  /-- Half of a pair, without the other half. -/
  | half (unit : Nat)
  deriving DecidableEq, Repr

def Piece.char? : Piece → Option Char
  | .char c => some c
  | .half _ => none

/-- What a text is made of. -/
def pieces (s : String) : List Piece :=
  s.toList.map .char

/-- The text that is made of the pieces, if no half is among them. -/
def textOf (pieces : List Piece) : String :=
  String.ofList (pieces.filterMap Piece.char?)

/-- No half of a pair stands alone. -/
def Complete (pieces : List Piece) : Prop :=
  ∀ piece ∈ pieces, piece.char?.isSome = true

instance (pieces : List Piece) : Decidable (Complete pieces) :=
  inferInstanceAs (Decidable (∀ piece ∈ pieces, _))

@[simp] theorem textOf_pieces (s : String) : textOf (pieces s) = s := by
  have hchars : s.toList.filterMap (Piece.char? ∘ Piece.char) = s.toList :=
    List.filterMap_some
  rw [textOf, pieces, List.filterMap_map, hchars, String.ofList_toList]

@[simp] theorem complete_cons_char {c : Char} {pieces : List Piece} :
    Complete (.char c :: pieces) ↔ Complete pieces :=
  ⟨fun h => (List.forall_mem_cons.mp h).2, fun h => List.forall_mem_cons.mpr ⟨rfl, h⟩⟩

theorem not_complete_cons_half (unit : Nat) (pieces : List Piece) :
    ¬ Complete (.half unit :: pieces) :=
  fun h => nomatch (List.forall_mem_cons.mp h).1

@[simp] theorem complete_pieces (s : String) : Complete (pieces s) := by
  intro piece hpiece
  obtain ⟨c, -, rfl⟩ := List.mem_map.mp hpiece
  rfl

/-- Complete pieces are those of their text. -/
theorem Complete.pieces_textOf {ps : List Piece} (h : Complete ps) : pieces (textOf ps) = ps := by
  rw [textOf, pieces, String.toList_ofList]
  induction ps with
  | nil => rfl
  | cons piece ps ih =>
      cases piece with
      | half unit => exact absurd h (not_complete_cons_half unit ps)
      | char c => exact congrArg (Piece.char c :: ·) (ih (complete_cons_char.mp h))

theorem pieces_inj {s t : String} (h : pieces s = pieces t) : s = t := by
  rw [← textOf_pieces s, h, textOf_pieces]

/-! ## Trees -/

inductive Tree where
  | null
  | bool (b : Bool)
  | number (figures : Figures)
  | string (pieces : List Piece)
  | list (items : List Tree)
  | object (members : List (List Piece × Tree))

instance : Inhabited Tree := ⟨.null⟩

namespace Tree

mutual

/-- How deep lists and objects are nested. -/
def depth : Tree → Nat
  | .list items => depthItems items + 1
  | .object members => depthMembers members + 1
  | .null | .bool _ | .number _ | .string _ => 0

def depthItems : List Tree → Nat
  | [] => 0
  | item :: items => max item.depth (depthItems items)

def depthMembers : List (List Piece × Tree) → Nat
  | [] => 0
  | (_, tree) :: members => max tree.depth (depthMembers members)

end

mutual

/-- Every number in the tree is in range, and every string and name is complete. -/
def Readable : Tree → Prop
  | .null | .bool _ => True
  | .number figures => figures.numeral.InRange
  | .string pieces => Complete pieces
  | .list items => ReadableItems items
  | .object members => ReadableMembers members

def ReadableItems : List Tree → Prop
  | [] => True
  | item :: items => item.Readable ∧ ReadableItems items

def ReadableMembers : List (List Piece × Tree) → Prop
  | [] => True
  | (name, tree) :: members => Complete name ∧ tree.Readable ∧ ReadableMembers members

end

mutual

/-- The data that the tree means, if it is readable. -/
def data : Tree → Json
  | .null => .null
  | .bool b => .bool b
  | .number figures => .number figures.numeral.value
  | .string pieces => .string (textOf pieces)
  | .list items => .list (dataItems items)
  | .object members => .object (dataMembers members)

def dataItems : List Tree → List Json
  | [] => []
  | item :: items => item.data :: dataItems items

def dataMembers : List (List Piece × Tree) → List (String × Json)
  | [] => []
  | (name, tree) :: members => (textOf name, tree.data) :: dataMembers members

end

mutual

theorem depth_data (tree : Tree) : tree.data.depth = tree.depth := by
  match tree with
  | .null | .bool _ | .number _ | .string _ => rw [data, depth, Json.depth]
  | .list items => rw [data, depth, Json.depth, depthItems_dataItems items]
  | .object members => rw [data, depth, Json.depth, depthMembers_dataMembers members]

theorem depthItems_dataItems (items : List Tree) :
    Json.depthItems (dataItems items) = depthItems items := by
  match items with
  | [] => rw [dataItems, depthItems, Json.depthItems]
  | item :: items =>
      rw [dataItems, depthItems, Json.depthItems, depth_data item, depthItems_dataItems items]

theorem depthMembers_dataMembers (members : List (List Piece × Tree)) :
    Json.depthMembers (dataMembers members) = depthMembers members := by
  match members with
  | [] => rw [dataMembers, depthMembers, Json.depthMembers]
  | (_, tree) :: members =>
      rw [dataMembers, depthMembers, Json.depthMembers, depth_data tree,
        depthMembers_dataMembers members]

end

theorem readableItems_iff (items : List Tree) :
    ReadableItems items ↔ ∀ item ∈ items, item.Readable := by
  induction items with
  | nil =>
      rw [ReadableItems]
      exact iff_of_true trivial nofun
  | cons item items ih => rw [ReadableItems, ih, List.forall_mem_cons]

theorem readableMembers_iff (members : List (List Piece × Tree)) :
    ReadableMembers members ↔ ∀ member ∈ members, Complete member.1 ∧ member.2.Readable := by
  induction members with
  | nil =>
      rw [ReadableMembers]
      exact iff_of_true trivial nofun
  | cons member members ih =>
      obtain ⟨name, tree⟩ := member
      rw [ReadableMembers, ih, List.forall_mem_cons, and_assoc]

theorem dataItems_eq_map (items : List Tree) : dataItems items = items.map data := by
  induction items with
  | nil => rw [dataItems, List.map_nil]
  | cons item items ih => rw [dataItems, ih, List.map_cons]

theorem dataMembers_eq_map (members : List (List Piece × Tree)) :
    dataMembers members = members.map fun member => (textOf member.1, member.2.data) := by
  induction members with
  | nil => rw [dataMembers, List.map_nil]
  | cons member members ih =>
      obtain ⟨name, tree⟩ := member
      rw [dataMembers, ih, List.map_cons]

end Tree

end TemplateTree.Json
