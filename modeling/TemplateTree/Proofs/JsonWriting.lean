import TemplateTree.Json.Grammar
import TemplateTree.Json.Printer

/-!
# What is written is JSON text

`write` keeps to the grammar: the text it gives for the data of a tree is a text of that
tree, if the tree is plain. Numbers are left out. They are written as floating-point numbers
print, and to read that back is not to be taken for granted, but no template holds any.
Halves of pairs are left out because data has none.

A character is escaped exactly if it could not stand for itself, and then by something
that means it (`stringText_escape`).
-/

namespace TemplateTree.Json

namespace Tree

mutual

/-- There is no number in the tree, and no half of a pair. -/
def Plain : Tree → Prop
  | .null | .bool _ => True
  | .number _ => False
  | .string pieces => Complete pieces
  | .list items => PlainItems items
  | .object members => PlainMembers members

def PlainItems : List Tree → Prop
  | [] => True
  | item :: items => item.Plain ∧ PlainItems items

def PlainMembers : List (List Piece × Tree) → Prop
  | [] => True
  | (name, tree) :: members => Complete name ∧ tree.Plain ∧ PlainMembers members

end

theorem plainItems_iff (items : List Tree) : PlainItems items ↔ ∀ item ∈ items, item.Plain := by
  induction items with
  | nil =>
      rw [PlainItems]
      exact iff_of_true trivial nofun
  | cons item items ih => rw [PlainItems, ih, List.forall_mem_cons]

theorem plainMembers_iff (members : List (List Piece × Tree)) :
    PlainMembers members ↔ ∀ member ∈ members, Complete member.1 ∧ member.2.Plain := by
  induction members with
  | nil =>
      rw [PlainMembers]
      exact iff_of_true trivial nofun
  | cons member members ih =>
      obtain ⟨name, tree⟩ := member
      rw [PlainMembers, ih, List.forall_mem_cons, and_assoc]

mutual

theorem readable_of_plain {tree : Tree} (h : tree.Plain) : tree.Readable := by
  match tree with
  | .null | .bool _ => rw [Readable]; trivial
  | .number _ => rw [Plain] at h; exact h.elim
  | .string _ => rw [Plain] at h; rw [Readable]; exact h
  | .list items => rw [Plain] at h; rw [Readable]; exact readableItems_of_plain h
  | .object members => rw [Plain] at h; rw [Readable]; exact readableMembers_of_plain h

theorem readableItems_of_plain {items : List Tree} (h : PlainItems items) :
    ReadableItems items := by
  match items with
  | [] => rw [ReadableItems]; trivial
  | item :: items =>
      rw [PlainItems] at h
      rw [ReadableItems]
      exact ⟨readable_of_plain h.1, readableItems_of_plain h.2⟩

theorem readableMembers_of_plain {members : List (List Piece × Tree)}
    (h : PlainMembers members) : ReadableMembers members := by
  match members with
  | [] => rw [ReadableMembers]; trivial
  | (name, tree) :: members =>
      rw [PlainMembers] at h
      rw [ReadableMembers]
      exact ⟨h.1, readable_of_plain h.2.1, readableMembers_of_plain h.2.2⟩

end

end Tree

theorem mem_escapes_of_escapeLetter? {c letter : Char} (h : escapeLetter? c = some letter) :
    (letter, c) ∈ escapes := by
  unfold escapeLetter? at h
  split at h
  all_goals cases h
  all_goals decide

theorem natural?_control {n : Nat} (h : n < 0x20) :
    Text.natural? 16 ['0', '0', Text.hexDigit (n / 16), Text.hexDigit (n % 16)] = some n := by
  have hall : ∀ n < 0x20,
      Text.natural? 16 ['0', '0', Text.hexDigit (n / 16), Text.hexDigit (n % 16)] = some n := by
    decide
  exact hall n h

theorem stringText_escape (c : Char) {pieces : List Piece} {cs : List Char}
    (h : StringText pieces cs) : StringText (.char c :: pieces) (escape c ++ cs) := by
  unfold escape
  split
  · next letter hletter => exact .letter (mem_escapes_of_escapeLetter? hletter) h
  · next hnone =>
      split
      · next hcontrol =>
          have hcode := StringText.code (natural?_control hcontrol) (.inl (by omega)) h
          rw [Char.ofNat_toNat] at hcode
          exact hcode
      · next hcontrol =>
          have hquote : c ≠ '"' := by
            intro hc
            rw [hc] at hnone
            cases hnone
          have hescape : c ≠ '\\' := by
            intro hc
            rw [hc] at hnone
            cases hnone
          exact .plain hquote hescape (Nat.not_lt.mp hcontrol) h

theorem stringText_flatMap_escape (s : String) :
    StringText (pieces s) (s.toList.flatMap escape) := by
  rw [pieces]
  induction s.toList with
  | nil => exact .nil
  | cons c cs ih =>
      rw [List.flatMap_cons]
      exact stringText_escape c ih

theorem stringText_textOf {pieces : List Piece} (h : Complete pieces) :
    StringText pieces ((textOf pieces).toList.flatMap escape) := by
  have htext := stringText_flatMap_escape (textOf pieces)
  rw [h.pieces_textOf] at htext
  exact htext

theorem toList_writeString (s : String) :
    (writeString s).toList = '"' :: (s.toList.flatMap escape ++ ['"']) := by
  simp only [writeString, String.toList_append, String.toList_ofList]
  rfl

theorem paddedText_of_valueText {tree : Tree} {cs : List Char} (h : ValueText tree cs) :
    PaddedText tree cs := by
  have hpadded : PaddedText tree ([] ++ cs ++ []) := .intro nofun h nofun
  rw [List.append_nil] at hpadded
  exact hpadded

theorem toList_writeString_colon (s t : String) :
    (writeString s ++ ":" ++ t).toList = (writeString s).toList ++ ':' :: t.toList := by
  rw [String.toList_append, String.toList_append, List.append_assoc]
  rfl

theorem memberText_of_valueText {name : List Piece} (hname : Complete name) {tree : Tree}
    {cs : List Char} (h : ValueText tree cs) :
    MemberText (name, tree) ((writeString (textOf name)).toList ++ ':' :: cs) := by
  have hmember : MemberText (name, tree)
      ([] ++ '"' :: ((textOf name).toList.flatMap escape ++ '"' :: ([] ++ ':' :: cs))) :=
    .intro nofun (stringText_textOf hname) nofun (paddedText_of_valueText h)
  rw [toList_writeString, List.cons_append, List.append_assoc]
  exact hmember

mutual

theorem valueText_write (tree : Tree) (h : tree.Plain) :
    ValueText tree tree.data.write.toList := by
  match tree with
  | .null => rw [Tree.data, write]; exact .null
  | .bool true => rw [Tree.data, write]; exact .true
  | .bool false => rw [Tree.data, write]; exact .false
  | .number _ => rw [Tree.Plain] at h; exact h.elim
  | .string pieces =>
      rw [Tree.Plain] at h
      rw [Tree.data, write, toList_writeString]
      exact .string (stringText_textOf h)
  | .list items =>
      rw [Tree.Plain] at h
      rw [Tree.data, write, String.toList_append, String.toList_append]
      match items with
      | [] => rw [Tree.dataItems, writeItems]; exact .emptyList nofun
      | item :: items => exact .list (itemsText_writeItems (item :: items) (List.cons_ne_nil _ _) h)
  | .object members =>
      rw [Tree.Plain] at h
      rw [Tree.data, write, String.toList_append, String.toList_append]
      match members with
      | [] => rw [Tree.dataMembers, writeMembers]; exact .emptyObject nofun
      | member :: members =>
          exact .object (membersText_writeMembers (member :: members) (List.cons_ne_nil _ _) h)

theorem itemsText_writeItems (items : List Tree) (hitems : items ≠ [])
    (h : Tree.PlainItems items) :
    ItemsText items (writeItems (Tree.dataItems items)).toList := by
  match items with
  | [item] =>
      rw [Tree.PlainItems] at h
      rw [Tree.dataItems, Tree.dataItems, writeItems]
      exact .last (paddedText_of_valueText (valueText_write item h.1))
  | item :: next :: items =>
      rw [Tree.PlainItems] at h
      rw [Tree.dataItems, Tree.dataItems, writeItems, String.toList_append,
        String.toList_append, List.append_assoc]
      exact .more (paddedText_of_valueText (valueText_write item h.1))
        (itemsText_writeItems (next :: items) (List.cons_ne_nil _ _) h.2)

theorem membersText_writeMembers (members : List (List Piece × Tree)) (hmembers : members ≠ [])
    (h : Tree.PlainMembers members) :
    MembersText members (writeMembers (Tree.dataMembers members)).toList := by
  match members with
  | [(name, tree)] =>
      rw [Tree.PlainMembers] at h
      rw [Tree.dataMembers, Tree.dataMembers, writeMembers, toList_writeString_colon]
      exact .last (memberText_of_valueText h.1 (valueText_write tree h.2.1))
  | (name, tree) :: next :: members =>
      rw [Tree.PlainMembers] at h
      rw [Tree.dataMembers, Tree.dataMembers, writeMembers, String.toList_append,
        String.toList_append, List.append_assoc, toList_writeString_colon]
      exact .more (memberText_of_valueText h.1 (valueText_write tree h.2.1))
        (membersText_writeMembers (next :: members) (List.cons_ne_nil _ _) h.2.2)

end

theorem isText_write {tree : Tree} (h : tree.Plain) : tree.IsText tree.data.write :=
  paddedText_of_valueText (valueText_write tree h)

end TemplateTree.Json
