import TemplateTree.Json.Basic
import TemplateTree.SortedPairs

/-!
# Writing JSON text

`write` is the one written form of JSON data: no blanks, members in the order
in which they are kept. In a string a quotation mark, a backslash and the
controls below U+0020 are escaped, five of these by a letter and the others by
their code; every other character stands for itself.
-/

namespace TemplateTree.Json

/-- The letter that stands for a character behind a backslash. -/
def escapeLetter? : Char → Option Char
  | '"' => some '"'
  | '\\' => some '\\'
  | '\x08' => some 'b'
  | '\x0c' => some 'f'
  | '\n' => some 'n'
  | '\r' => some 'r'
  | '\t' => some 't'
  | _ => none

/-- A character as part of a string. -/
def escape (c : Char) : List Char :=
  match escapeLetter? c with
  | some letter => ['\\', letter]
  | none =>
      if c.toNat < 0x20 then
        ['\\', 'u', '0', '0', Text.hexDigit (c.toNat / 16), Text.hexDigit (c.toNat % 16)]
      else [c]

def writeString (s : String) : String :=
  "\"" ++ String.ofList (s.toList.flatMap escape) ++ "\""

mutual

def write : Json → String
  | .null => "null"
  | .bool true => "true"
  | .bool false => "false"
  | .number n => n.write numberLayout
  | .string s => writeString s
  | .list items => "[" ++ writeItems items ++ "]"
  | .object members => "\x7b" ++ writeMembers members ++ "\x7d"

/-- The elements of a list, with commas between them. -/
def writeItems : List Json → String
  | [] => ""
  | [item] => item.write
  | item :: next :: items => item.write ++ "," ++ writeItems (next :: items)

def writeMembers : List (String × Json) → String
  | [] => ""
  | [(name, data)] => writeString name ++ ":" ++ data.write
  | (name, data) :: next :: members =>
      writeString name ++ ":" ++ data.write ++ "," ++ writeMembers (next :: members)

end

mutual

/-- The data with the members of every object sorted by name; of several
members with one name the last stays. -/
def sorted : Json → Json
  | .list items => .list (sortedItems items)
  | .object members => .object (sortByKey (sortedMembers members))
  | .null => .null
  | .bool b => .bool b
  | .number n => .number n
  | .string s => .string s

def sortedItems : List Json → List Json
  | [] => []
  | item :: items => item.sorted :: sortedItems items

def sortedMembers : List (String × Json) → List (String × Json)
  | [] => []
  | (name, data) :: members => (name, data.sorted) :: sortedMembers members

end

end TemplateTree.Json
