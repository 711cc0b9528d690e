/-!
# A place in YAML text

A `Cursor` is what is left of a text, with the line and the column where it
begins, both counted from zero. Line breaks are told apart only as far as a
scalar can hold them: `unifyBreaks` turns the usual ones into one character, so
that the two separators U+2028 and U+2029 are the only others.
-/

namespace TemplateTree.Yaml

/-- The characters that a text may hold: no controls but tab and line breaks,
no halves of pairs, no non-characters. -/
def isAllowed (c : Char) : Bool :=
  let n := c.toNat
  n == 0x09 || n == 0x0A || n == 0x0D || (0x20 ≤ n && n ≤ 0x7E) || n == 0x85
    || (0xA0 ≤ n && n ≤ 0xD7FF) || (0xE000 ≤ n && n ≤ 0xFFFD) || 0x10000 ≤ n

/-- The text with one character for each line break. -/
def unifyBreaks : List Char → List Char
  | '\r' :: '\n' :: rest => '\n' :: unifyBreaks rest
  | '\r' :: rest | '\u0085' :: rest => '\n' :: unifyBreaks rest
  | c :: rest => c :: unifyBreaks rest
  | [] => []

def isBreak (c : Char) : Bool :=
  c == '\n' || c == '\u2028' || c == '\u2029'

def isBlank (c : Char) : Bool :=
  c == ' ' || c == '\t'

/-- A letter, a digit, `-` or `_`, of ASCII only. -/
def isWord (c : Char) : Bool :=
  c.isAlphanum || c == '-' || c == '_'

/-- What is left of a text, and where that is. -/
structure Cursor where
  rest : List Char
  line : Nat := 0
  column : Nat := 0
  /-- The number of bytes before it, where a line break counts as one. -/
  index : Nat := 0
  deriving Repr

namespace Cursor

def peek? (c : Cursor) : Option Char := c.rest.head?

def peekAt? (c : Cursor) (n : Nat) : Option Char := c.rest[n]?

def sees (c : Cursor) (char : Char) : Bool := c.peek? == some char

/-- Whether there is a blank, a line break or the end `n` places further on. -/
def endsAt (c : Cursor) (n : Nat) : Bool :=
  match c.peekAt? n with
  | none => true
  | some char => isBlank char || isBreak char

/-- Whether there is a line break or the end here. -/
def atLineEnd (c : Cursor) : Bool :=
  match c.peek? with
  | none => true
  | some char => isBreak char

def next (c : Cursor) : Cursor :=
  match c.rest with
  | [] => c
  | char :: rest =>
      if isBreak char then ⟨rest, c.line + 1, 0, c.index + 1⟩
      else ⟨rest, c.line, c.column + 1, c.index + char.utf8Size⟩

def skip (c : Cursor) : Nat → Cursor
  | 0 => c
  | n + 1 => c.next.skip n

/-- The longest run of characters with a property, none of them a line break,
and the place behind it. -/
def span (c : Cursor) (p : Char → Bool) : List Char × Cursor :=
  let run := c.rest.takeWhile fun char => p char && !isBreak char
  (run, c.skip run.length)

def skipBlanks (c : Cursor) : Cursor :=
  (c.span isBlank).2

def skipComment (c : Cursor) : Cursor :=
  if c.sees '#' then (c.span fun _ => true).2 else c

/-- Whether a line with a document marker begins here: three times the given
character, then a blank, a line break or the end. -/
def atMarker (c : Cursor) (char : Char) : Bool :=
  c.column == 0 && c.sees char && c.peekAt? 1 == some char && c.peekAt? 2 == some char
    && c.endsAt 3

def atDocumentMarker (c : Cursor) : Bool :=
  c.atMarker '-' || c.atMarker '.'

end Cursor

end TemplateTree.Yaml
