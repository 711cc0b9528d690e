import TemplateTree.Text.Digit
import TemplateTree.Yaml.Cursor

/-!
# The text of YAML scalars

A scalar is written plainly, between quotation marks, or as a block. In the
first two a single line break stands for a space, and of several line breaks
the first does not count (`foldBreaks`); blanks around them are dropped. In a
block the lines are kept, or folded likewise where neither of two lines begins
with a blank.

Each function starts at the place of the scalar and gives its text with the
place behind it, or nothing if the scalar is malformed.
-/

namespace TemplateTree.Yaml

/-- Text with the place behind it. -/
abbrev Scanned := List Char × Cursor

/-- What line breaks inside a scalar stand for. -/
def foldBreaks : List Char → List Char
  | ['\n'] => [' ']
  | '\n' :: breaks => breaks
  | breaks => breaks

/-- Blanks and line breaks inside a scalar. -/
structure Gap where
  /-- The blanks, if there is no line break. -/
  blanks : List Char
  /-- The line breaks. -/
  breaks : List Char
  /-- Whether there is a tab before a column below the given one, behind a line
  break. -/
  tabIndented : Bool

/-- The blanks and line breaks that begin here, and the place behind them.
`broken` says that there was a line break before. -/
def gap (indent : Int) (c : Cursor) (broken : Bool) : Gap × Cursor :=
  go ⟨[], [], false⟩ broken c c.rest.length
where
  go (g : Gap) (broken : Bool) (c : Cursor) : Nat → Gap × Cursor
    | 0 => (g, c)
    | n + 1 =>
        match c.peek? with
        | none => (g, c)
        | some char =>
            if isBreak char then
              go { g with blanks := [], breaks := g.breaks ++ [char] } true c.next n
            else if isBlank char then
              if broken then
                let tab := char == '\t' && c.column < indent
                go { g with tabIndented := g.tabIndented || tab } broken c.next n
              else go { g with blanks := g.blanks ++ [char] } broken c.next n
            else (g, c)

/-! ### Quotation marks -/

/-- The character with a given code point, if there is one. -/
def charOfCode? (n : Nat) : Option Char :=
  if n < 0xD800 ∨ (0xDFFF < n ∧ n < 0x110000) then some (Char.ofNat n) else none

/-- The character that a letter means behind a backslash. -/
def unescape? : Char → Option Char
  | '0' => some '\x00'
  | 'a' => some '\x07'
  | 'b' => some '\x08'
  | 't' | '\t' => some '\t'
  | 'n' => some '\n'
  | 'v' => some '\x0b'
  | 'f' => some '\x0c'
  | 'r' => some '\r'
  | 'e' => some '\x1b'
  | ' ' => some ' '
  | '"' => some '"'
  | '/' => some '/'
  | '\\' => some '\\'
  | 'N' => some '\u0085'
  | '_' => some '\u00a0'
  | 'L' => some '\u2028'
  | 'P' => some '\u2029'
  | _ => none

/-- The number of digits of the code behind a backslash and this letter. -/
def codeLength? : Char → Option Nat
  | 'x' => some 2
  | 'u' => some 4
  | 'U' => some 8
  | _ => none

/-- The character that an escape means, at the place behind the backslash. -/
def scanEscape? (c : Cursor) : Option (Char × Cursor) := do
  let letter ← c.peek?
  match codeLength? letter with
  | none => return (← unescape? letter, c.next)
  | some length =>
      let digits := c.next.rest.take length
      if digits.length < length then none
      else return (← charOfCode? (← Text.natural? 16 digits), c.skip (length + 1))

/-- The text between quotation marks, at the place behind the first one. -/
def scanQuoted? (double : Bool) (c : Cursor) : Option Scanned :=
  go [] c (c.rest.length + 1)
where
  go (read : List Char) (c : Cursor) : Nat → Option Scanned
    | 0 => none
    | n + 1 => do
        if c.atDocumentMarker then none
        let char ← c.peek?
        if isBlank char || isBreak char then
          let (g, c) := gap 0 c false
          let text := if g.breaks.isEmpty then g.blanks else foldBreaks g.breaks
          go (text.reverse ++ read) c n
        else if double then
          if char == '"' then return (read.reverse, c.next)
          else if char == '\\' then
            if (c.peekAt? 1).any isBreak then
              let (g, c) := gap 0 (c.skip 2) true
              go (g.breaks.reverse ++ read) c n
            else
              let (meant, c) ← scanEscape? c.next
              go (meant :: read) c n
          else go (char :: read) c.next n
        else if char == '\'' then
          if c.peekAt? 1 == some '\'' then go ('\'' :: read) (c.skip 2) n
          else return (read.reverse, c.next)
        else go (char :: read) c.next n

/-! ### Plain scalars -/

/-- Whether a plain scalar ends in front of what is here. In brackets a colon
must not stand before another indicator. -/
def plainEnds? (inFlow : Bool) (c : Cursor) : Option Bool :=
  match c.peek? with
  | none => some true
  | some char =>
      if char == ':' then
        if inFlow && (c.peekAt? 1).any (",?[]\x7b\x7d".toList.contains ·) then none
        else some (c.endsAt 1)
      else some (isBlank char || isBreak char || (inFlow && ",[]\x7b\x7d".toList.contains char))

/-- The characters of a plain scalar up to the next blank, line break or end. -/
def scanPlainRun? (inFlow : Bool) (c : Cursor) : Option Scanned :=
  go [] c c.rest.length
where
  go (read : List Char) (c : Cursor) : Nat → Option Scanned
    | 0 => some (read.reverse, c)
    | n + 1 => do
        if ← plainEnds? inFlow c then return (read.reverse, c)
        else go ((← c.peek?) :: read) c.next n

/-- The text of a plain scalar that begins here, the place behind it and behind
blanks and line breaks that follow, and whether there are line breaks among
these. A scalar outside brackets ends before a line that is indented less than
`indent`. -/
def scanPlain? (inFlow : Bool) (indent : Int) (c : Cursor) : Option (List Char × Cursor × Bool) :=
  go [] ⟨[], [], false⟩ c (c.rest.length + 1)
where
  go (read : List Char) (before : Gap) (c : Cursor) :
      Nat → Option (List Char × Cursor × Bool)
    | 0 => none
    | n + 1 => do
        if c.atDocumentMarker || c.sees '#' then
          return (read.reverse, c, !before.breaks.isEmpty)
        let (run, c) ← scanPlainRun? inFlow c
        if run.isEmpty then return (read.reverse, c, !before.breaks.isEmpty)
        let join := if before.breaks.isEmpty then before.blanks else foldBreaks before.breaks
        let read := (join ++ run).reverse ++ read
        let (g, after) := gap indent c false
        if g.tabIndented then none
        if after.index == c.index then return (read.reverse, c, false)
        if !inFlow && after.column < indent then
          return (read.reverse, after, !g.breaks.isEmpty)
        go read g after n

/-! ### Blocks -/

/-- What happens to the line breaks at the end of a block. -/
inductive Chomping where
  | strip | clip | keep
  deriving DecidableEq, Repr

/-- The signs behind the indicator of a block: what happens at its end, and by
how much it is indented, if that is told. -/
def scanBlockHeader? (c : Cursor) : Option (Chomping × Option Nat × Cursor) := do
  let (chomping?, c) := sign c
  let (increment?, c) ← digit? c
  match chomping? with
  | some chomping => return (chomping, increment?, c)
  | none =>
      let (chomping?, c) := sign c
      return (chomping?.getD .clip, increment?, c)
where
  sign (c : Cursor) : Option Chomping × Cursor :=
    if c.sees '+' then (some .keep, c.next)
    else if c.sees '-' then (some .strip, c.next)
    else (none, c)
  digit? (c : Cursor) : Option (Option Nat × Cursor) :=
    match c.peek? with
    | none => some (none, c)
    | some char =>
        if char == '0' then none
        else if char.isDigit then some (some (char.toNat - '0'.toNat), c.next)
        else some (none, c)

/-- The empty lines that begin here, as line breaks; the indentation of the
block, which the first line that is not empty sets if it is not known; and the
place where the next line's text begins. -/
def scanBlockBreaks? (parent : Int) (indent? : Option Nat) (c : Cursor) :
    Option (List Char × Nat × Cursor) :=
  go [] 0 c (c.rest.length + 1)
where
  go (breaks : List Char) (widest : Nat) (c : Cursor) : Nat → Option (List Char × Nat × Cursor)
    | 0 => none
    | n + 1 =>
        let c := skipSpaces c c.rest.length
        let widest := max widest c.column
        if c.sees '\t' && (indent?.all (c.column < ·)) then none
        else
          match c.peek? with
          | some char =>
              if isBreak char then go (breaks ++ [char]) widest c.next n
              else done breaks widest c
          | none => done breaks widest c
  skipSpaces (c : Cursor) : Nat → Cursor
    | 0 => c
    | n + 1 =>
        if c.sees ' ' && (indent?.all (c.column < ·)) then skipSpaces c.next n else c
  done (breaks : List Char) (widest : Nat) (c : Cursor) : Option (List Char × Nat × Cursor) :=
    some (breaks, indent?.getD (max widest (max (parent + 1).toNat 1)), c)

/-- The text of a block, at the place behind its indicator; `parent` is the
indentation of what the block is part of. -/
def scanBlock? (literal : Bool) (parent : Int) (c : Cursor) : Option Scanned := do
  let (chomping, increment?, c) ← scanBlockHeader? c
  let c := c.skipBlanks.skipComment
  if !c.atLineEnd then none
  let c := c.next
  let indent? := increment?.map fun increment =>
    if 0 ≤ parent then parent.toNat + increment else increment
  let (breaks, indent, c) ← scanBlockBreaks? parent indent? c
  go chomping indent [] [] breaks false c (c.rest.length + 1)
where
  /-- Lines of the block. `read` is the text so far, last character first,
  `leading` the line break behind the last line that was not empty, `trailing`
  those of the empty lines since, and `blankBefore` says whether that last line
  began with a blank. -/
  go (chomping : Chomping) (indent : Nat) (read leading trailing : List Char)
      (blankBefore : Bool) (c : Cursor) : Nat → Option Scanned
    | 0 => none
    | n + 1 => do
        if c.column == indent && c.peek?.isSome then
          let blankHere := c.peek?.any isBlank
          let fold := !literal && leading == ['\n'] && !blankBefore && !blankHere
          let join := if !fold then leading else if trailing.isEmpty then [' '] else []
          let (line, c) := c.span fun _ => true
          let read := (join ++ trailing ++ line).reverse ++ read
          let leading := c.rest.take 1
          let (breaks, _, c) ← scanBlockBreaks? parent (some indent) c.next
          go chomping indent read leading breaks blankHere c n
        else
          let breaks :=
            match chomping with
            | .strip => []
            | .clip => leading
            | .keep => leading ++ trailing
          return (read.reverse ++ breaks, c)

end TemplateTree.Yaml
