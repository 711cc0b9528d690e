import TemplateTree.Yaml.Scalar
import TemplateTree.Yaml.Token

/-!
# YAML text as tokens

`tokens?` splits a text into tokens. Indentation shows as tokens of its own:
one where a block of entries or of members begins, `blockEnd` where it ends.

That something is a key is only known at the colon behind it. So wherever a key
may begin, the place is noted (`KeyMark`), and at the colon the tokens that
should have come before the key are put in there. A key may not be longer than
a line, nor than 1024 bytes; where it has to be a key, because it begins a
line of a block, anything else is an error.
-/

namespace TemplateTree.Yaml

/-- A place where a key may begin. -/
structure KeyMark where
  /-- Whether there must be a key. -/
  required : Bool
  /-- How many tokens come before it. -/
  token : Nat
  line : Nat
  column : Nat
  index : Nat

/-- The state of the splitting. -/
structure Scan where
  cursor : Cursor
  tokens : Array Token := #[]
  /-- The indentation of the innermost block; -1 outside all blocks. -/
  indent : Int := -1
  /-- The indentation of the blocks around it, innermost first. -/
  outer : List Int := []
  /-- Whether a key may begin here. -/
  keyAllowed : Bool := true
  /-- The noted places: one for the innermost brackets, then one for each pair
  of brackets around them, at last one outside all brackets. -/
  mark : Option KeyMark := none
  outerMarks : List (Option KeyMark) := []

namespace Scan

/-- Whether there are brackets around this place. -/
def inFlow (s : Scan) : Bool := !s.outerMarks.isEmpty

def emit (s : Scan) (t : Token) : Scan := { s with tokens := s.tokens.push t }

def skip (s : Scan) (n : Nat) : Scan := { s with cursor := s.cursor.skip n }

/-- Closes the blocks that are indented more than `column`. -/
def unroll (s : Scan) (column : Int) : Scan :=
  if s.inFlow then s else go s s.outer
where
  go (s : Scan) : List Int → Scan
    | [] => s
    | next :: outer =>
        if column < s.indent then
          go { s with tokens := s.tokens.push .blockEnd, indent := next, outer } outer
        else s

/-- Opens a block at a column, if none is open there. Its token is put in
behind the first `place` tokens. -/
def roll (s : Scan) (column : Nat) (place : Nat) (t : Token) : Scan :=
  if s.inFlow || (column : Int) ≤ s.indent then s
  else
    { s with
      tokens := s.tokens.insertIdxIfInBounds place t
      indent := column
      outer := s.indent :: s.outer }

/-- Forgets the noted place, which must not be that of a required key. -/
def dropMark? (s : Scan) : Option Scan :=
  if s.mark.any (·.required) then none else some { s with mark := none }

/-- Notes this place, if a key may begin here. -/
def noteMark? (s : Scan) : Option Scan :=
  if s.keyAllowed then do
    let s ← s.dropMark?
    let c := s.cursor
    let required := !s.inFlow && s.indent == (c.column : Int)
    return { s with mark := some ⟨required, s.tokens.size, c.line, c.column, c.index⟩ }
  else some s

/-- Forgets noted places that are too far back for a key. -/
def dropStaleMarks? (s : Scan) : Option Scan := do
  let keep (mark : Option KeyMark) : Option (Option KeyMark) :=
    match mark with
    | none => some none
    | some m =>
        if m.line < s.cursor.line || m.index + 1024 < s.cursor.index then
          if m.required then none else some none
        else some (some m)
  return { s with mark := ← keep s.mark, outerMarks := ← s.outerMarks.mapM keep }

/-- Passes over blanks, comments and line breaks. Behind a line break outside
brackets a key may begin, and there a tab is no blank. -/
def toNextToken (s : Scan) : Scan :=
  go s (s.cursor.rest.length + 1)
where
  go (s : Scan) : Nat → Scan
    | 0 => s
    | n + 1 =>
        let c := s.cursor
        let c := if c.column == 0 && c.sees '\ufeff' then c.next else c
        let tabs := s.inFlow || !s.keyAllowed
        let c := (c.span fun char => char == ' ' || (tabs && char == '\t')).2.skipComment
        match c.peek? with
        | some char =>
            if isBreak char then
              go { s with cursor := c.next, keyAllowed := s.keyAllowed || !s.inFlow } n
            else { s with cursor := c }
        | none => { s with cursor := c }

/-- A token that ends all blocks. -/
def atMargin? (s : Scan) : Option Scan := do
  let s ← (s.unroll (-1)).dropMark?
  return { s with keyAllowed := false }

/-- Opening brackets. -/
def openFlow? (s : Scan) (t : Token) : Option Scan := do
  let s ← s.noteMark?
  return { s.emit t with mark := none, outerMarks := s.mark :: s.outerMarks, keyAllowed := true }.skip 1

/-- Closing brackets, which may lack their opening ones. -/
def closeFlow? (s : Scan) (t : Token) : Option Scan := do
  let s ← s.dropMark?
  let s :=
    match s.outerMarks with
    | [] => s
    | mark :: outerMarks => { s with mark, outerMarks }
  return { s.emit t with keyAllowed := false }.skip 1

/-- The sign of an entry or of a key, which may open a block. -/
def openEntry? (s : Scan) (block t : Token) (keyAllowed : Bool) : Option Scan := do
  if !s.inFlow && !s.keyAllowed then none
  let s ← (s.roll s.cursor.column s.tokens.size block).dropMark?
  return { s.emit t with keyAllowed }.skip 1

/-- The colon between key and value, with the tokens that belong before the
key. -/
def value? (s : Scan) : Option Scan :=
  match s.mark with
  | some m =>
      let s := { s with tokens := s.tokens.insertIdxIfInBounds m.token .key }
      let s := s.roll m.column m.token .blockMappingStart
      some ({ s.emit .value with mark := none, keyAllowed := false }.skip 1)
  | none => do
      if !s.inFlow && !s.keyAllowed then none
      let s := s.roll s.cursor.column s.tokens.size .blockMappingStart
      return { s.emit .value with keyAllowed := !s.inFlow }.skip 1

/-- A token that a key can begin with, or be. -/
def simple? (s : Scan) (scan : Cursor → Option (Token × Cursor)) : Option Scan := do
  let s ← s.noteMark?
  let (t, cursor) ← scan s.cursor
  return { s.emit t with cursor, keyAllowed := false }

def startsPlain (s : Scan) : Bool :=
  let c := s.cursor
  match c.peek? with
  | none => false
  | some char =>
      if char == '-' then !(c.peekAt? 1).any isBlank
      else if char == '?' || char == ':' then !s.inFlow && !c.endsAt 1
      else !c.endsAt 0 && !",[]\x7b\x7d#&*!|>'\"%@\x60".toList.contains char

def step? (s : Scan) : Option Scan :=
  let c := s.cursor
  let atSign := s.inFlow || c.endsAt 1
  match c.peek? with
  | none => none
  | some char =>
      if c.column == 0 && char == '%' then do
        let s ← s.atMargin?
        let (t, cursor) ← Token.scanDirective? s.cursor
        return { s.emit t with cursor }
      else if c.atMarker '-' then return ((← s.atMargin?).emit .documentStart).skip 3
      else if c.atMarker '.' then return ((← s.atMargin?).emit .documentEnd).skip 3
      else if char == '[' then s.openFlow? .flowSequenceStart
      else if char == '\x7b' then s.openFlow? .flowMappingStart
      else if char == ']' then s.closeFlow? .flowSequenceEnd
      else if char == '\x7d' then s.closeFlow? .flowMappingEnd
      else if char == ',' then do
        let s ← s.dropMark?
        return { s.emit .flowEntry with keyAllowed := true }.skip 1
      else if char == '-' && c.endsAt 1 then s.openEntry? .blockSequenceStart .blockEntry true
      else if char == '?' && atSign then s.openEntry? .blockMappingStart .key !s.inFlow
      else if char == ':' && atSign then s.value?
      else if char == '*' then s.simple? fun c => do
        let (name, c) ← Token.scanAnchorName? c.next
        return (.alias name, c)
      else if char == '&' then s.simple? fun c => do
        let (name, c) ← Token.scanAnchorName? c.next
        return (.anchor name, c)
      else if char == '!' then s.simple? (Token.scanTag? s.inFlow)
      else if (char == '|' || char == '>') && !s.inFlow then do
        let s ← s.dropMark?
        let (text, cursor) ← scanBlock? (char == '|') s.indent c.next
        return { s.emit (.scalar (String.ofList text) false) with cursor, keyAllowed := true }
      else if char == '\'' || char == '"' then s.simple? fun c => do
        let (text, c) ← scanQuoted? (char == '"') c.next
        return (.scalar (String.ofList text) false, c)
      else if s.startsPlain then do
        let s ← s.noteMark?
        let (text, cursor, broken) ← scanPlain? s.inFlow (s.indent + 1) c
        return { s.emit (.scalar (String.ofList text) true) with cursor, keyAllowed := broken }
      else none

/-- All tokens from here on. -/
def run? (s : Scan) : Nat → Option (List Token)
  | 0 => none
  | n + 1 => do
      let s ← s.toNextToken.dropStaleMarks?
      if s.cursor.rest.isEmpty then
        let s ← (s.unroll (-1)).dropMark?
        return s.tokens.toList
      else ((s.unroll s.cursor.column).step?).bind fun s => s.run? n

end Scan

/-- The tokens of a text, or nothing if there is something that is none. -/
def tokens? (text : String) : Option (List Token) :=
  if text.toList.all isAllowed then
    let chars := unifyBreaks text.toList
    { cursor := { rest := chars } : Scan }.run? (chars.length + 1)
  else none

end TemplateTree.Yaml
