import TemplateTree.Text.Digit
import TemplateTree.Yaml.Cursor
import TemplateTree.Yaml.TagName

/-!
# The tokens of YAML text

The kinds of token, and those that carry a text of their own besides scalars:
directives, anchors and tags. Each function starts at the place of the token
and gives it with the place behind it, or nothing if it is malformed.
-/

namespace TemplateTree.Yaml

inductive Token where
  | versionDirective (major minor : Nat)
  | tagDirective (handle : String) (replacement : TagName)
  | documentStart | documentEnd
  | blockSequenceStart | blockMappingStart | blockEnd
  | flowSequenceStart | flowSequenceEnd | flowMappingStart | flowMappingEnd
  | blockEntry | flowEntry | key | value
  | alias (name : String)
  | anchor (name : String)
  | tag (handle : String) (suffix : TagName)
  | scalar (text : String) (plain : Bool)
  deriving DecidableEq, Repr

namespace Token

/-- At least one character of a name. -/
def scanName? (c : Cursor) : Option (String × Cursor) :=
  let (name, c) := c.span isWord
  if name.isEmpty then none else some (String.ofList name, c)

/-- The handle of a tag: an exclamation mark, or two with a name or nothing
between them. Elsewhere than in a directive the second one may be missing. -/
def scanHandle? (inDirective : Bool) (c : Cursor) : Option (String × Cursor) :=
  if !c.sees '!' then none
  else
    let (name, c) := c.next.span isWord
    let handle := "!" ++ String.ofList name
    if c.sees '!' then some (handle ++ "!", c.next)
    else if inDirective && handle != "!" then none
    else some (handle, c)

/-- Whether a character can be part of a tag. -/
def isTagChar (verbatim : Bool) (c : Char) : Bool :=
  isWord c || ";/?:@&=+$.%!~*'()".toList.contains c || (verbatim && ",[]".toList.contains c)

/-- A byte written as a percent sign with two digits. -/
def scanByte? (c : Cursor) : Option (Nat × Cursor) := do
  if !c.sees '%' then none
  let digits := c.next.rest.take 2
  if digits.length < 2 then none
  return (← Text.natural? 16 digits, c.skip 3)

/-- How many bytes follow the first byte of an encoded character. -/
def followers? (first : Nat) : Option Nat :=
  if first < 0x80 then some 0
  else if 0xC0 ≤ first && first < 0xE0 then some 1
  else if 0xE0 ≤ first && first < 0xF0 then some 2
  else if 0xF0 ≤ first && first < 0xF8 then some 3
  else none

/-- So many of the bytes that can follow the first byte of an encoded
character. -/
def scanFollowers? (c : Cursor) : Nat → Option (List UInt8 × Cursor)
  | 0 => some ([], c)
  | n + 1 => do
      let (byte, c) ← scanByte? c
      if byte < 0x80 || 0xC0 ≤ byte then none
      let (bytes, c) ← scanFollowers? c n
      return (byte.toUInt8 :: bytes, c)

/-- The bytes of the characters of a tag. Behind a percent sign there must be
as many bytes as the first of them announces. -/
def scanTagBytes? (verbatim : Bool) (c : Cursor) : Option (List UInt8 × Cursor) :=
  go c (c.rest.length + 1)
where
  go (c : Cursor) : Nat → Option (List UInt8 × Cursor)
    | 0 => none
    | n + 1 =>
        match c.peek? with
        | none => some ([], c)
        | some char =>
            if char == '%' then do
              let (first, c) ← scanByte? c
              let (bytes, c) ← scanFollowers? c (← followers? first)
              let (rest, c) ← go c n
              return (first.toUInt8 :: bytes ++ rest, c)
            else if isTagChar verbatim char then do
              let (rest, c) ← go c.next n
              return (char.toNat.toUInt8 :: rest, c)
            else some ([], c)

/-- At least one character of a tag, and the name that it gives. -/
def scanTagName? (verbatim : Bool) (c : Cursor) : Option (TagName × Cursor) := do
  let (bytes, c) ← scanTagBytes? verbatim c
  if bytes.isEmpty then none else return (.ofBytes bytes, c)

def scanVersion? (c : Cursor) : Option (Nat × Nat × Cursor) := do
  let (major, c) ← number c
  if !c.sees '.' then none
  let (minor, c) ← number c.next
  return (major, minor, c)
where
  number (c : Cursor) : Option (Nat × Cursor) :=
    let (digits, c) := c.span Char.isDigit
    if digits.isEmpty || 9 < digits.length then none
    else (Text.natural? 10 digits).map (·, c)

/-- A directive, at the place of its percent sign, up to the end of its line. -/
def scanDirective? (c : Cursor) : Option (Token × Cursor) := do
  let (name, c) ← scanName? c.next
  if !c.endsAt 0 then none
  let (token, c) ←
    if name == "YAML" then do
      let (major, minor, c) ← scanVersion? c.skipBlanks
      pure (Token.versionDirective major minor, c)
    else if name == "TAG" then do
      let (handle, c) ← scanHandle? true c.skipBlanks
      if !(c.peek?.any isBlank) then none
      let (replacement, c) ← scanTagName? true c.skipBlanks
      if !c.endsAt 0 then none
      pure (Token.tagDirective handle replacement, c)
    else none
  let c := c.skipBlanks.skipComment
  if !c.atLineEnd then none
  return (token, c.next)

def scanAnchorName? (c : Cursor) : Option (String × Cursor) := do
  let (name, c) ← scanName? c
  if c.endsAt 0 || c.peek?.any ("?:,]\x7d%@\x60".toList.contains ·) then return (name, c)
  else none

/-- A tag, at the place of its exclamation mark. -/
def scanTag? (inFlow : Bool) (c : Cursor) : Option (Token × Cursor) := do
  let (token, c) ←
    if c.peekAt? 1 == some '<' then do
      let (suffix, c) ← scanTagName? true (c.skip 2)
      if !c.sees '>' then none
      pure (Token.tag "" suffix, c.next)
    else do
      let (handle, c) ← scanHandle? false c
      if handle != "!" && handle.endsWith "!" then
        let (suffix, c) ← scanTagName? false c
        pure (Token.tag handle suffix, c)
      else
        let (bytes, c) ← scanTagBytes? false c
        let suffix := (TagName.ofText handle).drop 1 ++ TagName.ofBytes bytes
        pure (if suffix.isEmpty then Token.tag "" [TagName.mark] else Token.tag "!" suffix, c)
  if c.endsAt 0 || (inFlow && c.sees ',') then return (token, c) else none

end Token

end TemplateTree.Yaml
