import TemplateTree.Json.Numeral

/-!
# The tokens of JSON text

`tokens` splits a text into punctuation, words, numbers and strings, reading
each character once: `Mode` is what has been read of an unfinished token, and
`Mode.step` takes one more character into account.

A token that goes wrong comes out as broken, with the fault, and nothing comes
after it. Whether that fault is the one to report depends on what was expected
in its place, so it is left to the reader of the tokens.
-/

namespace TemplateTree.Json

inductive Fault where
  | ended
  | malformed
  deriving DecidableEq, Repr

inductive Token where
  | openList | closeList | openObject | closeObject | comma | colon
  | null
  | bool (b : Bool)
  | number (n : Number)
  | string (s : String)
  /-- A word, a number or a stray character that is no token. -/
  | broken (fault : Fault)
  | brokenString (fault : Fault)

/-- Where the reading of a string stands. -/
inductive Inside where
  | plain
  /-- Behind a backslash. -/
  | escape
  /-- Among the four digits of a code unit, of which `bytes` bytes and the
  number `unit?` have been read, the latter as long as they are digits. `high?`
  is the first half of a pair that this one completes. -/
  | code (high? : Option Nat) (bytes : Nat) (unit? : Option Nat)
  /-- Behind the first half of a pair; a backslash has to come. -/
  | pair (high : Nat)
  /-- Behind that backslash; the letter has to come. -/
  | pairEscape (high : Nat)
  deriving DecidableEq, Repr

/-- What has been read of an unfinished token. -/
inductive Mode where
  | between
  /-- In a word of which these characters are to come. -/
  | word (next : Char) (rest : List Char) (token : Token)
  | number (n : Numeral)
  /-- In a string; its characters last character first. -/
  | string (read : List Char) (inside : Inside)
  /-- Behind a broken token. -/
  | lost

/-- The character that a letter means behind a backslash. -/
def unescape? : Char → Option Char
  | '"' => some '"'
  | '\\' => some '\\'
  | '/' => some '/'
  | 'b' => some '\x08'
  | 'f' => some '\x0c'
  | 'n' => some '\n'
  | 'r' => some '\r'
  | 't' => some '\t'
  | _ => none

def isBlank (c : Char) : Bool :=
  c == ' ' || c == '\n' || c == '\t' || c == '\r'

/-- What follows from a finished code unit: a character, or the wait for the
second half of a pair. Halves that do not belong together mean nothing. -/
def closeUnit? (high? : Option Nat) (unit : Nat) : Option (Sum Char Nat) :=
  match high? with
  | none =>
      if 0xD800 ≤ unit ∧ unit < 0xDC00 then some (.inr unit)
      else if 0xDC00 ≤ unit ∧ unit < 0xE000 then none
      else some (.inl (Char.ofNat unit))
  | some high =>
      if 0xDC00 ≤ unit ∧ unit < 0xE000 then
        some (.inl (Char.ofNat ((high - 0xD800) * 0x400 + (unit - 0xDC00) + 0x10000)))
      else none

namespace Mode

/-- A character between tokens. -/
def begin (c : Char) : List Token × Mode :=
  if isBlank c then ([], .between)
  else
    match c with
    | '[' => ([.openList], .between)
    | ']' => ([.closeList], .between)
    | '\x7b' => ([.openObject], .between)
    | '\x7d' => ([.closeObject], .between)
    | ',' => ([.comma], .between)
    | ':' => ([.colon], .between)
    | '"' => ([], .string [] .plain)
    | 'n' => ([], .word 'u' ['l', 'l'] .null)
    | 't' => ([], .word 'r' ['u', 'e'] (.bool true))
    | 'f' => ([], .word 'a' ['l', 's', 'e'] (.bool false))
    | c =>
        match Numeral.start? c with
        | some n => ([], .number n)
        | none => ([.broken .malformed], .lost)

/-- A character inside a string. -/
def stepString (read : List Char) (c : Char) : Inside → List Token × Mode
  | .plain =>
      if c = '"' then ([.string (String.ofList read.reverse)], .between)
      else if c = '\\' then ([], .string read .escape)
      else if c.toNat < 0x20 then ([.brokenString .malformed], .lost)
      else ([], .string (c :: read) .plain)
  | .escape =>
      if c = 'u' then ([], .string read (.code none 0 (some 0)))
      else
        match unescape? c with
        | some meant => ([], .string (meant :: read) .plain)
        | none => ([.brokenString .malformed], .lost)
  | .code high? bytes unit? =>
      let bytes := bytes + c.utf8Size
      let unit? := do return (← unit?) * 16 + (← Text.hexDigit? c)
      if bytes < 4 then ([], .string read (.code high? bytes unit?))
      else
        match unit?.bind (closeUnit? high?) with
        | some (.inl meant) => ([], .string (meant :: read) .plain)
        | some (.inr high) => ([], .string read (.pair high))
        | none => ([.brokenString .malformed], .lost)
  | .pair high =>
      if c = '\\' then ([], .string read (.pairEscape high))
      else ([.brokenString .malformed], .lost)
  | .pairEscape high =>
      if c = 'u' then ([], .string read (.code (some high) 0 (some 0)))
      else ([.brokenString .malformed], .lost)

def numberToken (n : Numeral) : Token :=
  match n.value? with
  | some value => .number value
  | none => .broken .malformed

/-- Takes one more character into account: the tokens that it finishes, and
what is unfinished behind it. -/
def step (mode : Mode) (c : Char) : List Token × Mode :=
  match mode with
  | .between => begin c
  | .word next rest token =>
      if c ≠ next then ([.broken .malformed], .lost)
      else
        match rest with
        | [] => ([token], .between)
        | next :: rest => ([], .word next rest token)
  | .number n =>
      match n.grow c with
      | .more n => ([], .number n)
      | .malformed => ([.broken .malformed], .lost)
      | .ends =>
          match n.value? with
          | some value =>
              let (tokens, mode) := begin c
              (.number value :: tokens, mode)
          | none => ([.broken .malformed], .lost)
  | .string read inside => stepString read c inside
  | .lost => ([], .lost)

/-- The tokens that the end of the text finishes. -/
def finish : Mode → List Token
  | .between | .lost => []
  | .word _ _ _ => [.broken .ended]
  | .number n => if n.stage.isEnd then [numberToken n] else [.broken .ended]
  | .string _ _ => [.brokenString .ended]

end Mode

/-- The tokens of the characters behind what `mode` has read. -/
def tokensFrom (mode : Mode) : List Char → List Token
  | [] => mode.finish
  | c :: cs => (mode.step c).1 ++ tokensFrom (mode.step c).2 cs

def tokens (text : String) : List Token :=
  tokensFrom .between text.toList

end TemplateTree.Json
