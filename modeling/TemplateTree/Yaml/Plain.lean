import TemplateTree.Decimal.Reader
import TemplateTree.Text.Digit
import TemplateTree.Yaml.Basic
import TemplateTree.Yaml.TagName

/-!
# What YAML scalars mean

A plain scalar can be nothing, a truth value, a whole number or a
floating-point number; if it is none of these it is text. Whole numbers are
written in decimal, or with `0x`, `0o` or `0b` in front in another base. Digits
that begin with a zero are text. Whole numbers have 64 bits, signed or not;
beyond that, up to 128 bits, they are no data, and still larger ones count as
floating-point numbers.
-/

namespace TemplateTree.Yaml

def isNullWord (text : String) : Bool :=
  ["null", "Null", "NULL", "~"].contains text

def readBool? (text : String) : Option Bool :=
  if ["true", "True", "TRUE"].contains text then some true
  else if ["false", "False", "FALSE"].contains text then some false
  else none

/-- The natural number with the given digits, of which there is at least one. -/
def readNatural? (base : Nat) (digits : List Char) : Option Nat :=
  if digits.isEmpty then none else Text.natural? base digits

/-- Whether a text without sign is more than one digit, the first being zero. -/
def hasLeadingZero : List Char → Bool
  | '0' :: digits => !digits.isEmpty && digits.all Char.isDigit
  | _ => false

/-- A text without its sign, if it has one. -/
def dropSign : List Char → List Char
  | '-' :: cs | '+' :: cs => cs
  | cs => cs

/-- A natural number in any of the four bases. -/
def readMagnitude? (cs : List Char) : Option Nat :=
  let prefixed : Option Nat :=
    match cs with
    | '0' :: 'x' :: digits => readNatural? 16 digits
    | '0' :: 'o' :: digits => readNatural? 8 digits
    | '0' :: 'b' :: digits => readNatural? 2 digits
    | _ => none
  if prefixed.isSome then prefixed
  else if hasLeadingZero cs then none
  else readNatural? 10 cs

def readInteger? (text : String) : Option Int :=
  match text.toList with
  | '-' :: cs => (readMagnitude? cs).map fun n => -n
  | '+' :: cs => (readMagnitude? cs).map fun n => n
  | cs => (readMagnitude? cs).map fun n => n

/-- A floating-point number that is finite, or one of the words for the values
that are not. -/
def readReal? (text : String) : Option Float :=
  let (plus, cs) :=
    match text.toList with
    | '+' :: cs => (true, cs)
    | cs => (false, cs)
  let magnitude := String.ofList cs
  if [".inf", ".Inf", ".INF"].contains magnitude then some (1.0 / 0.0)
  else if ["-.inf", "-.Inf", "-.INF"].contains text then some (-1.0 / 0.0)
  else if [".nan", ".NaN", ".NAN"].contains text then some (0.0 / 0.0)
  else if plus && (cs.head? == some '+' || cs.head? == some '-') then none
  else (Decimal.readFloat? magnitude).filter Float.isFinite

/-- Whether a whole number fits into so many bits, with a sign or without. -/
def fits (bits : Nat) (n : Int) : Bool :=
  -(Nat.pow 2 (bits - 1) : Nat) ≤ n && n < (Nat.pow 2 bits : Nat)

def isSmall (n : Int) : Bool := fits 64 n

/-- What a plain scalar means, unless it is a number that is no data. -/
def readPlain? (text : String) : Option Yaml :=
  if text.isEmpty || isNullWord text then some .null
  else
    match readBool? text with
    | some b => some (.bool b)
    | none =>
        match (readInteger? text).filter (fits 128) with
        | some n => if isSmall n then some (.number (.integer n)) else none
        | none =>
            if hasLeadingZero (dropSign text.toList) then some (.string text)
            else
              match readReal? text with
              | some x => some (.number (.float x))
              | none => some (.string text)

/-- What a scalar with a given tag means. Four of the standard tags force a
meaning, which the text must then have, and the others make it text. A tag of
one's own leaves the meaning as it is. -/
def readScalar? (tag : Option TagName) (plain : Bool) (text : String) : Option Yaml :=
  if tag.all TagName.isOwn then
    if plain then readPlain? text else some (.string text)
  else if tag == some (.standard "bool") then (readBool? text).map .bool
  else if tag == some (.standard "int") then
    ((readInteger? text).filter isSmall).map fun n => .number (.integer n)
  else if tag == some (.standard "float") then
    (readReal? text).map fun x => .number (.float x)
  else if tag == some (.standard "null") then
    if isNullWord text then some .null else none
  else some (.string text)

end TemplateTree.Yaml
