import TemplateTree.Text.Digit

/-!
# Reading floating-point numbers

`readFloat?` reads the usual notation: a sign, digits with a point anywhere
among or around them, and an exponent; or one of the words for the values that
are no numbers. The result is the floating-point number nearest to what is
written. There must be a digit in front of the exponent.
-/

namespace TemplateTree.Decimal

/-- The longest run of decimal digits at the start, and the rest. -/
def spanDigits (cs : List Char) : List Char × List Char :=
  cs.span Char.isDigit

def ofDigits (digits : List Char) : Nat :=
  (Text.natural? 10 digits).getD 0

/-- The floating-point number nearest to `m * 10 ^ e`. -/
def nearest (m : Nat) (e : Int) : Float :=
  let magnitude : Int := (toString m).length + e
  if m = 0 ∨ magnitude < -400 then 0.0
  else if 400 < magnitude then 1.0 / 0.0
  else if 0 ≤ e then Float.ofScientific m false e.toNat
  else Float.ofScientific m true (-e).toNat

/-- Digits with a point and an exponent, without a sign. -/
def readMagnitude? (cs : List Char) : Option Float := do
  let (whole, cs) := spanDigits cs
  let (fraction, cs) :=
    match cs with
    | '.' :: cs => spanDigits cs
    | cs => ([], cs)
  if whole.isEmpty && fraction.isEmpty then none
  let m := ofDigits (whole ++ fraction)
  match cs with
  | [] => return nearest m (-fraction.length)
  | mark :: cs =>
      if mark != 'e' && mark != 'E' then none
      let (negative, cs) :=
        match cs with
        | '+' :: cs => (false, cs)
        | '-' :: cs => (true, cs)
        | cs => (false, cs)
      let (power, cs) := spanDigits cs
      if power.isEmpty || !cs.isEmpty then none
      let power : Int := ofDigits power
      return nearest m ((if negative then -power else power) - fraction.length)

/-- The floating-point number that a text denotes. -/
def readFloat? (text : String) : Option Float := do
  let (negative, cs) :=
    match text.toList with
    | '+' :: cs => (false, cs)
    | '-' :: cs => (true, cs)
    | cs => (false, cs)
  let word := String.ofList (cs.map Char.toLower)
  let magnitude ←
    if word == "inf" || word == "infinity" then some (1.0 / 0.0)
    else if word == "nan" then some (0.0 / 0.0)
    else readMagnitude? cs
  return if negative then -magnitude else magnitude

end TemplateTree.Decimal
