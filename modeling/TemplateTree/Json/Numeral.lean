import TemplateTree.Number
import TemplateTree.Text.Digit

/-!
# Numbers in JSON text

A `Numeral` is a number as it is written: a sign, digits, digits behind a
point, and an exponent. `Numeral.extend?` says how one grows by one character,
and whether it could end where it stands, so that it can be read from left to
right without looking ahead.

`Numeral.value?` is the number that is meant. Without point and exponent it is
a whole number as long as it has 64 bits, signed or not; minus zero and
everything else is a floating-point number. Of such a number as many digits
count as fit into 64 bits, and the power of ten is applied by one
multiplication or division, so the last bit may differ from that of the nearest
floating-point number. A number too large to be finite has no value: whether it
is (`Numeral.InRange`) is a matter of whole numbers, as rounding and
multiplication are exact there.
-/

namespace TemplateTree.Json

/-- The number text format: the point in its place for leading exponents from
-5 to 15, and a sign on every exponent. -/
def numberLayout : Decimal.Layout where
  plainFrom := -5
  plainTo := 15
  exponentPlus := true
  nan := "null"
  inf := "null"

/-- How far a numeral has been read. -/
inductive Stage where
  /-- Behind the sign; a digit has to come. -/
  | sign
  /-- Behind a leading zero. -/
  | zero
  /-- Behind a digit of the whole part. -/
  | whole
  /-- Behind the point; a digit has to come. -/
  | point
  /-- Behind a digit of the fraction. -/
  | fraction
  /-- Behind the exponent mark; a sign or digit has to come. -/
  | mark
  /-- Behind the sign of the exponent; a digit has to come. -/
  | markSign
  /-- Behind a digit of the exponent. -/
  | power
  deriving DecidableEq, Repr

def Stage.isEnd : Stage → Bool
  | .zero | .whole | .fraction | .power => true
  | .sign | .point | .mark | .markSign => false

/-- A number as it is written. All digits are kept last digit first. -/
structure Numeral where
  negative : Bool := false
  whole : List Nat := []
  fraction : List Nat := []
  powerNegative : Bool := false
  power : List Nat := []
  stage : Stage
  deriving DecidableEq, Repr

/-- What a character means behind part of a numeral. -/
inductive Growth where
  /-- It belongs to the numeral. -/
  | more (numeral : Numeral)
  /-- The numeral ends in front of it. -/
  | ends
  /-- The numeral can neither end here nor go on like this. -/
  | malformed
  deriving Repr

namespace Numeral

/-- The numeral that a character begins. -/
def start? (c : Char) : Option Numeral :=
  if c = '-' then some { negative := true, stage := .sign }
  else
    match Text.digit? c with
    | some 0 => some { whole := [0], stage := .zero }
    | some d => some { whole := [d], stage := .whole }
    | none => none

/-- Takes the next character into account. -/
def grow (n : Numeral) (c : Char) : Growth :=
  match n.stage, Text.digit? c with
  | .sign, some 0 => .more { n with whole := [0], stage := .zero }
  | .sign, some d => .more { n with whole := [d], stage := .whole }
  | .zero, some _ => .malformed
  | .whole, some d => .more { n with whole := d :: n.whole }
  | .point, some d | .fraction, some d =>
      .more { n with fraction := d :: n.fraction, stage := .fraction }
  | .mark, some d | .markSign, some d | .power, some d =>
      .more { n with power := d :: n.power, stage := .power }
  | .mark, none =>
      if c = '+' then .more { n with stage := .markSign }
      else if c = '-' then .more { n with powerNegative := true, stage := .markSign }
      else .malformed
  | .zero, none | .whole, none =>
      if c = '.' then .more { n with stage := .point }
      else if c = 'e' ∨ c = 'E' then .more { n with stage := .mark }
      else .ends
  | .fraction, none =>
      if c = 'e' ∨ c = 'E' then .more { n with stage := .mark } else .ends
  | .power, none => .ends
  | .sign, none | .point, none | .markSign, none => .malformed

def maxNatural : Nat := 0xFFFFFFFFFFFFFFFF

/-- Digits taken into a natural number as long as it stays within 64 bits,
with the count of those taken. -/
def takeDigits : Nat → List Nat → Nat × Nat
  | m, [] => (m, 0)
  | m, d :: ds =>
      if maxNatural < m * 10 + d then (m, 0)
      else
        let (m, taken) := takeDigits (m * 10 + d) ds
        (m, taken + 1)

/-- The digits that count, as a whole number, and the power of ten that their
place gives them: a digit of the whole part that does not count is as good as a
zero behind those that do. -/
def significand (n : Numeral) : Nat × Int :=
  let (m, taken) := takeDigits 0 n.whole.reverse
  let (m, behind) := takeDigits m n.fraction.reverse
  (m, (n.whole.length - taken : Nat) - behind)

/-- The digits of the exponent as a number, without its sign. -/
def powerSize (n : Numeral) : Nat :=
  n.power.foldr (fun d p => p * 10 + d) 0

/-- The bound on what an exponent may read before it counts as unbounded. -/
def maxPower : Nat := 0x7FFFFFFF

/-- The power of ten by which the digits that count are multiplied. -/
def exponent (n : Numeral) : Int :=
  if n.powerNegative then n.significand.2 - n.powerSize else n.significand.2 + n.powerSize

/-- The floating-point number nearest to a natural number, both of them whole:
53 bits stay, and what is half of the last of them goes to the even side. -/
def nearest (n : Nat) : Nat :=
  let unit := 1 <<< (n.log2 - 52)
  let kept := n / unit
  let rest := n % unit
  if unit < 2 * rest ∨ (unit = 2 * rest ∧ kept % 2 = 1) then (kept + 1) * unit else kept * unit

/-- From here on what is nearest among the floating-point numbers is not
finite: `(2 ^ 54 - 1) * 2 ^ 970`. -/
def overflow : Nat := 0x3FFFFFFFFFFFFF <<< 970

/-- One multiplication of floating-point numbers, the digits by the power of
ten, gives a finite number. -/
def InRange (n : Numeral) : Prop :=
  n.significand.1 = 0 ∨
    if maxPower < n.powerSize then n.powerNegative = true
    else n.exponent < 0 ∨
      n.exponent ≤ 308 ∧
        nearest n.significand.1 * nearest (Binary.tenPow n.exponent.toNat) < overflow

instance (n : Numeral) : Decidable n.InRange :=
  inferInstanceAs (Decidable (_ ∨ _))

/-- `f * 10 ^ e`, where powers below `10 ^ -308` are applied in steps. A power
above `10 ^ 308` is there for zero only. -/
def scale (f : Float) (e : Int) : Float :=
  if 0 ≤ e then
    if e ≤ 308 then f * Float.ofScientific 1 false e.toNat else f
  else if -308 ≤ e then f / Float.ofScientific 1 false (-e).toNat
  else if f == 0 then f
  else scale (f / 1e308) (e + 308)
termination_by (-e).toNat

/-- The number that is meant, if it is in range. -/
def value (n : Numeral) : Number :=
  let (m, shift) := n.significand
  if n.fraction = [] ∧ n.power = [] ∧ shift = 0
      ∧ (n.negative → 0 < m ∧ m ≤ 0x8000000000000000) then
    .integer (if n.negative then -m else m)
  else
    let f := if maxPower < n.powerSize then 0.0 else scale (Float.ofNat m) n.exponent
    .float (if n.negative then -f else f)

/-- The number that is meant, unless it is too large to be finite. -/
def value? (n : Numeral) : Option Number :=
  if n.InRange then some n.value else none

end Numeral

end TemplateTree.Json
