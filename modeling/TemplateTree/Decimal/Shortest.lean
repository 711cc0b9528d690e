/-!
# The shortest decimal of a binary number

A binary floating-point number stands for all reals that round to it. Among
the decimals in that interval `Binary.shortest` picks one with the fewest
digits, of those the nearest to the number itself, and of two equally near ones
the one whose last digit is even. All of it is exact arithmetic on naturals.

Only two decimals of a given number of digits need to be tried, the neighbours
of the number on the grid of that length: if any point of the grid lies in the
interval, one of the two does. Seventeen digits are always enough.
-/

namespace TemplateTree

/-- The value `digits * 10 ^ exponent`. -/
structure Decimal where
  digits : Nat
  exponent : Int
  deriving DecidableEq, Repr

/-- A positive number `m * 2 ^ q` of a binary format. -/
structure Binary where
  m : Nat
  q : Int
  /-- The number below is only half as far away as the number above. -/
  narrowBelow : Bool
  deriving DecidableEq, Repr

namespace Binary

def tenPow (e : Nat) : Nat := Nat.pow 10 e

/-- The magnitude of a finite number of 64 bits. -/
def ofBits (bits : UInt64) : Binary :=
  let exponent := ((bits >>> 52) &&& 0x7FF).toNat
  let fraction := (bits &&& 0xFFFFFFFFFFFFF).toNat
  if exponent == 0 then ⟨fraction, -1074, false⟩
  else ⟨0x10000000000000 + fraction, (exponent : Int) - 1075, fraction == 0 && exponent > 1⟩

/-- Compares `d * 10 ^ e` with `n * 2 ^ p`. -/
def compareDecimal (d : Nat) (e : Int) (n : Nat) (p : Int) : Ordering :=
  compare ((d * tenPow e.toNat) <<< (-p).toNat) ((n <<< p.toNat) * tenPow (-e).toNat)

/-- Whether a decimal rounds to the number. The ends of the interval belong to
it exactly when `m` is even. -/
def readsBack (x : Binary) (d : Decimal) : Bool :=
  let low := if x.narrowBelow then 4 * x.m - 1 else 4 * x.m - 2
  let high := 4 * x.m + 2
  let above := compareDecimal d.digits d.exponent low (x.q - 2)
  let below := compareDecimal d.digits d.exponent high (x.q - 2)
  if x.m % 2 == 0 then above.isGE && below.isLE else above.isGT && below.isLT

/-- The greatest multiple of `10 ^ e` that is not above the number, as a count. -/
def floorAt (x : Binary) (e : Int) : Nat :=
  ((x.m <<< x.q.toNat) * tenPow (-e).toNat) / (tenPow e.toNat <<< (-x.q).toNat)

/-- The nearer of `d` and `d + 1`, in units of `10 ^ e`, to a number between
them; the even one if it is half way. -/
def nearer (x : Binary) (d : Nat) (e : Int) : Nat :=
  match compareDecimal (2 * d + 1) e (2 * x.m) x.q with
  | .gt => d
  | .lt => d + 1
  | .eq => if d % 2 == 0 then d else d + 1

/-- The multiple of `10 ^ e` next to the number that rounds to it, if there is
one. -/
def candidate? (x : Binary) (e : Int) : Option Decimal :=
  let d := x.floorAt e
  match x.readsBack ⟨d, e⟩, x.readsBack ⟨d + 1, e⟩ with
  | true, true => some ⟨x.nearer d e, e⟩
  | true, false => some ⟨d, e⟩
  | false, true => some ⟨d + 1, e⟩
  | false, false => none

/-- The number itself as a decimal. -/
def exact (x : Binary) : Decimal :=
  if 0 ≤ x.q then ⟨x.m <<< x.q.toNat, 0⟩ else ⟨x.m * Nat.pow 5 (-x.q).toNat, x.q⟩

/-- The exponent of the leading digit of the number's decimal expansion. -/
def leadingExponent (x : Binary) : Int :=
  ((toString x.exact.digits).length : Int) - 1 + x.exact.exponent

/-- The decimal with the fewest digits that rounds to the number. Exponents are
tried from that of the leading digit, and one more, downwards. -/
def shortest (x : Binary) : Decimal :=
  let top := x.leadingExponent + 1
  ((List.range 19).findSome? fun (k : Nat) => x.candidate? (top - k)).getD x.exact

end Binary

end TemplateTree
