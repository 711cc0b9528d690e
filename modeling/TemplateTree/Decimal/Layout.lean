import TemplateTree.Decimal.Shortest

/-!
# Floating-point numbers as text

The digits of a number are those of its shortest decimal. A `Layout` holds the
decisions that a text format takes beyond that: for which magnitudes the point
is written in its place, how exponents look otherwise, and what stands for the
values that are no numbers.
-/

namespace TemplateTree

namespace Decimal

/-- How a text format writes numbers. -/
structure Layout where
  /-- The least exponent of a leading digit that is written with the point in
  its place. -/
  plainFrom : Int
  /-- The greatest such exponent. -/
  plainTo : Int
  /-- Whether a positive exponent has a sign. -/
  exponentPlus : Bool
  nan : String
  inf : String

/-- Writes a decimal without trailing zeros: digits around a point that has at
least one digit on both sides, or one digit, the others behind a point, and an
exponent. -/
def Layout.write (layout : Layout) (d : Decimal) : String :=
  let digits := toString d.digits
  let leading : Int := d.exponent + digits.length - 1
  if layout.plainFrom ≤ leading && leading ≤ layout.plainTo then
    if 0 ≤ d.exponent then
      digits ++ String.ofList (List.replicate d.exponent.toNat '0') ++ ".0"
    else if 0 ≤ leading then
      let whole := leading.toNat + 1
      String.ofList (digits.toList.take whole) ++ "." ++ String.ofList (digits.toList.drop whole)
    else
      "0." ++ String.ofList (List.replicate (-leading - 1).toNat '0') ++ digits
  else
    let point := if digits.length == 1 then "" else "."
    let plus := if layout.exponentPlus && 0 < leading then "+" else ""
    String.ofList (digits.toList.take 1) ++ point ++ String.ofList (digits.toList.drop 1)
      ++ "e" ++ plus ++ toString leading

/-- The text of a floating-point number; a zero keeps its sign. -/
def Layout.float (layout : Layout) (x : Float) : String :=
  if x.isNaN then layout.nan
  else
    let sign := if x.toBits >>> 63 == 1 then "-" else ""
    if x.isInf then sign ++ layout.inf
    else if x == 0 then sign ++ "0.0"
    else sign ++ layout.write (Binary.ofBits x.toBits).shortest

end Decimal

end TemplateTree
