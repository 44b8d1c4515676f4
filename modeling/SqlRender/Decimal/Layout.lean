import SqlRender.Decimal.Shortest

/-!
# Decimal/Layout — how a format writes doubles

A format decides which magnitudes are written positionally, whether a positive exponent carries a
sign, and which way ties between shortest decimals go. A whole number keeps one zero after its
point.
-/

namespace SqlRender.Decimal

/-- The decisions of one format. Exponents are those of the leading digit. -/
structure Layout where
  /-- The least exponent that is written positionally, if there is one. -/
  least : Option Int
  /-- The greatest exponent that is written positionally, if there is one. -/
  greatest : Option Int
  plus : Bool
  tie : Tie

/-- `n` zeros. -/
def zeros (n : Nat) : String := String.ofList (List.replicate n '0')

/-- Positional notation with at least one digit on each side of the point. -/
def positional (digits : String) (exponent : Int) : String :=
  let count : Int := digits.length
  if exponent ≥ 0 then digits ++ zeros exponent.toNat ++ ".0"
  else if count + exponent > 0 then
    let split := (count + exponent).toNat
    String.ofList (digits.toList.take split) ++ "." ++ String.ofList (digits.toList.drop split)
  else "0." ++ zeros (-(count + exponent)).toNat ++ digits

/-- One digit before the point, the others after it, then the exponent. -/
def scientific (plus : Bool) (digits : String) (leading : Int) : String :=
  let rest := String.ofList (digits.toList.drop 1)
  let head := String.ofList (digits.toList.take 1)
  let sign := if leading < 0 then "-" else if plus then "+" else ""
  head ++ (if rest.isEmpty then "" else "." ++ rest) ++ "e" ++ sign ++ toString leading.natAbs

/-- The text of a finite magnitude. -/
def Layout.magnitude (l : Layout) (x : Double) : String :=
  if x.isZero then "0.0"
  else
    let d := shortest l.tie x
    let digits := toString d.digits
    let leading : Int := d.exponent + digits.length - 1
    if l.least.all (· ≤ leading) && l.greatest.all (leading ≤ ·) then
      positional digits d.exponent
    else scientific l.plus digits leading

/-- The text of a double. -/
def Layout.write (l : Layout) (x : Double) : String :=
  if x.isNaN then "NaN"
  else
    let text := if x.isFinite then l.magnitude x else "inf"
    if x.isNegative then "-" ++ text else text

/-- Positional notation throughout. -/
def Layout.plain : Layout := ⟨none, none, false, .up⟩

end SqlRender.Decimal
