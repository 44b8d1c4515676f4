import SqlRender.Decimal.Double

/-!
# Decimal/Shortest — the fewest digits that read back

The reals that round to a finite double form an interval around it, ends included when the mantissa
is even. For one digit, two digits and so on, the two neighbours of the value on that decimal grid
are tested; the first grid with a neighbour in the interval gives the digits.
-/

namespace SqlRender.Decimal

/-- A decimal `digits · 10 ^ exponent`. -/
structure Scientific where
  digits : Nat
  exponent : Int
  deriving DecidableEq, Repr

/-- Where two neighbours are equally near, the upper one or the one with the even last digit. -/
inductive Tie where
  | up
  | even
  deriving DecidableEq, Repr

/-- The value and the ends of its interval as numerators over one denominator. -/
structure Interval where
  low : Nat
  value : Nat
  high : Nat
  den : Nat
  closed : Bool

/-- The interval of a finite nonzero double. Below a power of two the gap is half as wide. -/
def Interval.ofDouble (x : Double) : Interval :=
  let m := x.mantissa
  let below := if x.fraction = 0 && x.exponentField > 1 then 1 else 2
  let unit := Double.scaled 1 2 (x.exponent - 2)
  ⟨(4 * m - below) * unit.1, 4 * m * unit.1, (4 * m + 2) * unit.1, unit.2, m % 2 == 0⟩

/-- Whether `n / d` lies in the interval. -/
def Interval.contains (i : Interval) (n d : Nat) : Bool :=
  if i.closed then i.low * d ≤ n * i.den && n * i.den ≤ i.high * d
  else i.low * d < n * i.den && n * i.den < i.high * d

/-- The exponent `k` with `10 ^ (k - 1) ≤ value < 10 ^ k`. -/
def Interval.magnitude (i : Interval) : Int :=
  if i.value ≥ i.den then Double.digitCount (i.value / i.den)
  else 1 - (Double.digitCount ((i.den - 1) / i.value) : Int)

/-- The neighbour of the value on the grid `10 ^ e` that lies in the interval, the nearer of two. -/
def Interval.onGrid (i : Interval) (tie : Tie) (e : Int) : Option Nat :=
  let unit := Double.scaled 1 10 e
  let floor := i.value * unit.2 / (i.den * unit.1)
  let inside (n : Nat) : Bool := i.contains (n * unit.1) unit.2
  match inside floor && floor > 0, inside (floor + 1) with
  | true, false => some floor
  | false, true => some (floor + 1)
  | false, false => none
  | true, true =>
    let twice := 2 * i.value * unit.2
    let middle := (2 * floor + 1) * i.den * unit.1
    if twice < middle then some floor
    else if twice > middle then some (floor + 1)
    else match tie with
      | .up => some (floor + 1)
      | .even => some (if floor % 2 = 0 then floor else floor + 1)

/-- Try grids from coarse to fine. -/
def Interval.search (i : Interval) (tie : Tie) (top : Int) : List Nat → Scientific
  | [] => ⟨0, 0⟩
  | n :: rest =>
    match i.onGrid tie (top - n) with
    | some d => ⟨d, top - n⟩
    | none => i.search tie top rest

/-- The same decimal without trailing zeros; each removed zero is paid for by `fuel`. -/
def Scientific.trim : Nat → Scientific → Scientific
  | 0, d => d
  | fuel + 1, d => if d.digits % 10 = 0 then trim fuel ⟨d.digits / 10, d.exponent + 1⟩ else d

/-- The shortest decimal that reads back as `x`, which is finite and not zero. -/
def shortest (tie : Tie) (x : Double) : Scientific :=
  let i := Interval.ofDouble x
  (i.search tie i.magnitude ((List.range 18).drop 1)).trim 18

end SqlRender.Decimal
