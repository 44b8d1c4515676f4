import SqlRender.Words
import SqlRender.Document.Error
import SqlRender.Json.Reading
import SqlRender.Yaml.Token

/-!
# Yaml/Plain — what a scalar stands for

A plain scalar is null, a truth value, an integer, a float or else a string, tried in that order.
Integers may be signed and may be written in base sixteen, eight or two. Digits behind a leading
zero are a string. Quoted and block scalars are strings unless a tag says otherwise.
-/

namespace SqlRender.Yaml

/-- The words for nothing. -/
def isNullWord (v : String) : Bool := ["null", "Null", "NULL", "~"].contains v

/-- The truth value that a word stands for. -/
def truth? (v : String) : Option Bool :=
  if ["true", "True", "TRUE"].contains v then some true
  else if ["false", "False", "FALSE"].contains v then some false
  else none

/-- Digits that a leading zero makes a string. -/
def isPaddedDigits (cs : List Char) : Bool :=
  let cs := match cs with
    | '-' :: rest | '+' :: rest => rest
    | cs => cs
  match cs with
  | '0' :: d :: rest => (d :: rest).all Char.isDigit
  | _ => false

/-- At least one digit, all of them of base `radix`. -/
def digitsIn? (radix : Nat) (cs : List Char) : Option Nat :=
  if cs.isEmpty then none
  else cs.foldlM (fun n c => (Reading.hexValue? c).bind fun d =>
    if d < radix then some (n * radix + d) else none) 0

/-- Whether digits stand behind a sign. -/
def hasSign : List Char → Bool
  | '+' :: _ | '-' :: _ => true
  | _ => false

/-- The base that stands in front of digits, and the digits. -/
def radix? : List Char → Option (Nat × List Char)
  | '0' :: 'x' :: rest => some (16, rest)
  | '0' :: 'o' :: rest => some (8, rest)
  | '0' :: 'b' :: rest => some (2, rest)
  | _ => none

/-- An integer without a minus sign, below `limit`. -/
def unsigned? (limit : Nat) (cs : List Char) : Option Nat :=
  let body := match cs with
    | '+' :: rest => rest
    | cs => cs
  match radix? body with
  | some (radix, rest) => (digitsIn? radix rest).filter (· < limit)
  | none =>
    if hasSign body || isPaddedDigits cs then none
    else (digitsIn? 10 body).filter (· < limit)

/-- The magnitude of an integer with a minus sign, at most `limit`. -/
def negative? (limit : Nat) : List Char → Option Nat
  | '-' :: body =>
    match radix? body with
    | some (radix, rest) => (digitsIn? radix rest).filter (· ≤ limit)
    | none =>
      if isPaddedDigits body then none else (digitsIn? 10 body).filter (· ≤ limit)
  | _ => none

/-- An integer, with its type if a machine word does not hold it. -/
def integer? (cs : List Char) : Option Found :=
  ((unsigned? wordSize cs).map fun n => .int n)
    |>.or ((negative? (wordSize / 2) cs).map fun n => .int (-(n : Int)))
    |>.or ((unsigned? doubleWordSize cs).map fun n => .wideInt n "u128")
    |>.or ((negative? (doubleWordSize / 2) cs).map fun n => .wideInt (-(n : Int)) "i128")

/-- Digits with a point and an exponent, each of them optional, and at least one digit. -/
def decimal? (negative : Bool) (cs : List Char) : Option Double := do
  let (whole, rest) := Reading.digits cs
  let (fraction, rest) := match rest with
    | '.' :: rest => Reading.digits rest
    | rest => ([], rest)
  if whole.isEmpty && fraction.isEmpty then none
  let (exponent, rest) ← Reading.exponentPart? rest
  if !rest.isEmpty then none
  let scale : Int := exponent.getD 0 - fraction.length
  return Double.ofDecimal negative (Reading.digitsValue (whole ++ fraction)) scale

/-- A quiet value that is no number. -/
def notANumber : Double := ⟨0x7FF8000000000000⟩

/-- A float. Decimals beyond the finite range are none. -/
def float? (v : String) : Option Double :=
  let cs := v.toList
  let body := match cs with
    | '+' :: rest => rest
    | cs => cs
  if cs.head? == some '+' && hasSign body then none
  else if [".inf", ".Inf", ".INF"].contains (String.ofList body) then some (.infinity false)
  else if ["-.inf", "-.Inf", "-.INF"].contains v then some (.infinity true)
  else if [".nan", ".NaN", ".NAN"].contains v then some notANumber
  else
    let x := match body with
      | '-' :: rest => decimal? true rest
      | body => decimal? false body
    x.filter Double.isFinite

/-- What a plain scalar without a tag stands for. -/
def plainValue (v : String) : Found :=
  let cs := v.toList
  if v.isEmpty || isNullWord v then .null
  else match truth? v with
    | some b => .bool b
    | none =>
      match integer? cs with
      | some n => n
      | none =>
        match if isPaddedDigits cs then none else float? v with
        | some x => .float x
        | none => .string v

/-- The full form of a core tag. -/
def coreTag (name : String) : String := "tag:yaml.org,2002:" ++ name

/-- Whether a tag is an application's own. -/
def isOwnTag (tag : Option String) : Bool := tag.any fun t => t.toList.head? == some '!'

/-- What a scalar stands for, its tag considered. -/
def scalarValue (tag : Option String) (v : String) (style : ScalarStyle) :
    Except ShapeError Found :=
  let orRefuse (found : Option Found) (expected : String) : Except ShapeError Found :=
    match found with
    | some f => .ok f
    | none => .error (.wrongValue (.string v) expected)
  match tag with
  | none => .ok (if style = .plain then plainValue v else .string v)
  | some tag =>
    if tag = coreTag "bool" then orRefuse ((truth? v).map .bool) "a boolean"
    else if tag = coreTag "int" then orRefuse (integer? v.toList) "an integer"
    else if tag = coreTag "float" then orRefuse ((float? v).map .float) "a float"
    else if tag = coreTag "null" then
      orRefuse (if isNullWord v then some .null else none) "null"
    else if isOwnTag (some tag) && style = .plain then .ok (plainValue v)
    else .ok (.string v)

end SqlRender.Yaml
