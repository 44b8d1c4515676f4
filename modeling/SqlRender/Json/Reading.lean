import SqlRender.Words
import SqlRender.Decimal.Stepwise
import SqlRender.Json.Value

/-!
# Json/Reading — a JSON text as far as it can be read

A text that breaks off or goes wrong still has a beginning. A `Reading` keeps that beginning as a
tree and marks where the text broke, so that whoever walks the tree in order meets a wrong shape or
the break, whichever comes first.

* `Reading.ofText` reads a text;
* `Json.reading` is the reading of a whole value.
-/

namespace SqlRender

/-- What was read of a value. -/
inductive Reading where
  | null
  | bool (b : Bool)
  | int (n : Int)
  | float (x : Double)
  | string (s : String)
  /-- A well-formed token without a value: a number out of range, or a string with half a
  surrogate pair. -/
  | unreadable
  /-- An array; `closed` says that its end was reached. -/
  | array (items : List Reading) (closed : Bool)
  /-- An object. A key without a value of its own is `none`. -/
  | object (members : List (Option String × Reading)) (closed : Bool)
  /-- An object whose first key is not a string. -/
  | keyed (key : Reading)
  /-- Nothing that could be a value. -/
  | broken

namespace Reading

mutual

/-- Whether a value was read to its end, so that it can be skipped. -/
def isWhole : Reading → Bool
  | .null | .bool _ | .int _ | .float _ | .string _ | .unreadable => true
  | .array items closed => closed && allWhole items
  | .object members closed => closed && allMembersWhole members
  | .keyed _ | .broken => false

/-- Whether all items were read to their ends. -/
def allWhole : List Reading → Bool
  | [] => true
  | r :: rest => r.isWhole && allWhole rest

/-- Whether the values of all members were read to their ends. -/
def allMembersWhole : List (Option String × Reading) → Bool
  | [] => true
  | (_, r) :: rest => r.isWhole && allMembersWhole rest

end

mutual

/-- The number of nested containers. -/
def depth : Reading → Nat
  | .array items _ => depthItems items + 1
  | .object members _ => depthMembers members + 1
  | _ => 0

/-- The greatest depth among items. -/
def depthItems : List Reading → Nat
  | [] => 0
  | r :: rest => max r.depth (depthItems rest)

/-- The greatest depth among the values of members. -/
def depthMembers : List (Option String × Reading) → Nat
  | [] => 0
  | (_, r) :: rest => max r.depth (depthMembers rest)

end

/-! ## Tokens -/

/-- JSON white space. -/
def isSpace (c : Char) : Bool := c == ' ' || c == '\n' || c == '\t' || c == '\r'

/-- The text behind its leading white space. -/
def skipSpace (cs : List Char) : List Char := cs.dropWhile isSpace

/-- The value of a hexadecimal digit. -/
def hexValue? (c : Char) : Option Nat :=
  if '0' ≤ c && c ≤ '9' then some (c.toNat - 0x30)
  else if 'a' ≤ c && c ≤ 'f' then some (c.toNat - 0x57)
  else if 'A' ≤ c && c ≤ 'F' then some (c.toNat - 0x37)
  else none

/-- A piece of a string: a character, or a unit given by its number. -/
inductive StringUnit where
  | char (c : Char)
  | unit (n : Nat)

/-- The character of a short escape. -/
def shortEscape? : Char → Option Char
  | '"' => some '"'
  | '\\' => some '\\'
  | '/' => some '/'
  | 'b' => some '\x08'
  | 'f' => some '\x0c'
  | 'n' => some '\n'
  | 'r' => some '\r'
  | 't' => some '\t'
  | _ => none

/-- Four hexadecimal digits as a number. -/
def unit? (a b c d : Char) : Option Nat := do
  let a ← hexValue? a
  let b ← hexValue? b
  let c ← hexValue? c
  let d ← hexValue? d
  return ((a * 16 + b) * 16 + c) * 16 + d

/-- The units of a string behind its opening quote, and what follows the closing one. -/
def stringUnits : List Char → Option (List StringUnit × List Char)
  | '"' :: rest => some ([], rest)
  | '\\' :: 'u' :: a :: b :: c :: d :: rest => do
    let n ← unit? a b c d
    let (units, rest) ← stringUnits rest
    return (.unit n :: units, rest)
  | '\\' :: c :: rest => do
    let c ← shortEscape? c
    let (units, rest) ← stringUnits rest
    return (.char c :: units, rest)
  | c :: rest =>
    if c.toNat < 0x20 ∨ c = '\\' then none
    else do
      let (units, rest) ← stringUnits rest
      return (.char c :: units, rest)
  | [] => none

/-- Join units: a high surrogate and the low one behind it are one character, and a surrogate on
its own is none. -/
def joinUnits : List StringUnit → Option (List Char)
  | [] => some []
  | .char c :: rest => (joinUnits rest).map (c :: ·)
  | .unit n :: rest =>
    if 0xDC00 ≤ n ∧ n ≤ 0xDFFF then none
    else if 0xD800 ≤ n ∧ n ≤ 0xDBFF then
      match rest with
      | .unit m :: rest =>
        if 0xDC00 ≤ m ∧ m ≤ 0xDFFF then
          (joinUnits rest).map (Char.ofNat (0x10000 + (n - 0xD800) * 0x400 + (m - 0xDC00)) :: ·)
        else none
      | _ => none
    else (joinUnits rest).map (Char.ofNat n :: ·)

/-- A string behind its opening quote. -/
def stringToken (cs : List Char) : Option (Option String × List Char) :=
  (stringUnits cs).map fun (units, rest) => ((joinUnits units).map String.ofList, rest)

/-- The value of decimal digits. -/
def digitsValue (ds : List Char) : Nat := ds.foldl (fun n d => n * 10 + (d.toNat - 0x30)) 0

/-- The digits in front. -/
def digits (cs : List Char) : List Char × List Char :=
  (cs.takeWhile Char.isDigit, cs.dropWhile Char.isDigit)

/-- The integer part: zero alone, or digits that do not start with zero. -/
def integerPart? (cs : List Char) : Option (List Char × List Char) :=
  match digits cs with
  | ([], _) => none
  | ('0' :: _ :: _, _) => none
  | found => some found

/-- The digits behind a point, if there is one; `none` if the point has no digits. -/
def fractionPart? : List Char → Option (List Char × List Char)
  | '.' :: rest =>
    match digits rest with
    | ([], _) => none
    | found => some found
  | cs => some ([], cs)

/-- The digits of an exponent behind its sign. -/
def exponentDigits? (negative : Bool) (cs : List Char) : Option (Option Int × List Char) :=
  match digits cs with
  | ([], _) => none
  | (ds, rest) =>
    let n : Int := digitsValue ds
    some (some (if negative then -n else n), rest)

/-- The exponent, if there is one; `none` if it has no digits. -/
def exponentPart? : List Char → Option (Option Int × List Char)
  | e :: rest =>
    if e = 'e' ∨ e = 'E' then
      match rest with
      | '+' :: rest => exponentDigits? false rest
      | '-' :: rest => exponentDigits? true rest
      | rest => exponentDigits? false rest
    else some (none, e :: rest)
  | [] => some (none, [])

/-- Take digits into the number `n` for as long as a machine word holds it. The count tells how many
were taken. -/
def takeDigits (n : Nat) : List Char → Nat × Nat
  | [] => (n, 0)
  | d :: rest =>
    let m := n * 10 + (d.toNat - 0x30)
    if m < wordSize then
      let taken := takeDigits m rest
      (taken.1, taken.2 + 1)
    else (n, 0)

/-- The reading of a float, unless it is out of range. Digits that are not taken count as zeros in
front of the point, and for nothing behind it. -/
def ofDigits (negative : Bool) (whole fraction : List Char) (exponent : Int) : Reading :=
  let taken := takeDigits 0 whole
  let all := takeDigits taken.1 fraction
  match Double.stepwise negative all.1 (exponent + (whole.length - taken.2) - all.2) with
  | some x => .float x
  | none => .unreadable

/-- The reading of an integer token: an integer if a machine word holds it, else a float. Minus
zero is a float too. -/
def ofInteger (negative : Bool) (whole : List Char) : Reading :=
  let n := digitsValue whole
  if wordSize ≤ n then ofDigits negative whole [] 0
  else if !negative then .int n
  else if 0 < n ∧ n ≤ wordSize / 2 then .int (-(n : Int))
  else .float (Double.ofDecimal true n 0)

/-- A number behind its sign. -/
def unsignedNumber (negative : Bool) (cs : List Char) : Option (Reading × List Char) := do
  let (whole, rest) ← integerPart? cs
  let (fraction, rest) ← fractionPart? rest
  let (exponent, rest) ← exponentPart? rest
  if fraction.isEmpty && exponent.isNone then return (ofInteger negative whole, rest)
  else return (ofDigits negative whole fraction (exponent.getD 0), rest)

/-- A number token, possibly behind a minus sign. -/
def number : List Char → Option (Reading × List Char)
  | '-' :: rest => unsignedNumber true rest
  | cs => unsignedNumber false cs

/-! ## Values -/

/-- A reading and what follows it, nothing if the text broke. -/
structure Step (α : Type) where
  got : α
  rest : Option (List Char)

/-- A token's reading. -/
def Step.ofToken : Option (Reading × List Char) → Step Reading
  | some (r, rest) => ⟨r, some rest⟩
  | none => ⟨.broken, none⟩

mutual

/-- Read a value. Every call spends `fuel`; twice the length of the text is enough. -/
def value : Nat → List Char → Step Reading
  | 0, _ => ⟨.broken, none⟩
  | fuel + 1, cs =>
    match skipSpace cs with
    | '[' :: rest =>
      match skipSpace rest with
      | ']' :: rest => ⟨.array [] true, some rest⟩
      | rest =>
        let items := items fuel rest
        ⟨.array items.got items.rest.isSome, items.rest⟩
    | '\x7b' :: rest =>
      match skipSpace rest with
      | '\x7d' :: rest => ⟨.object [] true, some rest⟩
      | '"' :: rest =>
        let members := members fuel rest
        ⟨.object members.got members.rest.isSome, members.rest⟩
      | rest => ⟨.keyed (value fuel rest).got, none⟩
    | '"' :: rest =>
      match stringToken rest with
      | some (some s, rest) => ⟨.string s, some rest⟩
      | some (none, rest) => ⟨.unreadable, some rest⟩
      | none => ⟨.broken, none⟩
    | 'n' :: 'u' :: 'l' :: 'l' :: rest => ⟨.null, some rest⟩
    | 't' :: 'r' :: 'u' :: 'e' :: rest => ⟨.bool true, some rest⟩
    | 'f' :: 'a' :: 'l' :: 's' :: 'e' :: rest => ⟨.bool false, some rest⟩
    | cs => Step.ofToken (number cs)

/-- Read the items of an array up to its closing bracket. -/
def items : Nat → List Char → Step (List Reading)
  | 0, _ => ⟨[], none⟩
  | fuel + 1, cs =>
    let first := value fuel cs
    match first.rest.map skipSpace with
    | some (']' :: rest) => ⟨[first.got], some rest⟩
    | some (',' :: rest) =>
      let others := items fuel rest
      ⟨first.got :: others.got, others.rest⟩
    | _ => ⟨[first.got], none⟩

/-- Read the members of an object, the first key's quote already read, up to its closing brace. -/
def members : Nat → List Char → Step (List (Option String × Reading))
  | 0, _ => ⟨[], none⟩
  | fuel + 1, cs =>
    match stringToken cs with
    | none => ⟨[], none⟩
    | some (key, rest) =>
      match skipSpace rest with
      | ':' :: rest =>
        let first := value fuel rest
        match first.rest.map skipSpace with
        | some ('\x7d' :: rest) => ⟨[(key, first.got)], some rest⟩
        | some (',' :: rest) =>
          match skipSpace rest with
          | '"' :: rest =>
            let others := members fuel rest
            ⟨(key, first.got) :: others.got, others.rest⟩
          | _ => ⟨[(key, first.got)], none⟩
        | _ => ⟨[(key, first.got)], none⟩
      | _ => ⟨[(key, .broken)], none⟩

end

end Reading

/-- The reading of a text, and whether nothing but white space follows it. -/
structure TextReading where
  reading : Reading
  complete : Bool

/-- Read a text. -/
def Reading.ofText (text : String) : TextReading :=
  let cs := text.toList
  let step := value (2 * cs.length + 2) cs
  ⟨step.got, step.rest.any fun rest => (skipSpace rest).isEmpty⟩

mutual

/-- The reading of a whole value. -/
def Json.reading : Json → Reading
  | .null => .null
  | .bool b => .bool b
  | .int n => .int n
  | .float x => .float x
  | .string s => .string s
  | .array items => .array (Json.readings items) true
  | .object members => .object (Json.memberReadings members) true

/-- The readings of items. -/
def Json.readings : List Json → List Reading
  | [] => []
  | v :: rest => v.reading :: Json.readings rest

/-- The readings of members; every key of a value is a string that was read. -/
def Json.memberReadings : List (String × Json) → List (Option String × Reading)
  | [] => []
  | (key, v) :: rest => (some key, v.reading) :: Json.memberReadings rest

end

end SqlRender
