import SqlRender.Words
import SqlRender.Json.Reading
import SqlRender.Document.Error

/-!
# Document/Decoder — readings as values of a type

A decoder walks a reading in order and stops at the first thing that does not fit. There are two
ways to walk. A text is walked while it is being read, so its order is that of the text, breaks in
it count, and its containers may nest only so deep. A tree is complete before it is walked.

* `Fields` decodes records, given as objects or as arrays of their fields in order;
* `Variant` decodes choices, given as a string or as an object with one member.
-/

namespace SqlRender

/-- How a reading is walked. -/
inductive Walk where
  | text
  | tree
  deriving DecidableEq, Repr

/-- A decoder: given the way to walk and how many containers may still nest. -/
def Decoder (α : Type) := Walk → Nat → Reading → Except DocumentError α

/-- The reading does not fit; if it broke, that comes first. -/
def Reading.wrongType (expected : String) : Reading → DocumentError
  | .null => .shape "" (.wrongType .null expected)
  | .bool b => .shape "" (.wrongType (.bool b) expected)
  | .int n => .shape "" (.wrongType (.int n) expected)
  | .float x => .shape "" (.wrongType (.float x) expected)
  | .string s => .shape "" (.wrongType (.string s) expected)
  | .array .. => .shape "" (.wrongType .sequence expected)
  | .object .. | .keyed _ => .shape "" (.wrongType .map expected)
  | .unreadable | .broken => .malformed

namespace Decoder

/-- Decode, then apply a function to what was decoded. -/
def map {α β : Type} (f : α → β) (d : Decoder α) : Decoder β := fun walk depth r =>
  (d walk depth r).map f

/-! ## Simple values -/

/-- A string, taken as it is. -/
def string : Decoder String := fun _ _ r =>
  match r with
  | .string s => .ok s
  | r => .error (r.wrongType "a string")

/-- A truth value. -/
def bool : Decoder Bool := fun _ _ r =>
  match r with
  | .bool b => .ok b
  | r => .error (r.wrongType "a boolean")

/-- An integer between `least` and `greatest`, the values of the type `name`. -/
def integer (name : String) (least greatest : Int) : Decoder Int := fun _ _ r =>
  match r with
  | .int n =>
    if least ≤ n ∧ n ≤ greatest then .ok n
    else .error (.shape "" (.wrongValue (.int n) name))
  | r => .error (r.wrongType name)

/-- A signed integer of one machine word. -/
def int64 : Decoder Int64 := (integer "i64" (-(wordSize / 2)) (wordSize / 2 - 1)).map Int64.ofInt

/-- A float. An integer is taken for the nearest one. -/
def double : Decoder Double := fun _ _ r =>
  match r with
  | .int n => .ok (Double.ofInt n)
  | .float x => .ok x
  | r => .error (r.wrongType "f64")

/-- Nothing, or what `d` decodes. -/
def option {α : Type} (d : Decoder α) : Decoder (Option α) := fun walk depth r =>
  match r with
  | .null => .ok none
  | r => (d walk depth r).map some

/-- Decode readings one after the other. -/
def each {α : Type} (read : Reading → Except DocumentError α) :
    List Reading → Except DocumentError (List α)
  | [] => .ok []
  | r :: rest => do
    let a ← read r
    let as ← each read rest
    return a :: as

/-- The end of a container: a text that broke before it is malformed. -/
def requireClosed (closed : Bool) : Except DocumentError Unit :=
  if closed then .ok () else .error .malformed

/-- An array of what `d` decodes. -/
def list {α : Type} (d : Decoder α) : Decoder (List α) := fun walk depth r =>
  match r, depth with
  | .array .., 0 => .error .malformed
  | .array items closed, depth + 1 => do
    let as ← each (d walk depth) items
    requireClosed closed
    return as
  | r, _ => .error (r.wrongType "a sequence")

end Decoder

/-! ## Records -/

/-- A field of a record that is being filled, with state `σ`. -/
structure Field (σ : Type) where
  name : String
  /-- Whether the field may be left out. -/
  optional : Bool
  isSet : σ → Bool
  read : Decoder (σ → σ)

/-- The fields of a record in order, the state they fill, and the record that comes of it. -/
structure Fields (σ α : Type) where
  fields : List (Field σ)
  start : σ
  finish : σ → Except DocumentError α

namespace Fields

/-- A record with one field. What becomes of a missing field is up to `finish`. -/
def one {α : Type} (name : String) (optional : Bool) (d : Decoder α)
    (finish : Option α → Except DocumentError α) : Fields (Option α) α :=
  ⟨[⟨name, optional, Option.isSome, d.map fun a _ => some a⟩], none, finish⟩

/-- A field that must be there. -/
def required {α : Type} (name : String) (d : Decoder α) : Fields (Option α) α :=
  one name false d fun
    | some a => .ok a
    | none => .error (.shape "" (.missingField name))

/-- A field with a value to take when it is left out. -/
def defaulted {α : Type} (name : String) (d : Decoder α) (default : α) : Fields (Option α) α :=
  one name true d fun s => .ok (s.getD default)

/-- A field over the first half of a pair of states. -/
def onFirst {σ τ : Type} (f : Field σ) : Field (σ × τ) :=
  ⟨f.name, f.optional, fun s => f.isSet s.1, f.read.map fun g s => (g s.1, s.2)⟩

/-- A field over the second half of a pair of states. -/
def onSecond {σ τ : Type} (f : Field τ) : Field (σ × τ) :=
  ⟨f.name, f.optional, fun s => f.isSet s.2, f.read.map fun g s => (s.1, g s.2)⟩

/-- More fields behind these. -/
def and {σ τ α β : Type} (f : Fields σ α) (g : Fields τ β) : Fields (σ × τ) (α × β) :=
  ⟨f.fields.map onFirst ++ g.fields.map onSecond, (f.start, g.start), fun s => do
    let a ← f.finish s.1
    let b ← g.finish s.2
    return (a, b)⟩

/-- The same fields, with another record made of them. -/
def map {σ α β : Type} (h : α → β) (f : Fields σ α) : Fields σ β :=
  ⟨f.fields, f.start, fun s => (f.finish s).map h⟩

/-- Fill fields from the members of an object. Unknown members are skipped, and a field may be
given once. -/
def fromMembers {σ : Type} (fields : List (Field σ)) (walk : Walk) (depth : Nat) :
    σ → List (Option String × Reading) → Except DocumentError σ
  | s, [] => .ok s
  | _, (none, _) :: _ => .error .malformed
  | s, (some key, r) :: rest =>
    match fields.find? (·.name == key) with
    | none => if r.isWhole then fromMembers fields walk depth s rest else .error .malformed
    | some f => do
      if f.isSet s then throw (.shape "" (.duplicateField key))
      let store ← f.read walk depth r
      fromMembers fields walk depth (store s) rest

/-- Fill fields in order from the items of an array, `position` fields being done. What is left of
the items comes with the state. -/
def fromItems {σ : Type} (label : String) (walk : Walk) (depth count : Nat) :
    Nat → List (Field σ) → σ → List Reading → Bool → Except DocumentError (σ × List Reading)
  | _, [], s, items, _ => .ok (s, items)
  | position, f :: fields, s, [], closed =>
    if !closed then .error .malformed
    else if f.optional then fromItems label walk depth count (position + 1) fields s [] closed
    else
      .error (.shape "" (.wrongLength position
        (label ++ " with " ++ toString count ++ " elements")))
  | position, f :: fields, s, r :: items, closed => do
    let store ← f.read walk depth r
    fromItems label walk depth count (position + 1) fields (store s) items closed

/-- Decode an array of fields in order. -/
def decodeItems {σ α : Type} (f : Fields σ α) (label : String) (walk : Walk) (depth : Nat)
    (items : List Reading) (closed : Bool) : Except DocumentError α := do
  let (s, surplus) ← fromItems label walk depth f.fields.length 0 f.fields f.start items closed
  let a ← f.finish s
  if surplus.isEmpty && closed then return a
  else match walk with
    | .text => throw .malformed
    | .tree => throw (.shape "" (.wrongLength items.length "fewer elements in array"))

/-- Decode the members of an object. -/
def decodeMembers {σ α : Type} (f : Fields σ α) (walk : Walk) (depth : Nat)
    (members : List (Option String × Reading)) (closed : Bool) : Except DocumentError α := do
  let s ← fromMembers f.fields walk depth f.start members
  Decoder.requireClosed closed
  f.finish s

/-- A record named `label`. -/
def decoder {σ α : Type} (label : String) (f : Fields σ α) : Decoder α := fun walk depth r =>
  match r, depth with
  | .array .., 0 | .object .., 0 | .keyed _, _ => .error .malformed
  | .array items closed, depth + 1 => f.decodeItems label walk depth items closed
  | .object members closed, depth + 1 => f.decodeMembers walk depth members closed
  | r, _ => .error (r.wrongType label)

end Fields

/-! ## Choices -/

/-- An alternative of a choice and what it holds. -/
inductive Variant (α : Type) where
  | unit (a : α)
  | holds (d : Decoder α)
  | record (d : Decoder α)

namespace Variant

/-- A record held by an alternative. In a tree it is always an object. -/
def ofFields {σ α : Type} (label : String) (f : Fields σ α) : Variant α :=
  .record fun walk depth r =>
    match walk, r with
    | .text, r | .tree, r@(.object ..) => f.decoder label walk depth r
    | .tree, r => .error (r.wrongType "struct variant")

/-- The alternative called `name`. -/
def find {α : Type} (variants : List (String × Variant α)) (name : String) :
    Except DocumentError (Variant α) :=
  match variants.lookup name with
  | some v => .ok v
  | none => .error (.shape "" (.unknownVariant name (variants.map (·.1))))

/-- An alternative given by its name alone. -/
def bare {α : Type} : Variant α → Except DocumentError α
  | .unit a => .ok a
  | .holds _ => .error (.shape "" (.wrongType .unitVariant "newtype variant"))
  | .record _ => .error (.shape "" (.wrongType .unitVariant "struct variant"))

/-- An alternative given with what it holds. -/
def applied {α : Type} : Variant α → Decoder α
  | .unit a => fun _ _ r =>
    match r with
    | .null => .ok a
    | r => .error (r.wrongType "unit")
  | .holds d | .record d => d

/-- A choice in a text. -/
def decodeText {α : Type} (variants : List (String × Variant α)) (depth : Nat) :
    Reading → Except DocumentError α
  | .string s => do (← find variants s).bare
  | .object ((some key, r) :: rest) closed =>
    match depth with
    | 0 => .error .malformed
    | depth + 1 => do
      let a ← (← find variants key).applied .text depth r
      Decoder.requireClosed (closed && rest.isEmpty)
      return a
  | .keyed key =>
    match depth with
    | 0 => .error .malformed
    | _ + 1 => .error (key.wrongType "variant identifier")
  | _ => .error .malformed

/-- A choice in a tree. -/
def decodeTree {α : Type} (variants : List (String × Variant α)) (depth : Nat) :
    Reading → Except DocumentError α
  | .string s => do (← find variants s).bare
  | .object [(some key, r)] _ => do (← find variants key).applied .tree (depth - 1) r
  | .object .. => .error (.shape "" (.wrongValue .map "map with a single key"))
  | r => .error (r.wrongType "string or map")

/-- A choice between `variants`. -/
def decoder {α : Type} (variants : List (String × Variant α)) : Decoder α := fun walk depth r =>
  match walk with
  | .text => decodeText variants depth r
  | .tree => decodeTree variants depth r

end Variant

namespace Decoder

/-- How deep the containers of a text may nest. -/
def maxDepth : Nat := 127

/-- Decode a text. What follows the value is looked at last. -/
def fromText {α : Type} (d : Decoder α) (text : String) : Except DocumentError α := do
  let read := Reading.ofText text
  let a ← d .text maxDepth read.reading
  requireClosed read.complete
  return a

/-- Decode a value. -/
def fromJson {α : Type} (d : Decoder α) (v : Json) : Except DocumentError α :=
  let r := v.reading
  d .tree r.depth r

end Decoder

end SqlRender
