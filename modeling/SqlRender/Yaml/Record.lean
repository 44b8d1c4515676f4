import SqlRender.Yaml.Tree

/-!
# Yaml/Record — mappings as records

A record is read straight from a mapping: what a scalar stands for is decided by the field that
wants it, so the same word can be a number for one field and a text for another. Keys that no field
has are skipped, and what stands under them is not looked into.
-/

namespace SqlRender.Yaml

/-- A reader of values: given the document and the way to the node. -/
def Reader (α : Type) := Document → Path → Node → Walking α

namespace Reader

/-- Read, then apply a function to what was read. -/
def map {α β : Type} (f : α → β) (r : Reader α) : Reader β := fun doc path n => do
  return f (← r doc path n)

/-- The error of a node that is not what was expected. -/
def wrongType (path : Path) (expected : String) : Node → DocumentError
  | .scalar tag v style =>
    match scalarValue tag v style with
    | .ok found => path.error (.wrongType found expected)
    | .error e => path.error e
  | .sequence .. => path.error (.wrongType .sequence expected)
  | .mapping .. => path.error (.wrongType .map expected)
  | .reference _ | .void | .missing => .malformed

/-- Whether a scalar may be read as a value with the core tag `name`: it is plain, or a literal
block under that tag. -/
def isOpenTo (name : String) (tag : Option String) : ScalarStyle → Bool
  | .plain => true
  | .literal => tag == some (coreTag name)
  | _ => false

/-- A scalar with the core tag `name` that `parse` understands. -/
def scalar {α : Type} (name expected : String) (parse : String → Option α) : Reader α :=
  fun doc path n => do
    let n ← follow doc n
    match n with
    | .scalar tag v style =>
      match if isOpenTo name tag style then parse v else none with
      | some a => return a
      | none => throw (wrongType path expected n)
    | n => throw (wrongType path expected n)

/-- A truth value. -/
def bool : Reader Bool := scalar "bool" "a boolean" truth?

/-- A natural number below `limit`, the size of the type `type`. -/
def natural (type : String) (limit : Nat) : Reader Nat := fun doc path n => do
  let value ← scalar "int" type (fun v => unsigned? wordSize v.toList) doc path n
  if value < limit then return value
  else throw (path.error (.wrongValue (.int value) type))

/-- The text of a scalar, however it is written. -/
def string : Reader String := fun doc path n => do
  let n ← follow doc n
  match n with
  | .scalar _ v _ => return v
  | n => throw (wrongType path "a string" n)

/-- Nothing, or what `r` reads. A plain scalar is nothing if it is empty or a word for null. -/
def option {α : Type} (r : Reader α) : Reader (Option α) := fun doc path n => do
  let n ← follow doc n
  match n with
  | .void => return none
  | .scalar tag v .plain =>
    match tag with
    | none => if v.isEmpty || isNullWord v then return none else some <$> r doc path n
    | some tag =>
      if tag != coreTag "null" then some <$> r doc path n
      else if isNullWord v then return none
      else throw (.shape "" (.wrongValue (.string v) "null"))
  | n => some <$> r doc path n

end Reader

/-! ## Skipping -/

mutual

/-- Whether a node was read to its end. -/
def Node.isWhole : Node → Bool
  | .scalar .. | .reference _ | .void => true
  | .sequence _ items closed => closed && Node.areWhole items
  | .mapping _ entries closed => closed && Node.entriesAreWhole entries
  | .missing => false

/-- Whether all items were read to their ends. -/
def Node.areWhole : List Node → Bool
  | [] => true
  | n :: rest => n.isWhole && Node.areWhole rest

/-- Whether all keys and values were read to their ends. -/
def Node.entriesAreWhole : List (Node × Node) → Bool
  | [] => true
  | (key, n) :: rest => key.isWhole && n.isWhole && Node.entriesAreWhole rest

end

/-! ## Records -/

/-- A field of a record that is being filled, with state `σ`. -/
structure Member (σ : Type) where
  name : String
  isSet : σ → Bool
  read : Reader (σ → σ)

/-- A field that keeps what `r` reads. -/
def Member.of {σ α : Type} (name : String) (get : σ → Option α) (set : σ → α → σ) (r : Reader α) :
    Member σ :=
  ⟨name, fun s => (get s).isSome, r.map fun a s => set s a⟩

/-- Fill the fields of a record from the entries of a mapping. -/
def fillMembers {σ : Type} (doc : Document) (members : List (Member σ)) :
    σ → List (Node × Node) → Walking σ
  | s, [] => return s
  | s, (key, n) :: rest => do
    let name ← keyText doc .root "field identifier" key
    match members.find? (·.name == name) with
    | none => if n.isWhole then fillMembers doc members s rest else throw .malformed
    | some m =>
      if m.isSet s then throw (.shape "" (.duplicateField name))
      let store ← m.read doc (Path.value .root key) n
      fillMembers doc members (store s) rest

/-- Fill the fields of a record named `label` from the root of a document. An empty document has no
fields. -/
def fillRecord {σ : Type} (doc : Document) (label : String) (members : List (Member σ))
    (start : σ) : Walking σ := do
  let n ← follow doc doc.root
  match n with
  | .mapping _ entries closed =>
    let s ← fillMembers doc members start entries
    requireEnd closed
    return s
  | .void => return start
  | .scalar tag v style =>
    if v.isEmpty && style = .plain then return start
    else throw (Reader.wrongType .root label (.scalar tag v style))
  | n => throw (Reader.wrongType .root label n)

/-- Read a text as a record: fill its fields, and make the record of them. -/
def readRecord {σ α : Type} (text label : String) (members : List (Member σ)) (start : σ)
    (finish : σ → Except DocumentError α) : Except DocumentError α := do
  let doc := Document.ofText text
  let (s, _) ← (fillRecord doc label members start).run (100 * doc.events)
  let a ← finish s
  if doc.sound then return a else throw .malformed

end SqlRender.Yaml
