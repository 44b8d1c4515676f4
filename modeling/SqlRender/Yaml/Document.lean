import SqlRender.Yaml.Lexer

/-!
# Yaml/Document — a YAML text as a tree of nodes, as far as it can be read

The grammar is read by descent on the tokens. A text that goes wrong leaves the tree that was built
up to there: collections that were not finished are not `closed`, and what never came is `missing`.

Anchors are numbered by how many names are known when they stand, so an anchor that reuses a name
shares its number with the next new one. An alias means the last node with its number in the whole
document.

* `Document.ofText` reads the first document of a text.
-/

namespace SqlRender.Yaml

/-- A node of a document. -/
inductive Node where
  | scalar (tag : Option String) (value : String) (style : ScalarStyle)
  | sequence (tag : Option String) (items : List Node) (closed : Bool)
  | mapping (tag : Option String) (entries : List (Node × Node)) (closed : Bool)
  | reference (id : Nat)
  /-- A document without any content. -/
  | void
  /-- The text went wrong before the node. -/
  | missing

instance : Inhabited Node := ⟨.missing⟩

/-- The scalar that stands where nothing is written. -/
def Node.empty : Node := .scalar none "" .plain

/-- A node under an anchor: its place among the anchors, its number, and itself. -/
structure Anchored where
  place : Nat
  id : Nat
  node : Node

/-- The state of the descent. Without a lexer the text has gone wrong. -/
structure Descent where
  lexer : Option Lexer
  tags : List (String × String) := []
  names : List (String × Nat) := []
  places : Nat := 0
  anchored : List Anchored := []
  /-- Starts and ends of nodes met so far. -/
  events : Nat := 0

namespace Descent

/-- The text has gone wrong here. -/
def fail (d : Descent) : Descent := { d with lexer := none }

/-- The next token, none if the text has gone wrong. -/
def peek (d : Descent) : Option Token × Descent :=
  match d.lexer.bind Lexer.peek? with
  | some (t, l) => (some t, { d with lexer := some l })
  | none => (none, d.fail)

/-- Take the next token. -/
def pop (d : Descent) : Descent := { d with lexer := d.lexer.map Lexer.pop }

/-- Count one start or end of a node. -/
def count (d : Descent) : Descent := { d with events := d.events + 1 }

/-- Give a name to the node that starts here; the result is its number. -/
def name (d : Descent) (anchor : String) : Nat × Descent :=
  let id := d.names.length
  (id, { d with names := (anchor, id) :: d.names.filter (·.1 != anchor) })

/-- Whether the next token is one of `tokens`; a text that went wrong has none. -/
def sees (d : Descent) (tokens : List Token) : Option Bool × Descent :=
  match d.peek with
  | (some t, d) => (some (tokens.contains t), d)
  | (none, d) => (none, d)

end Descent

/-- The tags that need no directive. -/
def defaultTags : List (String × String) := [("!", "!"), ("!!", "tag:yaml.org,2002:")]

/-- The full tag of a handle and a suffix. -/
def fullTag? (d : Descent) (handle suffix : String) : Option String :=
  if handle.isEmpty then some suffix
  else ((d.tags ++ defaultTags).lookup handle).map (· ++ suffix)

/-- The anchor and the tag in front of a node, in either order. -/
structure Properties where
  anchor : Option String := none
  tag : Option (String × String) := none

/-- Read the properties of a node; each may stand once. -/
def properties (d : Descent) : Properties × Descent :=
  match d.peek with
  | (some (.anchor a), d) =>
    match d.pop.peek with
    | (some (.tag h s), d) => (⟨some a, some (h, s)⟩, d.pop)
    | (_, d) => (⟨some a, none⟩, d)
  | (some (.tag h s), d) =>
    match d.pop.peek with
    | (some (.anchor a), d) => (⟨some a, some (h, s)⟩, d.pop)
    | (_, d) => (⟨none, some (h, s)⟩, d)
  | (_, d) => ({}, d)

/-- Put the node that was just read under its anchor. -/
def Descent.settle (start : Option (Nat × Nat)) (result : Node × Descent) : Node × Descent :=
  match start with
  | some (place, id) =>
    (result.1, { result.2 with anchored := ⟨place, id, result.1⟩ :: result.2.anchored })
  | none => result

/-- Start a node: count it, and number its anchor. -/
def Descent.start (d : Descent) (anchor : Option String) : Option (Nat × Nat) × Descent :=
  match anchor with
  | some a =>
    let (id, d) := d.count.name a
    (some (d.places, id), { d with places := d.places + 1 })
  | none => (none, d.count)

mutual

/-- A node. In a block, block collections may stand; behind a key, a sequence may stand without
indentation. -/
def node : Nat → Bool → Bool → Descent → Node × Descent
  | 0, _, _, d => (.missing, d.fail)
  | fuel + 1, inBlock, indentless, d =>
    match d.peek with
    | (none, d) => (.missing, d)
    | (some (.reference name), d) =>
      match d.names.lookup name with
      | some id => (.reference id, d.pop.count)
      | none => (.missing, d.fail)
    | (some _, d) =>
      let (props, d) := properties d
      match d.peek with
      | (none, d) => (.missing, d)
      | (some token, d) =>
        let tag := props.tag.map fun (h, s) => fullTag? d h s
        if tag == some none then (.missing, d.fail)
        else content fuel inBlock indentless props.anchor tag.join token d

/-- The content of a node behind its properties. -/
def content : Nat → Bool → Bool → Option String → Option String → Token → Descent → Node × Descent
  | 0, _, _, _, _, _, d => (.missing, d.fail)
  | fuel + 1, inBlock, indentless, anchor, tag, token, d =>
    let tag := tag.filter (!·.isEmpty)
    match token, inBlock, indentless with
    | .blockEntry, _, true =>
      let (start, d) := d.start anchor
      let (items, closed, d) := indentlessItems fuel d
      Descent.settle start (.sequence tag items closed, d)
    | .scalar value style, _, _ =>
      let (start, d) := d.start anchor
      Descent.settle start (.scalar tag value style, d.pop)
    | .flowSequenceStart, _, _ =>
      let (start, d) := d.start anchor
      let (items, closed, d) := flowItems fuel true d.pop
      Descent.settle start (.sequence tag items closed, d)
    | .flowMappingStart, _, _ =>
      let (start, d) := d.start anchor
      let (entries, closed, d) := flowEntries fuel true d.pop
      Descent.settle start (.mapping tag entries closed, d)
    | .blockSequenceStart, true, _ =>
      let (start, d) := d.start anchor
      let (items, closed, d) := blockItems fuel d.pop
      Descent.settle start (.sequence tag items closed, d)
    | .blockMappingStart, true, _ =>
      let (start, d) := d.start anchor
      let (entries, closed, d) := blockEntries fuel d.pop
      Descent.settle start (.mapping tag entries closed, d)
    | _, _, _ =>
      if anchor.isSome || tag.isSome then
        let (start, d) := d.start anchor
        Descent.settle start (.scalar tag "" .plain, d)
      else (.missing, d.fail)

/-- A node, or an empty one in front of one of `ends`. -/
def nodeBefore : Nat → Bool → Bool → List Token → Descent → Node × Descent
  | 0, _, _, _, d => (.missing, d.fail)
  | fuel + 1, inBlock, indentless, ends, d =>
    match d.sees ends with
    | (none, d) => (.missing, d)
    | (some true, d) => (Node.empty, d.count)
    | (some false, d) => node fuel inBlock indentless d

/-- The items of a block sequence. -/
def blockItems : Nat → Descent → List Node × Bool × Descent
  | 0, d => ([], false, d.fail)
  | fuel + 1, d =>
    match d.peek with
    | (some .blockEntry, d) =>
      let (item, d) := nodeBefore fuel true false [.blockEntry, .blockEnd] d.pop
      let (items, closed, d) := blockItems fuel d
      (item :: items, closed, d)
    | (some .blockEnd, d) => ([], true, d.pop.count)
    | (_, d) => ([], false, d.fail)

/-- The items of a sequence without indentation. -/
def indentlessItems : Nat → Descent → List Node × Bool × Descent
  | 0, d => ([], false, d.fail)
  | fuel + 1, d =>
    match d.peek with
    | (some .blockEntry, d) =>
      let (item, d) := nodeBefore fuel true false [.blockEntry, .key, .value, .blockEnd] d.pop
      let (items, closed, d) := indentlessItems fuel d
      (item :: items, closed, d)
    | (some _, d) => ([], true, d.count)
    | (none, d) => ([], false, d)

/-- The value of an entry whose key was read: behind a colon, or empty. -/
def entryValue : Nat → Bool → List Token → Descent → Node × Descent
  | 0, _, _, d => (.missing, d.fail)
  | fuel + 1, inBlock, ends, d =>
    match d.peek with
    | (some .value, d) => nodeBefore fuel inBlock inBlock ends d.pop
    | (some _, d) => (Node.empty, d.count)
    | (none, d) => (.missing, d)

/-- The entries of a block mapping. -/
def blockEntries : Nat → Descent → List (Node × Node) × Bool × Descent
  | 0, d => ([], false, d.fail)
  | fuel + 1, d =>
    match d.peek with
    | (some .key, d) =>
      let (key, d) := nodeBefore fuel true true [.key, .value, .blockEnd] d.pop
      let (value, d) := entryValue fuel true [.key, .value, .blockEnd] d
      let (entries, closed, d) := blockEntries fuel d
      ((key, value) :: entries, closed, d)
    | (some .blockEnd, d) => ([], true, d.pop.count)
    | (_, d) => ([], false, d.fail)

/-- The items of a flow sequence; behind the first, each follows a comma. -/
def flowItems : Nat → Bool → Descent → List Node × Bool × Descent
  | 0, _, d => ([], false, d.fail)
  | fuel + 1, first, d =>
    match d.peek with
    | (some .flowSequenceEnd, d) => ([], true, d.pop.count)
    | (some token, d) =>
      if first then flowItem fuel d
      else if token = .flowEntry then
        match d.pop.peek with
        | (some .flowSequenceEnd, d) => ([], true, d.pop.count)
        | (some _, d) => flowItem fuel d
        | (none, d) => ([], false, d)
      else ([], false, d.fail)
    | (none, d) => ([], false, d)

/-- One item of a flow sequence and those behind it. A key makes a mapping of one entry. -/
def flowItem : Nat → Descent → List Node × Bool × Descent
  | 0, d => ([], false, d.fail)
  | fuel + 1, d =>
    match d.peek with
    | (some .key, d) =>
      let (item, d) := singleEntry fuel d.pop.count
      let (items, closed, d) := flowItems fuel false d
      (item :: items, closed, d)
    | (_, d) =>
      let (item, d) := node fuel false false d
      let (items, closed, d) := flowItems fuel false d
      (item :: items, closed, d)

/-- A mapping of one entry inside a flow sequence. -/
def singleEntry : Nat → Descent → Node × Descent
  | 0, d => (.missing, d.fail)
  | fuel + 1, d =>
    match d.sees [.value, .flowEntry, .flowSequenceEnd] with
    | (none, d) => (.mapping none [(.missing, .missing)] false, d)
    | (some skipped, d) =>
      let (key, d) := if skipped then (Node.empty, d.pop.count) else node fuel false false d
      let (value, d) := entryValue fuel false [.flowEntry, .flowSequenceEnd] d
      (.mapping none [(key, value)] d.lexer.isSome, d.count)

/-- The entries of a flow mapping; behind the first, each follows a comma. -/
def flowEntries : Nat → Bool → Descent → List (Node × Node) × Bool × Descent
  | 0, _, d => ([], false, d.fail)
  | fuel + 1, first, d =>
    match d.peek with
    | (some .flowMappingEnd, d) => ([], true, d.pop.count)
    | (some token, d) =>
      if first then flowEntry fuel d
      else if token = .flowEntry then
        match d.pop.peek with
        | (some .flowMappingEnd, d) => ([], true, d.pop.count)
        | (some _, d) => flowEntry fuel d
        | (none, d) => ([], false, d)
      else ([], false, d.fail)
    | (none, d) => ([], false, d)

/-- One entry of a flow mapping and those behind it. A lone node is a key without a value. -/
def flowEntry : Nat → Descent → List (Node × Node) × Bool × Descent
  | 0, d => ([], false, d.fail)
  | fuel + 1, d =>
    let ends : List Token := [.flowEntry, .flowMappingEnd]
    match d.peek with
    | (some .key, d) =>
      let (key, d) := nodeBefore fuel false false (.value :: ends) d.pop
      let (value, d) := entryValue fuel false ends d
      let (entries, closed, d) := flowEntries fuel false d
      ((key, value) :: entries, closed, d)
    | (_, d) =>
      let (key, d) := node fuel false false d
      match d.peek with
      | (none, d) => ([(key, .missing)], false, d)
      | (some _, d) =>
        let (entries, closed, d) := flowEntries fuel false d.count
        ((key, Node.empty) :: entries, closed, d)

end

/-! ## Documents -/

/-- Read directives up to the document marker. A version and a handle may be given once. -/
def directives : Nat → Bool → Descent → Descent
  | 0, _, d => d.fail
  | fuel + 1, versioned, d =>
    match d.peek with
    | (some (.version major minor), d) =>
      if versioned || major != 1 || (minor != 1 && minor != 2) then d.fail
      else directives fuel true d.pop
    | (some (.tagDirective handle stem), d) =>
      if (d.tags.lookup handle).isSome then d.fail
      else directives fuel versioned { d.pop with tags := (handle, stem) :: d.tags }
    | (some .documentStart, d) => d.pop
    | (_, d) => d.fail

/-- The tokens in front of which an explicit document is empty. -/
def endsDocument : Token → Bool
  | .version .. | .tagDirective .. | .documentStart | .documentEnd | .streamEnd => true
  | _ => false

/-- Whether nothing but document end markers follows. -/
def endsStream : Nat → Descent → Bool
  | 0, _ => false
  | fuel + 1, d =>
    match d.peek with
    | (some .documentEnd, d) => endsStream fuel d.pop
    | (some .streamEnd, _) => true
    | _ => false

/-- The first document of a text. -/
structure Document where
  root : Node
  anchored : List Anchored
  events : Nat
  /-- Whether the text is well-formed and holds no other document. -/
  sound : Bool

/-- The root node of the first document. -/
def rootNode (fuel : Nat) (d : Descent) : Node × Descent :=
  match d.peek with
  | (some .streamEnd, d) => (.void, d.count)
  | (some token, d) =>
    if token = .documentEnd || !endsDocument token then node fuel true false d
    else
      let d := directives fuel false d
      match d.peek with
      | (some token, d) =>
        if endsDocument token then (Node.empty, d.count) else node fuel true false d
      | (none, d) => (.missing, d)
  | (none, d) => (.missing, d)

/-- Read the first document of a text. -/
def Document.ofText (text : String) : Document :=
  let cs := text.toList
  let fuel := 8 * cs.length + 32
  let lexer := if cs.all isAllowed then some (Lexer.ofText text) else none
  let (root, d) := rootNode fuel { lexer := lexer }
  ⟨root, d.anchored, d.events, endsStream fuel d⟩

/-- The node that an alias means. -/
def Document.resolve (doc : Document) (id : Nat) : Node :=
  let found := doc.anchored.foldl (fun (best : Option Anchored) a =>
    if a.id != id then best
    else match best with
      | some b => if b.place < a.place then some a else best
      | none => some a) none
  (found.map (·.node)).getD .missing

end SqlRender.Yaml
