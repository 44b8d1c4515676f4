import SqlRender.Json.Tree
import SqlRender.Yaml.Document
import SqlRender.Yaml.Plain

/-!
# Yaml/Tree — YAML documents as generic values

Keys are taken as strings whatever they look like, and of repeated keys the last counts. A float
that is not finite becomes null. A value under a tag of its own has no generic form.

Collections nest up to 128 deep, and aliases may be followed a hundred times for each event of the
document, so an alias inside its own anchor ends in an error.
-/

namespace SqlRender.Yaml

/-- The way from the root to a node. -/
inductive Path where
  | root
  | item (parent : Path) (index : Nat)
  | field (parent : Path) (key : String)
  | unknown (parent : Path)

namespace Path

/-- Whether the way leads nowhere. -/
def isRoot : Path → Bool
  | .root => true
  | _ => false

/-- The way in dots and brackets. -/
def text : Path → String
  | .root => "."
  | .item parent index => parent.text ++ "[" ++ toString index ++ "]"
  | .field parent key => (if parent.isRoot then "" else parent.text ++ ".") ++ key
  | .unknown parent => (if parent.isRoot then "" else parent.text ++ ".") ++ "?"

/-- The way as errors show it: nothing at the root. -/
def shown (p : Path) : String := if p.text = "." then "" else p.text

/-- The way to the value of an entry: by its key, if that is a scalar. -/
def value (p : Path) : Node → Path
  | .scalar _ key _ => .field p key
  | _ => .unknown p

/-- A wrong shape at the end of the way. -/
def error (p : Path) (e : ShapeError) : DocumentError := .shape p.shown e

end Path

/-- Reading a tree, with a number of aliases that may still be followed. -/
abbrev Walking := StateT Nat (Except DocumentError)

/-- The node itself, or the one that an alias means. -/
def follow (doc : Document) : Node → Walking Node
  | .reference id => fun jumps =>
    match jumps with
    | 0 => .error .malformed
    | jumps + 1 => .ok (doc.resolve id, jumps)
  | n => pure n

/-- The text of a key. -/
def keyText (doc : Document) (path : Path) (expected : String) (key : Node) : Walking String := do
  match ← follow doc key with
  | .scalar _ v _ => return v
  | .sequence .. => throw (path.error (.wrongType .sequence expected))
  | .mapping .. => throw (path.error (.wrongType .map expected))
  | _ => throw .malformed

/-- The generic value of a scalar. An integer that no machine word holds has none. -/
def scalarJson (path : Path) (tag : Option String) (v : String) (style : ScalarStyle) :
    Except DocumentError Json :=
  match scalarValue tag v style with
  | .error e => .error (path.error e)
  | .ok .null => .ok .null
  | .ok (.bool b) => .ok (.bool b)
  | .ok (.int n) => .ok (.int n)
  | .ok (.float x) => .ok (if x.isFinite then .float x else .null)
  | .ok (.string s) => .ok (.string s)
  | .ok _ => .error .malformed

/-- The values of the items of a sequence, the first of which has position `index`. -/
def itemsJson (read : Path → Node → Walking Json) (path : Path) :
    Nat → List Node → Walking (List Json)
  | _, [] => return []
  | index, n :: rest => do
    let v ← read (.item path index) n
    let vs ← itemsJson read path (index + 1) rest
    return v :: vs

/-- The members of a mapping. -/
def entriesJson (doc : Document) (read : Path → Node → Walking Json) (path : Path) :
    Bool → List (Node × Node) → List (String × Json) → Walking (List (String × Json))
  | _, [], members => return members
  | first, (key, n) :: rest, members => do
    let name ← keyText doc path (if first then "a string key" else "a string") key
    let v ← read (path.value key) n
    entriesJson doc read path false rest (Json.insertMember name v members)

/-- A collection must have been read to its end. -/
def requireEnd (closed : Bool) : Walking Unit := if closed then return () else throw .malformed

/-- What every value is expected to be. -/
def anyValue : String := "any valid JSON value"

/-- The generic value of a node whose collections nest at most `depth` deep. -/
def nodeJson (doc : Document) : Nat → Path → Node → Walking Json
  | depth, path, n => do
    let ownTag : DocumentError := path.error (.wrongType .tagged anyValue)
    match ← follow doc n, depth with
    | .void, _ => return .null
    | .scalar tag v style, _ =>
      if isOwnTag tag then throw ownTag
      scalarJson path tag v style
    | .sequence tag items closed, depth =>
      if isOwnTag tag then throw ownTag
      match depth with
      | 0 => throw .malformed
      | depth + 1 =>
        let vs ← itemsJson (nodeJson doc depth) path 0 items
        requireEnd closed
        return .array vs
    | .mapping tag entries closed, depth =>
      if isOwnTag tag then throw ownTag
      match depth with
      | 0 => throw .malformed
      | depth + 1 =>
        let members ← entriesJson doc (nodeJson doc depth) path true entries []
        requireEnd closed
        return .object members
    | .reference _, _ | .missing, _ => throw .malformed

/-- How deep collections may nest. -/
def maxDepth : Nat := 128

/-- The generic value of a text. -/
def parseJson (text : String) : Except DocumentError Json := do
  let doc := Document.ofText text
  let (v, _) ← (nodeJson doc maxDepth .root doc.root).run (100 * doc.events)
  if doc.sound then return v else throw .malformed

end SqlRender.Yaml
