import SqlRender.Json.Reading

/-!
# Json/Tree — generic JSON values

A generic value keeps the members of an object in ascending order of their keys, and of members
with one key the last.
-/

namespace SqlRender.Json

/-- Put a member in its place; one with the same key gives way. -/
def insertMember (key : String) (v : Json) : List (String × Json) → List (String × Json)
  | [] => [(key, v)]
  | (k, w) :: rest =>
    if key < k then (key, v) :: (k, w) :: rest
    else if key = k then (key, v) :: rest
    else (k, w) :: insertMember key v rest

/-- Members in order of their keys, the last of each key. -/
def sortMembers (members : List (String × Json)) : List (String × Json) :=
  members.foldl (fun sorted (key, v) => insertMember key v sorted) []

mutual

/-- The generic value of a reading, if it is whole and every token in it has a value. -/
def ofReading? : Reading → Option Json
  | .null => some .null
  | .bool b => some (.bool b)
  | .int n => some (.int n)
  | .float x => some (.float x)
  | .string s => some (.string s)
  | .array items closed => if closed then (ofItems? items).map .array else none
  | .object members closed =>
    if closed then (ofMembers? members).map fun ms => .object (sortMembers ms) else none
  | .unreadable | .keyed _ | .broken => none

/-- The values of items, none if one of them has no value. -/
def ofItems? : List Reading → Option (List Json)
  | [] => some []
  | r :: rest => do
    let v ← ofReading? r
    let vs ← ofItems? rest
    return v :: vs

/-- The members as they stand, none if a key or a value could not be read. -/
def ofMembers? : List (Option String × Reading) → Option (List (String × Json))
  | [] => some []
  | (key, r) :: rest => do
    let key ← key
    let v ← ofReading? r
    let vs ← ofMembers? rest
    return (key, v) :: vs

end

/-- The generic value of a text. -/
def parse? (text : String) : Option Json :=
  let read := Reading.ofText text
  if read.complete then ofReading? read.reading else none

end SqlRender.Json
