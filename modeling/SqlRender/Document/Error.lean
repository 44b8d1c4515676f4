import SqlRender.Files.Path
import SqlRender.Text.Quoted
import SqlRender.Json.Value

/-!
# Document/Error — documents that cannot be read as what they should be

A document is malformed, or it is well-formed and has the wrong shape somewhere. The wording of a
wrong shape depends on the format that was read: a missing value is `null` in JSON and a unit value
in YAML, and each has its way to write a float. The rest of a message is up to the parser: the line
and column of a wrong shape, and its own words for a text that is malformed.
-/

namespace SqlRender

/-- What stands where something else was wanted. -/
inductive Found where
  | null
  | bool (b : Bool)
  | int (n : Int)
  /-- An integer that needs the named wide type. -/
  | wideInt (n : Int) (type : String)
  | float (x : Double)
  | string (s : String)
  | sequence
  | map
  | unitVariant
  /-- A value under a tag of its own. -/
  | tagged
  deriving DecidableEq, Repr

/-- How a document does not fit. -/
inductive ShapeError where
  | wrongType (found : Found) (expected : String)
  | wrongValue (found : Found) (expected : String)
  | wrongLength (length : Nat) (expected : String)
  | missingField (name : String)
  | duplicateField (name : String)
  | unknownVariant (name : String) (known : List String)
  deriving DecidableEq, Repr

/-- A document that cannot be read. `path` leads to the place, empty at the root. -/
inductive DocumentError where
  | malformed
  | shape (path : String) (error : ShapeError)
  deriving DecidableEq, Repr

/-- The wording of a document format. -/
structure Dialect where
  null : String
  float : Decimal.Layout

/-- The wording for JSON. -/
def Dialect.json : Dialect := ⟨"null", Json.floatLayout⟩

/-- The wording for YAML; a plain layout writes its floats. -/
def Dialect.yaml : Dialect := ⟨"unit value", .plain⟩

/-- Text between backticks. -/
def ticked (s : String) : String := "`" ++ s ++ "`"

/-- What was found, in the words of a format. -/
def Found.describe (d : Dialect) : Found → String
  | .null => d.null
  | .bool b => "boolean " ++ ticked (if b then "true" else "false")
  | .int n => "integer " ++ ticked (toString n)
  | .wideInt n type => "integer " ++ ticked (toString n) ++ " as " ++ type
  | .float x => "floating point " ++ ticked (d.float.write x)
  | .string s => "string " ++ Quoted.text s
  | .sequence => "sequence"
  | .map => "map"
  | .unitVariant => "unit variant"
  | .tagged => "enum"

/-- The alternatives of a choice. -/
def listKnown : List String → String
  | [] => "there are no variants"
  | [a] => "expected " ++ ticked a
  | [a, b] => "expected " ++ ticked a ++ " or " ++ ticked b
  | known => "expected one of " ++ ", ".intercalate (known.map ticked)

/-- The message of a wrong shape, without its place. -/
def ShapeError.describe (d : Dialect) : ShapeError → String
  | .wrongType found expected => "invalid type: " ++ found.describe d ++ ", expected " ++ expected
  | .wrongValue found expected => "invalid value: " ++ found.describe d ++ ", expected " ++ expected
  | .wrongLength length expected =>
    "invalid length " ++ toString length ++ ", expected " ++ expected
  | .missingField name => "missing field " ++ ticked name
  | .duplicateField name => "duplicate field " ++ ticked name
  | .unknownVariant name known => "unknown variant " ++ ticked name ++ ", " ++ listKnown known

/-- What the parser of the document at a path adds to an error: where a wrong shape stands, and of a
malformed document all that there is to say. -/
abbrev Remarks := Path → DocumentError → String

/-- The text of an error with the remark of the parser. -/
def DocumentError.message (d : Dialect) (remark : String) : DocumentError → String
  | .malformed => remark
  | .shape path error =>
    (if path.isEmpty then "" else path ++ ": ") ++ error.describe d ++ remark

end SqlRender
