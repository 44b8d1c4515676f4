import SqlRender.Span
import SqlRender.Sql.Document
import SqlRender.Settings.Store

/-!
# Command/Failure — why a command gave up

A failure says what was attempted, and then what caused it, the nearest cause first.
-/

namespace SqlRender

/-- Why a command gave up. -/
inductive Failure where
  | document (e : LoadError)
  | settings (e : Settings.StoreError)
  | initSettings (e : Settings.StoreError)
  /-- Something that cannot happen to a tree has happened. -/
  | internal (message : String)
  deriving DecidableEq, Repr

namespace Failure

/-- What was attempted. -/
def attempt : Failure → String
  | .document e => "failed to load AST from '" ++ e.path.text ++ "'"
  | .settings _ => "failed to load querytext config"
  | .initSettings _ => "failed to initialize config"
  | .internal message => message

/-- What caused the failure, the nearest cause first. -/
def causes (remarks : Remarks) : Failure → List String
  | .document e => e.message remarks :: (e.fault.cause? (remarks e.path)).toList
  | .settings e | .initSettings e => [e.message remarks, e.cause remarks]
  | .internal _ => []

/-- A text whose lines behind the first are moved in by `margin`. -/
def indentRest (margin : String) (text : String) : String :=
  String.ofList (text.toList.flatMap fun c => if c = '\n' then c :: margin.toList else [c])

/-- A cause under its number, if it has one. -/
def causeText : Option Nat → String → String
  | some n, cause =>
    let digits := toString n
    String.ofList (List.replicate (5 - digits.length) ' ') ++ digits ++ ": " ++
      indentRest "       " cause
  | none, cause => "    " ++ indentRest "    " cause

/-- The causes, numbered from zero if there are several. -/
def causeTexts : List String → List String
  | [cause] => [causeText none cause]
  | causes => causes.zipIdx.map fun (cause, n) => causeText (some n) cause

/-- The failure in full. -/
def report (remarks : Remarks) (f : Failure) : String :=
  "Error: " ++ f.attempt ++
    if (f.causes remarks).isEmpty then ""
    else "\n\nCaused by:\n" ++ "\n".intercalate (causeTexts (f.causes remarks))

end Failure

end SqlRender
