import SqlRender.Buffer
import SqlRender.Command.Level

/-!
# Command/Log — records of what the program does

A record has a level, the part of the program that made it, a message and fields.
-/

namespace SqlRender

/-- One record of the log. -/
structure LogRecord where
  level : Level
  /-- The part of the program that made the record. -/
  target : String
  message : String
  fields : List (String × String)
  deriving DecidableEq, Repr

namespace LogRecord

/-- The record on a line. -/
def line (r : LogRecord) : String :=
  " ".intercalate (r.level.name :: r.message :: r.fields.map fun (name, v) => name ++ "=" ++ v)

/-- What a buffer noted. -/
def ofEvent : BufferEvent → LogRecord
  | .interpret template args =>
    ⟨.trace, "querytext_renderer::buffer", "interpret",
      [("template", Quoted.text template), ("args", toString args)]⟩
  | .tracked span =>
    ⟨.debug, "querytext_renderer::buffer", "tracked literal",
      [("offset", toString span.offset), ("len", toString span.len)]⟩

/-- A document is about to be read. -/
def loading (path format : String) (bytes : Nat) : LogRecord :=
  ⟨.debug, "querytext_sql::load", "loading AST document",
    [("path", path), ("format", format), ("bytes", toString bytes)]⟩

/-- A statement was rendered. -/
def rendered (path : String) (bytes spans : Nat) : LogRecord :=
  ⟨.info, "querytext::commands::render", "rendered statement",
    [("path", path), ("bytes", toString bytes), ("substitutions", toString spans)]⟩

/-- The settings file is there and cannot be used. -/
def unusableSettings (error : String) : LogRecord :=
  ⟨.warn, "querytext::commands::config", "config file exists but cannot be loaded",
    [("error", error)]⟩

end LogRecord

end SqlRender
