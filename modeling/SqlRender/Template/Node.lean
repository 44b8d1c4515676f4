import SqlRender.Text.Quoted

/-!
# Template/Node — what a template is filled with

A node knows its type and the calls by which it writes itself: a template with arguments each. Nodes
are arguments themselves, so a tree of nodes is a finite tree of calls.

The calls belong to the node. They do not depend on the buffer that it is written to, neither on
what is in the buffer nor on whether literals are tracked there, and a node has no other way to
write.
-/

namespace SqlRender

mutual

/-- A positional argument of a template. -/
inductive Arg where
  | byte (b : UInt8)
  | char (c : Char)
  | bytes (bs : ByteArray)
  | str (s : String)
  | node (n : Node)

/-- A template and the arguments for its markers. -/
inductive Call where
  | mk (template : String) (args : List Arg)

/-- Something that writes itself by a sequence of calls. -/
inductive Node where
  | mk (type : String) (calls : List Call)

end

instance : Inhabited Node := ⟨⟨"", []⟩⟩

namespace Node

/-- The type that faults report. -/
def type : Node → String
  | ⟨type, _⟩ => type

/-- The calls that it makes, whatever buffer it is written to. -/
def calls : Node → List Call
  | ⟨_, calls⟩ => calls

/-- The calls that write `nodes` one after the other, `sep` between neighbours. -/
def separated (sep : String) : List Node → List Call
  | [] => []
  | [n] => [⟨"%v", [.node n]⟩]
  | n :: rest => ⟨"%v", [.node n]⟩ :: ⟨"%s", [.str sep]⟩ :: separated sep rest

/-- The calls that write `nodes` as a comma list. -/
def list (nodes : List Node) : List Call := separated ", " nodes

end Node

namespace Arg

/-- The type that faults report. -/
def type : Arg → String
  | .byte _ => "u8"
  | .char _ => "char"
  | .bytes _ => "&[u8]"
  | .str _ => "&str"
  | .node n => n.type

/-- An argument for inspection: its kind and its content. -/
def describe : Arg → String
  | .byte b => "Byte(" ++ toString b.toNat ++ ")"
  | .char c => "Char(" ++ Quoted.char c ++ ")"
  | .bytes bs =>
    "Bytes([" ++ ", ".intercalate (bs.data.toList.map fun b => toString b.toNat) ++ "])"
  | .str s => "Str(" ++ Quoted.text s ++ ")"
  | .node n => "Node(" ++ Quoted.text n.type ++ ")"

end Arg

end SqlRender
