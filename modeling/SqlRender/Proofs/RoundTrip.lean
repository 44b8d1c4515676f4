import SqlRender.Command.Render
import SqlRender.Proofs.JsonLayout
import SqlRender.Proofs.Leaves
import SqlRender.Proofs.Record
import SqlRender.Proofs.ShortFloat
import SqlRender.Sql.Document
import SqlRender.Sql.Encode

/-!
# Proofs/RoundTrip — a statement is decoded from its JSON text

`Decoder.Reads d v a` says that `d` decodes the text of the value `v` as `a`, and `Fields.Fills` the
same for the fields of a record. Each way to build a decoder has a lemma that builds such facts, so
the decoder of a type and its encoder are compared part by part, once per type
(`Expr.reads`, `Statement.reads`). A member that is left out reads as the default that it was left
out for, and nothing that is written for a member reads as `null`. Of the floats it is assumed that
they are read back; `Proofs/ShortFloat` proves it of those with a short text.
-/

namespace SqlRender

/-! ## The shape of what is read back -/

namespace Json

theorem readBackItems_eq (vs : List Json) : readBackItems vs = vs.map readBack := by
  induction vs with
  | nil => rfl
  | cons v vs ih => rw [readBackItems, ih, List.map_cons]

theorem readBackMembers_eq (ms : List (String × Json)) :
    readBackMembers ms = ms.map fun m => (some m.1, m.2.readBack) := by
  induction ms with
  | nil => rfl
  | cons m ms ih => rw [readBackMembers, ih, List.map_cons]

/-- What a value writes is read to its end. -/
theorem readBack_isWhole (v : Json) : v.readBack.isWhole = true := by
  induction v using tree_induction with
  | null | bool | string => rfl
  | int n => exact (Reading.spells_int n).scalar.1
  | float x =>
    rw [readBack]
    split
    case isTrue hx => exact (Reading.spells_float hx).scalar.1
    case isFalse => rfl
  | array vs hvs =>
    rw [readBack, Reading.isWhole, Bool.true_and, Reading.allWhole_iff, readBackItems_eq]
    exact List.forall_mem_map.mpr hvs
  | object ms hms =>
    rw [readBack, Reading.isWhole, Bool.true_and, Reading.allMembersWhole_iff, readBackMembers_eq]
    exact List.forall_mem_map.mpr hms

/-- What is read is as deep as the value: numbers have no depth, however they are read. -/
theorem depth_readBack (v : Json) : v.readBack.depth = v.reading.depth := by
  induction v using tree_induction with
  | null | bool | string => rfl
  | int n => exact (Reading.spells_int n).scalar.2
  | float x =>
    rw [readBack]
    split
    case isTrue hx => exact (Reading.spells_float hx).scalar.2
    case isFalse => rfl
  | array vs hvs =>
    rw [readBack, reading, Reading.depth, Reading.depth]
    congr 1
    induction vs with
    | nil => rfl
    | cons v vs ih =>
      rw [readBackItems, readings, Reading.depthItems, Reading.depthItems, hvs v (by simp),
        ih fun w hw => hvs w (List.mem_cons_of_mem v hw)]
  | object ms hms =>
    rw [readBack, reading, Reading.depth, Reading.depth]
    congr 1
    induction ms with
    | nil => rfl
    | cons m ms ih =>
      rw [readBackMembers, memberReadings, Reading.depthMembers, Reading.depthMembers,
        hms m (by simp), ih fun w hw => hms w (List.mem_cons_of_mem m hw)]

theorem lookup_readBackMembers (name : String) (ms : List (String × Json)) :
    (readBackMembers ms).lookup (some name) = (ms.lookup name).map readBack := by
  induction ms with
  | nil => rfl
  | cons m ms ih =>
    obtain ⟨key, v⟩ := m
    rw [readBackMembers, List.lookup_cons, List.lookup_cons, ih]
    have hbeq : (some name == some key) = (name == key) := rfl
    rw [hbeq]
    cases name == key <;> rfl

/-- Members whose names differ can be read one by one. -/
theorem plain_readBackMembers {ms : List (String × Json)} (h : (ms.map Prod.fst).Nodup) :
    Members.Plain (readBackMembers ms) := by
  rw [readBackMembers_eq]
  refine ⟨?_, fun m hm => ?_, fun m hm => ?_⟩
  · rw [List.map_map]
    have hkeys : ms.map (Prod.fst ∘ fun m => (some m.1, m.2.readBack))
        = (ms.map Prod.fst).map some := by rw [List.map_map]; rfl
    rw [hkeys]
    exact h.map (Option.some_injective String)
  · obtain ⟨x, _, rfl⟩ := List.mem_map.mp hm
    exact Option.some_ne_none x.1
  · obtain ⟨x, _, rfl⟩ := List.mem_map.mp hm
    exact x.2.readBack_isWhole

/-- An item is no deeper than its array is inside. -/
theorem depth_le_of_mem {vs : List Json} {v : Json} (h : v ∈ vs) :
    v.readBack.depth ≤ Reading.depthItems (readBackItems vs) := by
  rw [readBackItems_eq]
  exact Reading.depthItems_le.mp le_rfl _ (List.mem_map_of_mem h)

/-- A member is no deeper than its object is inside. -/
theorem depth_le_of_lookup {ms : List (String × Json)} {name : String} {v : Json}
    (h : ms.lookup name = some v) :
    v.readBack.depth ≤ Reading.depthMembers (readBackMembers ms) := by
  obtain ⟨front, back, rfl, _⟩ := List.lookup_eq_some_iff.mp h
  rw [readBackMembers_eq]
  exact Reading.depthMembers_le.mp le_rfl (some name, v.readBack) (by simp)

end Json

/-! ## Decoders that read a value -/

/-- `d` decodes the text of `v` as `a`, however much deeper the text may nest. -/
def Decoder.Reads {α : Type} (d : Decoder α) (v : Json) (a : α) : Prop :=
  ∀ depth, v.readBack.depth ≤ depth → d .text depth v.readBack = .ok a

/-- The fields decode the members `ms` as `a`. -/
def Fields.Fills {σ α : Type} (f : Fields σ α) (ms : List (String × Json)) (a : α) : Prop :=
  (ms.map Prod.fst).Nodup → ∀ depth, Reading.depthMembers (Json.readBackMembers ms) ≤ depth →
    (f.decodeMembers .text depth (Json.readBackMembers ms) true).toOption = some a

section Combinators

variable {σ τ α β : Type} {d : Decoder α} {v : Json} {a : α} {ms : List (String × Json)}

theorem reads_string (s : String) : Decoder.string.Reads (.string s) s := fun _ _ => rfl

theorem reads_bool (b : Bool) : Decoder.bool.Reads (.bool b) b := fun _ _ => rfl

theorem Decoder.Reads.map (h : d.Reads v a) (f : α → β) : (d.map f).Reads v (f a) := by
  intro depth hdepth
  rw [Decoder.map_apply, h depth hdepth]
  rfl

/-- A value that is not `null` is something. -/
theorem Decoder.Reads.option (h : d.Reads v a) (hv : v.readBack ≠ .null) :
    (Decoder.option d).Reads v (some a) := by
  intro depth hdepth
  rw [Decoder.option, h depth hdepth]
  · rfl
  · exact hv

/-- Items that are read one by one. -/
theorem each_reads {depth : Nat} {write : α → Json} {as : List α}
    (h : ∀ a ∈ as, d .text depth (write a).readBack = .ok a) :
    Decoder.each (d .text depth) (Json.readBackItems (as.map write)) = .ok as := by
  induction as with
  | nil => rfl
  | cons a as ih =>
    rw [List.map_cons, Json.readBackItems, Decoder.each, h a (by simp),
      ih fun b hb => h b (List.mem_cons_of_mem a hb)]
    rfl

theorem reads_list {write : α → Json} {as : List α} (h : ∀ a ∈ as, d.Reads (write a) a) :
    (Decoder.list d).Reads (.array (as.map write)) as := by
  intro depth hdepth
  have hdepth' : Reading.depthItems (Json.readBackItems (as.map write)) + 1 ≤ depth := hdepth
  obtain ⟨depth, rfl⟩ : ∃ k, depth = k + 1 := ⟨depth - 1, by omega⟩
  rw [Json.readBack, Decoder.list, each_reads fun a ha => h a ha depth
    ((Json.depth_le_of_mem (List.mem_map_of_mem ha)).trans (by omega))]
  rfl

/-! ### Fields -/

theorem fills_required {name : String} (hv : ms.lookup name = some v) (h : d.Reads v a) :
    (Fields.required name d).Fills ms a := by
  intro hnodup depth hdepth
  rw [Fields.decodeMembers_required name d (Json.plain_readBackMembers hnodup),
    Json.lookup_readBackMembers, hv]
  exact toOption_eq_some.mpr (h depth ((Json.depth_le_of_lookup hv).trans hdepth))

/-- A field that may be left out, and is not. -/
theorem fills_defaulted {name : String} (default : α) (hv : ms.lookup name = some v)
    (h : d.Reads v a) : (Fields.defaulted name d default).Fills ms a := by
  intro hnodup depth hdepth
  rw [Fields.decodeMembers_defaulted name d default (Json.plain_readBackMembers hnodup),
    Json.lookup_readBackMembers, hv]
  exact toOption_eq_some.mpr (h depth ((Json.depth_le_of_lookup hv).trans hdepth))

/-- A field that is left out has its default. -/
theorem fills_default {name : String} (default : α) (hv : ms.lookup name = none) :
    (Fields.defaulted name d default).Fills ms default := by
  intro hnodup depth _
  rw [Fields.decodeMembers_defaulted name d default (Json.plain_readBackMembers hnodup),
    Json.lookup_readBackMembers, hv]
  rfl

/-- **A clause that may be missing**: what is absent is left out, what is there is not `null`. -/
theorem fills_optional {name : String} {write : α → Json} {value : Option α}
    (hv : ms.lookup name = value.map write) (hnull : ∀ a, (write a).readBack ≠ .null)
    (h : ∀ a ∈ value, d.Reads (write a) a) :
    (Fields.defaulted name (Decoder.option d) none).Fills ms value := by
  cases value with
  | none => exact fills_default none hv
  | some a => exact fills_defaulted none hv ((h a rfl).option (hnull a))

/-- A list that is left out when it is empty. -/
theorem fills_listed {name : String} {write : α → Json} {as : List α}
    (hv : ms.lookup name = if as.isEmpty then none else some (.array (as.map write)))
    (h : ∀ a ∈ as, d.Reads (write a) a) :
    (Fields.defaulted name (Decoder.list d) []).Fills ms as := by
  cases as with
  | nil => exact fills_default [] hv
  | cons a as => exact fills_defaulted [] hv (reads_list h)

/-- Records grow field by field as long as no two fields share a name. -/
theorem Fields.Fills.and {f : Fields σ α} {g : Fields τ β} {b : β} (hf : f.Fills ms a)
    (hg : g.Fills ms b) (hnames : f.names.Disjoint g.names) : (f.and g).Fills ms (a, b) := by
  intro hnodup depth hdepth
  rw [Fields.decodeMembers_and hnames (Json.plain_readBackMembers hnodup), hf hnodup depth hdepth,
    hg hnodup depth hdepth]
  rfl

theorem Fields.Fills.map {f : Fields σ α} (hf : f.Fills ms a) (h : α → β) :
    (f.map h).Fills ms (h a) := by
  intro hnodup depth hdepth
  rw [Fields.decodeMembers_map, hf hnodup depth hdepth]
  rfl

/-- A record is read from the object of its members. -/
theorem reads_record {f : Fields σ α} (hf : f.Fills ms a) (hnodup : (ms.map Prod.fst).Nodup)
    (label : String) : (f.decoder label).Reads (.object ms) a := by
  intro depth hdepth
  have hdepth' : Reading.depthMembers (Json.readBackMembers ms) + 1 ≤ depth := hdepth
  obtain ⟨depth, rfl⟩ : ∃ k, depth = k + 1 := ⟨depth - 1, by omega⟩
  exact toOption_eq_some.mp (hf hnodup depth (by omega))

/-! ### Alternatives -/

variable {variants : List (String × Variant α)} {name : String}

/-- An alternative that holds nothing is read from its name. -/
theorem reads_unit (hfind : variants.lookup name = some (.unit a)) :
    (Variant.decoder variants).Reads (.string name) a := by
  intro depth _
  rw [Variant.decoder, Json.readBack, Variant.decodeText, Variant.find, hfind]
  rfl

/-- An alternative that holds something is read from its name and what it holds. -/
theorem reads_tagged {alternative : Variant α} (hfind : variants.lookup name = some alternative)
    (h : alternative.applied.Reads v a) :
    (Variant.decoder variants).Reads (.tagged name v) a := by
  intro depth hdepth
  have hdepth' : max v.readBack.depth 0 + 1 ≤ depth := hdepth
  obtain ⟨depth, rfl⟩ : ∃ k, depth = k + 1 := ⟨depth - 1, by omega⟩
  have happlied := h depth (by omega)
  have hread : (Json.tagged name v).readBack = .object [(some name, v.readBack)] true := rfl
  rw [Variant.decoder, hread, Variant.decodeText, Variant.find, hfind]
  dsimp only [bind, Except.bind]
  rw [happlied]
  rfl

end Combinators

/-! ## Members that may be left out -/

section Members

variable {α : Type} (name : String) (write : α → Json) (key : String)

@[simp] theorem lookup_optionalMember (value : Option α) :
    (optionalMember name write value).lookup key
      = if key == name then value.map write else none := by
  cases value with
  | none => simp [optionalMember]
  | some a =>
    rw [optionalMember, Option.toList_some, List.map_singleton, List.lookup_cons]
    cases key == name <;> rfl

@[simp] theorem lookup_listMember (items : List Json) :
    (listMember name items).lookup key
      = if key == name then (if items.isEmpty then none else some (.array items)) else none := by
  rw [listMember]
  cases items.isEmpty
  · simp only [Bool.false_eq_true, if_false, List.lookup_cons]
    cases key == name <;> rfl
  · simp

theorem keys_optionalMember (value : Option α) :
    ((optionalMember name write value).map Prod.fst).Sublist [name] := by
  cases value with
  | none => exact List.nil_sublist _
  | some a => exact List.Sublist.refl _

theorem keys_listMember (items : List Json) :
    ((listMember name items).map Prod.fst).Sublist [name] := by
  rw [listMember]
  split
  · exact List.nil_sublist _
  · exact List.Sublist.refl _

end Members

/-! ## Names, literals and operators -/

theorem Ident.reads (i : Ident) : Ident.decoder.Reads i.json i := (reads_string i.name).map Ident.mk

/-- A name is never `null`, so an absent qualifier cannot be mistaken for one. -/
theorem Ident.readBack_ne_null (i : Ident) : i.json.readBack ≠ .null := by
  rw [Ident.json, Json.readBack]
  exact Reading.noConfusion

theorem BindVar.reads (v : BindVar) : BindVar.decoder.Reads v.json v :=
  (reads_string v.name).map BindVar.mk

/-- An optional name under `key`. -/
theorem fills_name {key : String} {ms : List (String × Json)} {value : Option Ident}
    (h : ms.lookup key = value.map Ident.json) :
    (Fields.defaulted key (Decoder.option Ident.decoder) none).Fills ms value :=
  fills_optional h Ident.readBack_ne_null fun i _ => i.reads

/-- A possibly qualified name. -/
theorem reads_qualified {α : Type} (make : Option Ident × Ident → α) (label : String)
    (qualifier : Option Ident) (name : Ident) :
    (((Fields.defaulted "qualifier" (Decoder.option Ident.decoder) none).and
      (Fields.required "name" Ident.decoder)).map make |>.decoder label).Reads
        (.object (optionalMember "qualifier" Ident.json qualifier ++ [("name", name.json)]))
        (make (qualifier, name)) := by
  refine reads_record (.map (.and (fills_name ?_) (fills_required ?_ name.reads) ?_) _) ?_ _
  · simp [List.lookup_append, List.lookup_cons]
  · simp [List.lookup_append]
  · simp
  · rw [List.map_append]
    exact ((keys_optionalMember _ _ _).append (.refl ["name"])).nodup (by decide)

theorem ColumnName.reads (c : ColumnName) : ColumnName.decoder.Reads c.json c :=
  reads_qualified _ _ c.qualifier c.name

theorem TableName.reads (t : TableName) : TableName.decoder.Reads t.json t :=
  reads_qualified _ _ t.qualifier t.name

theorem TableExpr.reads (t : TableExpr) : TableExpr.decoder.Reads t.json t := by
  refine reads_record (.map (.and (fills_required ?_ t.table.reads) (fills_name ?_) ?_) _) ?_ _
  · simp
  · simp [List.lookup_cons]
  · simp
  · exact ((keys_optionalMember _ _ _).cons_cons "table").nodup (by decide)

/-- An integer that a machine word holds under its sign is read back as it is. -/
theorem Reading.ofInteger_toDigits {n : Int} (hlow : -(wordSize / 2 : Nat) ≤ n)
    (hhigh : n < wordSize) :
    Reading.ofInteger (decide (n < 0)) (Nat.toDigits 10 n.natAbs) = .int n := by
  have hvalue : digitsValue (Nat.toDigits 10 n.natAbs) = n.natAbs := by
    rw [digitsValue_eq, Nat.ofDigitChars_ten_toDigits]
  rw [wordSize] at hlow hhigh
  rw [ofInteger, hvalue, wordSize]
  rw [if_neg (by omega)]
  by_cases hneg : n < 0
  · rw [if_neg (by simpa using hneg), if_pos (by omega)]
    congr 1
    omega
  · rw [if_pos (by simpa using hneg)]
    congr 1
    omega

/-- A count that a machine word holds is read back as it is. -/
theorem Reading.ofInteger_word {n : Nat} (h : n < wordSize) :
    Reading.ofInteger (decide ((n : Int) < 0)) (Nat.toDigits 10 (n : Int).natAbs) = .int n :=
  ofInteger_toDigits (by omega) (by exact_mod_cast h)

/-- Strings and integers always come back. A float has to be read back. -/
theorem Literal.reads {l : Literal} (hfloat : ∀ x, l = .float x → x.ReadsBack) :
    Literal.decoder.Reads l.json l := by
  cases l with
  | str s => exact reads_tagged rfl ((reads_string s).map Literal.str)
  | int n =>
    refine reads_tagged rfl (Decoder.Reads.map (v := .int n.toInt) (a := n) ?_ Literal.int)
    intro depth _
    have hlow := n.le_toInt
    have hhigh := n.toInt_lt
    rw [Json.readBack, Reading.ofInteger_toDigits (by rw [wordSize]; omega)
      (by rw [wordSize]; omega), Decoder.int64, Decoder.map_apply, Decoder.integer,
      if_pos (by rw [wordSize]; omega), Except.map, Int64.ofInt_toInt]
  | float x =>
    refine reads_tagged rfl (Decoder.Reads.map (v := .float x) (a := x) ?_ Literal.float)
    intro depth _
    have hx := hfloat x rfl
    rw [Json.readBack, if_pos hx.isFinite, hx.ofNumberText_eq]
    rfl

theorem Comparison.reads (c : Comparison) : Comparison.decoder.Reads c.json c := by
  cases c <;> exact reads_unit rfl

theorem Direction.reads (d : Direction) : Direction.decoder.Reads d.json d := by
  cases d <;> exact reads_unit rfl

/-! ## Expressions -/

/-- The floats among the leaves are read back from their texts. -/
def FloatsReadBack (leaves : List Leaf) : Prop :=
  ∀ x, .literal (.float x) ∈ leaves → x.ReadsBack

theorem floatsReadBack_append {as bs : List Leaf} :
    FloatsReadBack (as ++ bs) ↔ FloatsReadBack as ∧ FloatsReadBack bs := by
  simp only [FloatsReadBack, List.mem_append, or_imp, forall_and]

theorem FloatsReadBack.of_flatMap {α : Type} {leaves : α → List Leaf} {as : List α}
    (h : FloatsReadBack (as.flatMap leaves)) : ∀ a ∈ as, FloatsReadBack (leaves a) :=
  fun a ha x hx => h x (List.mem_flatMap.mpr ⟨a, ha, hx⟩)

theorem Expr.jsons_eq (es : List Expr) : Expr.jsons es = es.map Expr.json := by
  induction es with
  | nil => rw [Expr.jsons]; rfl
  | cons e es ih => rw [Expr.jsons, ih]; rfl

theorem SelectItem.jsons_eq (is : List SelectItem) :
    SelectItem.jsons is = is.map SelectItem.json := by
  induction is with
  | nil => rw [SelectItem.jsons]; rfl
  | cons i is ih => rw [SelectItem.jsons, ih]; rfl

/-- A record that an alternative holds. -/
theorem reads_ofFields {σ α : Type} {f : Fields σ α} {label : String} {v : Json} {a : α}
    (h : (f.decoder label).Reads v a) : (Variant.ofFields label f).applied.Reads v a := h

section Over

variable {d : Decoder Expr}

/-- An entry is read back over any decoder that reads its expression back. -/
theorem SelectItem.reads_over {i : SelectItem}
    (h : ∀ e asName, i = .expr e asName → d.Reads e.json e) :
    (SelectItem.decoderOver d).Reads i.json i := by
  cases i with
  | star => exact reads_unit rfl
  | qualifiedStar table => exact reads_tagged rfl (table.reads.map SelectItem.qualifiedStar)
  | expr e asName =>
    refine reads_tagged rfl (reads_ofFields (reads_record (.map
      (.and (fills_required ?_ (h e asName rfl)) (fills_name ?_) ?_) _) ?_ _))
    · simp
    · simp [List.lookup_cons]
    · simp
    · exact ((keys_optionalMember _ _ _).cons_cons "expr").nodup (by decide)

/-- A call is read back over any decoder that reads the expressions in its arguments back. -/
theorem FuncCall.reads_over {name : Ident} {distinct : Bool} {args : List SelectItem}
    (h : ∀ e asName, .expr e asName ∈ args → d.Reads e.json e) :
    (FuncCall.decoderOver d).Reads (FuncCall.mk name distinct args).json
      ⟨name, distinct, args⟩ := by
  have hargs : (Decoder.list (SelectItem.decoderOver d)).Reads
      (.array (SelectItem.jsons args)) args := by
    rw [SelectItem.jsons_eq]
    exact reads_list fun i hi => SelectItem.reads_over fun e asName he => h e asName (he ▸ hi)
  rw [FuncCall.json]
  refine reads_record (.map (.and (fills_required ?_ name.reads)
    (.and (fills_defaulted false ?_ (reads_bool distinct)) (fills_defaulted [] ?_ hargs) ?_) ?_) _)
    ?_ _
  all_goals simp [List.lookup_cons]

end Over

theorem depth_tagged (name : String) (v : Json) :
    (Json.tagged name v).readBack.depth = v.readBack.depth + 1 := by
  rw [Json.tagged, Json.readBack, Reading.depth, Json.readBackMembers, Json.readBackMembers,
    Reading.depthMembers, Reading.depthMembers, Nat.max_zero]

section Depth

variable {tag : String} {ms : List (String × Json)} {l : Nat}

/-- What a record under a tag holds lies two levels deeper. -/
theorem depth_of_member (hl : (Json.tagged tag (.object ms)).readBack.depth ≤ l) (name : String)
    {v : Json} (hv : ms.lookup name = some v) : v.readBack.depth + 2 ≤ l := by
  have hmember := Json.depth_le_of_lookup hv
  rw [depth_tagged, Json.readBack, Reading.depth] at hl
  omega

/-- The items of a list that it holds lie one more level deeper. -/
theorem depth_of_item (hl : (Json.tagged tag (.object ms)).readBack.depth ≤ l) (name : String)
    {vs : List Json} (hvs : ms.lookup name = some (.array vs)) {v : Json} (hv : v ∈ vs) :
    v.readBack.depth + 3 ≤ l := by
  have hlist := depth_of_member hl name hvs
  have hitem := Json.depth_le_of_mem hv
  rw [Json.readBack, Reading.depth] at hlist
  omega

end Depth

namespace Expr

/-- An expression is read by every decoder with more levels than its text nests. -/
def ReadsTo (e : Expr) : Prop :=
  ∀ levels, e.json.readBack.depth < levels → (decoderTo levels).Reads e.json e

/-- One level pays for the alternative, so what it holds is left one level less. -/
theorem readsTo_of_succ {e : Expr}
    (h : ∀ l, e.json.readBack.depth ≤ l →
      (Variant.decoder (variants (decoderTo l))).Reads e.json e) : e.ReadsTo
  | 0, hlevels => absurd hlevels (by omega)
  | l + 1, hlevels => h l (by omega)

section Parts

variable {e left right : Expr} {tag name label : String} {ms : List (String × Json)} {l : Nat}

/-- A part of an expression is read with the levels that are left. -/
theorem fills_part (hl : (Json.tagged tag (.object ms)).readBack.depth ≤ l)
    (hv : ms.lookup name = some e.json) (h : e.ReadsTo) :
    (Fields.required name (decoderTo l)).Fills ms e := by
  have hpart := depth_of_member hl name hv
  exact fills_required hv (h l (by omega))

/-- Two operands are read with the levels that are left. -/
theorem reads_operands (make : Expr → Expr → Expr)
    (hl : (Json.tagged tag
      (.object [("left", left.json), ("right", right.json)])).readBack.depth ≤ l)
    (hleft : left.ReadsTo) (hright : right.ReadsTo) :
    ((operandFields (decoderTo l) make).decoder label).Reads
      (.object [("left", left.json), ("right", right.json)]) (make left right) := by
  refine reads_record (.map (.and (fills_part hl rfl hleft) (fills_part hl rfl hright) ?_) _) ?_ _
  all_goals simp

end Parts

/-- **An expression whose floats are read back is read back.** -/
theorem readsTo {e : Expr} (hfloats : FloatsReadBack e.leaves) : e.ReadsTo := by
  induction e using Expr.tree_induction with
  | column c => exact readsTo_of_succ fun l _ => reads_tagged rfl (c.reads.map column)
  | literal lit =>
    refine readsTo_of_succ fun l _ => reads_tagged rfl (Decoder.Reads.map (a := lit) ?_ literal)
    exact Literal.reads fun x hx => hfloats x (by simp [leaves, hx])
  | bind v => exact readsTo_of_succ fun l _ => reads_tagged rfl (v.reads.map bind)
  | null => exact readsTo_of_succ fun l _ => reads_unit rfl
  | comparison left op right ihleft ihright =>
    rw [leaves, floatsReadBack_append] at hfloats
    refine readsTo_of_succ fun l hl => ?_
    rw [json] at hl ⊢
    refine reads_tagged rfl (reads_ofFields (reads_record (.map
      (.and (fills_part hl rfl (ihleft hfloats.1)) (.and (fills_required rfl op.reads)
        (fills_part hl rfl (ihright hfloats.2)) ?_) ?_) _) ?_ _))
    all_goals simp
  | and left right ihleft ihright =>
    rw [leaves, floatsReadBack_append] at hfloats
    refine readsTo_of_succ fun l hl => ?_
    rw [json] at hl ⊢
    exact reads_tagged rfl
      (reads_ofFields (reads_operands and hl (ihleft hfloats.1) (ihright hfloats.2)))
  | or left right ihleft ihright =>
    rw [leaves, floatsReadBack_append] at hfloats
    refine readsTo_of_succ fun l hl => ?_
    rw [json] at hl ⊢
    exact reads_tagged rfl
      (reads_ofFields (reads_operands or hl (ihleft hfloats.1) (ihright hfloats.2)))
  | not e ih =>
    refine readsTo_of_succ fun l hl => ?_
    rw [json] at hl ⊢
    rw [depth_tagged] at hl
    exact reads_tagged rfl ((ih hfloats l hl).map not)
  | paren e ih =>
    refine readsTo_of_succ fun l hl => ?_
    rw [json] at hl ⊢
    rw [depth_tagged] at hl
    exact reads_tagged rfl ((ih hfloats l hl).map paren)
  | func name distinct args ih =>
    rw [leaves, SelectItem.listLeaves_eq] at hfloats
    refine readsTo_of_succ fun l hl => ?_
    rw [json] at hl ⊢
    refine reads_tagged rfl ((FuncCall.reads_over fun e asName he => ?_).map func)
    refine ih e asName he (hfloats.of_flatMap (.expr e asName) he) l ?_
    rw [FuncCall.json, SelectItem.jsons_eq] at hl
    have hitem := depth_of_item hl "args" rfl (List.mem_map_of_mem he)
    rw [SelectItem.json] at hitem
    have hpart := depth_of_member (Nat.le_of_add_right_le hitem) "expr" rfl
    omega
  | isIn e negated list ih ihlist =>
    rw [leaves, floatsReadBack_append, listLeaves_eq] at hfloats
    refine readsTo_of_succ fun l hl => ?_
    rw [json, jsons_eq] at hl ⊢
    have hlist : (Decoder.list (decoderTo l)).Reads (.array (list.map json)) list := by
      refine reads_list fun x hx => ihlist x hx (hfloats.2.of_flatMap x hx) l ?_
      have hitem := depth_of_item hl "list" rfl (List.mem_map_of_mem hx)
      omega
    refine reads_tagged rfl (reads_ofFields (reads_record (.map
      (.and (fills_part hl rfl (ih hfloats.1))
        (.and (fills_defaulted false rfl (reads_bool negated)) (fills_required rfl hlist) ?_) ?_)
      _) ?_ _))
    all_goals simp
  | isNull e negated ih =>
    refine readsTo_of_succ fun l hl => ?_
    rw [json] at hl ⊢
    refine reads_tagged rfl (reads_ofFields (reads_record (.map
      (.and (fills_part hl rfl (ih hfloats)) (fills_defaulted false rfl (reads_bool negated)) ?_) _)
      ?_ _))
    all_goals simp

/-- **An expression is read back if its floats are.** -/
theorem reads {e : Expr} (hfloats : FloatsReadBack e.leaves) : decoder.Reads e.json e :=
  fun depth hdepth => readsTo hfloats (depth + 1) (by omega) depth hdepth

/-- An expression is never `null` in a document: the expression `NULL` is a name there. -/
theorem readBack_ne_null (e : Expr) : e.json.readBack ≠ .null := by
  cases e <;> rw [json] <;> exact Reading.noConfusion

end Expr

theorem SelectItem.reads {i : SelectItem} (hfloats : FloatsReadBack i.leaves) :
    SelectItem.decoder.Reads i.json i := by
  refine SelectItem.reads_over fun e asName hi => Expr.reads ?_
  rw [hi, SelectItem.leaves] at hfloats
  exact hfloats

/-! ## Clauses -/

/-- An optional expression under `key`. -/
theorem fills_clause {key : String} {ms : List (String × Json)} {value : Option Expr}
    (h : ms.lookup key = value.map Expr.json) (hfloats : FloatsReadBack (optionLeaves value)) :
    (Fields.defaulted key (Decoder.option Expr.decoder) none).Fills ms value := by
  refine fills_optional h Expr.readBack_ne_null fun e he => Expr.reads ?_
  rwa [Option.mem_def.mp he] at hfloats

theorem OrderItem.reads {o : OrderItem} (hfloats : FloatsReadBack o.expr.leaves) :
    OrderItem.decoder.Reads o.json o := by
  refine reads_record (.map (.and (fills_required ?_ (Expr.reads hfloats))
    (fills_defaulted _ ?_ o.direction.reads) ?_) _) ?_ _
  all_goals simp [List.lookup_cons]

theorem Limit.reads {l : Limit} (hfloats : FloatsReadBack l.leaves) :
    Limit.decoder.Reads l.json l := by
  rw [Limit.leaves, floatsReadBack_append] at hfloats
  refine reads_record (.map (.and (fills_required rfl (Expr.reads hfloats.1))
    (fills_clause ?_ hfloats.2) ?_) _) ?_ _
  · simp [List.lookup_cons]
  · simp
  · exact ((keys_optionalMember _ _ _).cons_cons "rowcount").nodup (by decide)

theorem Assignment.reads {a : Assignment} (hfloats : FloatsReadBack a.value.leaves) :
    Assignment.decoder.Reads a.json a := by
  refine reads_record (.map (.and (fills_required rfl a.column.reads)
    (fills_required rfl (Expr.reads hfloats)) ?_) _) ?_ _
  all_goals simp

theorem Row.reads {r : Row} (hfloats : FloatsReadBack r.leaves) : Row.decoder.Reads r.json r :=
  (reads_list fun e he => Expr.reads (hfloats.of_flatMap e he)).map Row.mk

/-! ## Statements -/

theorem Delete.reads {s : Delete} (hfloats : FloatsReadBack (optionLeaves s.filter)) :
    Delete.decoder.Reads s.json s := by
  refine reads_record
    (.map (.and (fills_required rfl s.table.reads) (fills_clause ?_ hfloats) ?_) _) ?_ _
  · simp [List.lookup_cons]
  · simp
  · exact ((keys_optionalMember _ _ _).cons_cons "table").nodup (by decide)

theorem Update.reads {s : Update}
    (hassignments : ∀ a ∈ s.assignments, FloatsReadBack a.value.leaves)
    (hfilter : FloatsReadBack (optionLeaves s.filter)) : Update.decoder.Reads s.json s := by
  refine reads_record (.map (.and (fills_required ?_ s.table.reads) (.and
    (fills_required ?_ (reads_list fun a ha => Assignment.reads (hassignments a ha)))
    (fills_clause ?_ hfilter) ?_) ?_) _) ?_ _
  · simp
  · simp [List.lookup_cons]
  · simp [List.lookup_cons]
  · simp
  · simp
  · exact (((keys_optionalMember _ _ _).cons_cons "set").cons_cons "table").nodup (by decide)

theorem Insert.reads {s : Insert} (hrows : ∀ r ∈ s.rows, FloatsReadBack r.leaves) :
    Insert.decoder.Reads s.json s := by
  refine reads_record (.map (.and (fills_required ?_ s.table.reads) (.and
    (fills_listed ?_ fun i _ => i.reads)
    (fills_required ?_ (reads_list fun r hr => Row.reads (hrows r hr))) ?_) ?_) _) ?_ _
  · simp
  · simp [List.lookup_append, List.lookup_cons]
  · simp [List.lookup_append, List.lookup_cons]
  · simp
  · simp
  · rw [List.map_append, List.map_append]
    exact (((List.Sublist.refl ["table"]).append (keys_listMember "columns" _)).append
      (.refl ["rows"])).nodup (by decide)

theorem Limit.readBack_ne_null (l : Limit) : l.json.readBack ≠ .null := by
  rw [Limit.json]
  exact Reading.noConfusion

theorem Select.reads {s : Select} (hfloats : FloatsReadBack (Statement.select s).leaves) :
    Select.decoder.Reads s.json s := by
  simp only [Statement.leaves, floatsReadBack_append] at hfloats
  obtain ⟨⟨⟨⟨⟨hcolumns, hfilter⟩, hgroupBy⟩, hhaving⟩, horderBy⟩, hlimit⟩ := hfloats
  refine reads_record (.map (.and (fills_defaulted _ ?_ (reads_bool s.distinct)) (.and
    (fills_required ?_ (reads_list fun i hi => SelectItem.reads (hcolumns.of_flatMap i hi))) (.and
    (fills_defaulted _ ?_ (reads_list fun t _ => t.reads)) (.and
    (fills_clause ?_ hfilter) (.and
    (fills_listed ?_ fun e he => Expr.reads (hgroupBy.of_flatMap e he)) (.and
    (fills_clause ?_ hhaving) (.and
    (fills_listed ?_ fun o ho => OrderItem.reads (horderBy.of_flatMap o ho))
    (fills_optional ?_ Limit.readBack_ne_null fun l hl => Limit.reads ?limit) ?_) ?_) ?_) ?_) ?_)
    ?_) ?_) _) ?keys _
  case limit => rwa [Option.mem_def.mp hl] at hlimit
  case keys =>
    simp only [List.map_append]
    exact ((((((List.Sublist.refl ["distinct", "columns", "from"]).append
      (keys_optionalMember "where" _ _)).append (keys_listMember "group_by" _)).append
      (keys_optionalMember "having" _ _)).append (keys_listMember "order_by" _)).append
      (keys_optionalMember "limit" _ _)).nodup (by decide)
  all_goals simp [List.lookup_append, List.lookup_cons]

/-- **A statement is read back if its floats are.** -/
theorem Statement.reads {s : Statement} (hfloats : FloatsReadBack s.leaves) :
    Statement.decoder.Reads s.json s := by
  cases s with
  | select s => exact reads_tagged rfl ((Select.reads hfloats).map Statement.select)
  | insert s =>
    exact reads_tagged rfl ((Insert.reads fun r hr => hfloats.of_flatMap r hr).map Statement.insert)
  | update s =>
    rw [Statement.leaves, floatsReadBack_append] at hfloats
    exact reads_tagged rfl ((Update.reads (fun a ha => hfloats.1.of_flatMap a ha) hfloats.2).map
      Statement.update)
  | delete s => exact reads_tagged rfl ((Delete.reads hfloats).map Statement.delete)

/-! ## The round trip -/

/-- A value that is read is decoded from every text that is read as it. -/
theorem Decoder.Reads.fromReading {α : Type} {d : Decoder α} {v : Json} {a : α} (h : d.Reads v a)
    (hdepth : v.reading.depth ≤ Decoder.maxDepth) {text : String}
    (htext : Reading.ofText text = ⟨v.readBack, true⟩) : d.fromText text = .ok a := by
  rw [Decoder.fromText, htext]
  dsimp only
  rw [h Decoder.maxDepth (v.depth_readBack ▸ hdepth)]
  rfl

/-- What can be read back is read from its text, if the text is not too deep. -/
theorem Decoder.Reads.fromText {α : Type} {d : Decoder α} {v : Json} {a : α} (h : d.Reads v a)
    (hdepth : v.reading.depth ≤ Decoder.maxDepth) : d.fromText v.compact = .ok a :=
  h.fromReading hdepth (Reading.ofText_compact v)

/-- A valid statement is loaded from every JSON text that it is decoded from. -/
theorem Statement.parse_of_fromText {text : String} {s : Statement}
    (hdecode : Statement.decoder.fromText text = .ok s) (hvalid : s.violation? = none) :
    Statement.parse text .json = .ok s := by
  rw [Statement.parse, Statement.decode, hdecode]
  dsimp only [Except.mapError, bind, Except.bind]
  rw [hvalid]
  rfl

/-- **A statement survives its JSON text.** If its floats are finite, writing and reading floats are
inverse to each other on them, and its JSON nests no deeper than a text may, decoding the compact
text gives back the statement. If it is also free of violations, loading that text from any path
gives it back, and so the same SQL and spans. -/
theorem Statement.json_roundTrip (s : Statement)
    (hfinite : ∀ x, .literal (.float x) ∈ s.leaves → x.isFinite = true)
    (hinverse : ∀ x, .literal (.float x) ∈ s.leaves → x.isFinite = true → x.ReadsBack)
    (hdepth : s.json.reading.depth ≤ Decoder.maxDepth) :
    Statement.decoder.fromText s.json.compact = .ok s ∧
      (s.violation? = none → ∀ p : Path,
        (Statement.parse s.json.compact .json).mapError (LoadError.mk p) = .ok s ∧
        ∀ tracking, ((Statement.parse s.json.compact .json).map fun t => t.write tracking)
          = .ok (s.write tracking)) := by
  have hfloats : FloatsReadBack s.leaves := fun x hx => hinverse x hx (hfinite x hx)
  have hdecode := (Statement.reads hfloats).fromText hdepth
  refine ⟨hdecode, fun hvalid p => ?_⟩
  rw [Statement.parse_of_fromText hdecode hvalid]
  exact ⟨rfl, fun _ => rfl⟩

/-- Everything that is easily lost: a clause that is `NULL` and not absent, the least integer, a
float without a short binary form, and characters that JSON escapes. -/
def fragileSelect : Statement := .select {
  columns := [.expr (.literal (.float ⟨0x3FB999999999999A⟩)) (some ⟨"a\"b\\\n\x01"⟩)]
  filter := some (.comparison (.column ⟨none, ⟨""⟩⟩) .notLike (.literal (.int Int64.minValue)))
  having := some .null }

theorem floatsReadBack_fragileSelect : FloatsReadBack fragileSelect.leaves := by
  intro x hx
  have hleaf : x = ⟨0x3FB999999999999A⟩ := by
    simpa [fragileSelect, Statement.leaves, SelectItem.leaves, optionLeaves, Expr.leaves] using hx
  rw [hleaf]
  -- the text is `0.1`
  exact Double.readsBack_of_short (by decide) (n := ⟨false, .ofNat 0, some (.ofNat 1), none⟩)
    (by decide +kernel) ⟨by decide, by decide⟩

theorem violation?_fragileSelect : fragileSelect.violation? = none := by decide

/-- Nothing of it is lost on the way. -/
theorem Statement.json_roundTrip_fragileSelect :
    (∀ x, .literal (.float x) ∈ fragileSelect.leaves → x.isFinite = true ∧ x.ReadsBack) ∧
      fragileSelect.json.reading.depth ≤ Decoder.maxDepth ∧ fragileSelect.violation? = none ∧
      Statement.decoder.fromText fragileSelect.json.compact = .ok fragileSelect ∧
      ∀ p, (Statement.parse fragileSelect.json.compact .json).mapError (LoadError.mk p)
        = .ok fragileSelect := by
  have hfloats : FloatsReadBack fragileSelect.leaves := floatsReadBack_fragileSelect
  have hdepth : fragileSelect.json.reading.depth ≤ Decoder.maxDepth := by decide
  obtain ⟨hdecode, hparse⟩ := Statement.json_roundTrip fragileSelect
    (fun x hx => (hfloats x hx).isFinite) (fun x hx _ => hfloats x hx) hdepth
  exact ⟨fun x hx => ⟨(hfloats x hx).isFinite, hfloats x hx⟩, hdepth, violation?_fragileSelect,
    hdecode, fun p => (hparse violation?_fragileSelect p).1⟩

end SqlRender
