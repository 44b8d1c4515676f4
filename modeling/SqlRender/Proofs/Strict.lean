import SqlRender.Proofs.Nesting

/-!
# Proofs/Strict — how deep a text may nest to be decoded

`Decoder.Strict d v` says that `d` gives up on the text of `v` unless all of it may nest that deep.
A record skips unknown members whatever their depth, so strictness is about values whose members are
all taken by a field. A statement writes no others, and its text is decoded only within the limit
(`Statement.strict`).
-/

namespace SqlRender

/-! ## Decoders that look at everything -/

section Strict

variable {σ τ α β : Type} {d : Decoder α} {v : Json}

/-- `d` decodes the text of `v` only if the text may nest as deep as it does. -/
def Decoder.Strict (d : Decoder α) (v : Json) : Prop :=
  ∀ ⦃depth a⦄, d .text depth v.readBack = .ok a → v.readBack.depth ≤ depth

/-- Without nesting there is nothing to be strict about. -/
theorem Decoder.strict_flat (d : Decoder α) (hv : v.reading.depth = 0) : d.Strict v := by
  intro depth a _
  rw [v.depth_readBack, hv]
  exact Nat.zero_le depth

theorem Decoder.Strict.map (h : d.Strict v) (f : α → β) : (d.map f).Strict v := by
  intro depth b hb
  obtain ⟨a, ha, _⟩ := map_eq_ok.mp hb
  exact h ha

theorem Decoder.Strict.option (h : d.Strict v) : (Decoder.option d).Strict v := by
  intro depth o ho
  rw [Decoder.option.eq_def] at ho
  split at ho
  case h_1 hnull =>
    rw [hnull]
    exact Nat.zero_le depth
  case h_2 =>
    obtain ⟨a, ha, _⟩ := map_eq_ok.mp ho
    exact h ha

/-- Items that were decoded within a depth are no deeper than it. -/
theorem strict_each {depth : Nat} : ∀ {vs : List Json} {as : List α}, (∀ v ∈ vs, d.Strict v) →
    Decoder.each (d .text depth) (Json.readBackItems vs) = .ok as →
    Reading.depthItems (Json.readBackItems vs) ≤ depth
  | [], _, _, _ => Nat.zero_le depth
  | v :: vs, as, h, has => by
      rw [List.forall_mem_cons] at h
      obtain ⟨a, ha, has⟩ := bind_eq_ok.mp has
      obtain ⟨bs, hbs, _⟩ := bind_eq_ok.mp has
      exact Nat.max_le.mpr ⟨h.1 ha, strict_each h.2 hbs⟩

/-- An array is a level above its items, on both sides. -/
theorem strict_list {vs : List Json} (h : ∀ v ∈ vs, d.Strict v) :
    (Decoder.list d).Strict (.array vs) := by
  intro depth as has
  cases depth with
  | zero => exact absurd has error_ne_ok
  | succ depth =>
    obtain ⟨bs, hbs, _⟩ := bind_eq_ok.mp has
    exact Nat.succ_le_succ (strict_each h hbs)

theorem strict_listOf {write : α → Json} {as : List α} (h : ∀ a ∈ as, d.Strict (write a)) :
    (Decoder.list d).Strict (.array (as.map write)) := strict_list (List.forall_mem_map.mpr h)

/-- A member that one of the fields takes and looks at. -/
def Fields.Checks (f : Fields σ α) (m : String × Json) : Prop :=
  ∃ field ∈ f.fields, field.name = m.1 ∧ field.read.Strict m.2

/-- A field checks the member of its name. -/
theorem Fields.checks_required {name : String} (h : d.Strict v) :
    (Fields.required name d).Checks (name, v) := ⟨_, List.mem_singleton_self _, rfl, h.map _⟩

theorem Fields.checks_defaulted {name : String} {default : α} (h : d.Strict v) :
    (Fields.defaulted name d default).Checks (name, v) :=
  ⟨_, List.mem_singleton_self _, rfl, h.map _⟩

/-- A larger record checks what the first part of it checks. -/
theorem Fields.Checks.left {f : Fields σ α} {g : Fields τ β} {m : String × Json}
    (h : f.Checks m) : (f.and g).Checks m := by
  obtain ⟨field, hmem, hname, hread⟩ := h
  exact ⟨onFirst field, List.mem_append_left _ (List.mem_map_of_mem hmem), hname, hread.map _⟩

/-- It checks what the second part of it checks. -/
theorem Fields.Checks.right {f : Fields σ α} {g : Fields τ β} {m : String × Json}
    (h : g.Checks m) : (f.and g).Checks m := by
  obtain ⟨field, hmem, hname, hread⟩ := h
  exact ⟨onSecond field, List.mem_append_right _ (List.mem_map_of_mem hmem), hname, hread.map _⟩

theorem Fields.Checks.map {f : Fields σ α} {m : String × Json} (h : f.Checks m) (g : α → β) :
    (f.map g).Checks m := h

/-- Where no name comes twice, the field that checks a member is the one that takes it. -/
theorem Fields.Checks.find? {f : Fields σ α} {m : String × Json} (h : f.Checks m)
    (hnames : f.names.Nodup) :
    ∃ field, f.fields.find? (·.name == m.1) = some field ∧ field.read.Strict m.2 := by
  obtain ⟨field, hmem, hname, hread⟩ := h
  obtain ⟨found, hfound⟩ : ∃ found, f.fields.find? (·.name == m.1) = some found :=
    Option.isSome_iff_exists.mp (List.find?_isSome.mpr ⟨field, hmem, beq_iff_eq.mpr hname⟩)
  have hkey : found.name = m.1 := by simpa using List.find?_some hfound
  rw [List.inj_on_of_nodup_map hnames (List.mem_of_find?_eq_some hfound) hmem
    (hkey.trans hname.symm)] at hfound
  exact ⟨field, hfound, hread⟩

/-- Members that were all checked are no deeper than the decoder went. -/
theorem strict_fromMembers {f : Fields σ α} (hnames : f.names.Nodup) {depth : Nat} :
    ∀ {ms : List (String × Json)} {s s' : σ}, (∀ m ∈ ms, f.Checks m) →
      Fields.fromMembers f.fields .text depth s (Json.readBackMembers ms) = .ok s' →
      Reading.depthMembers (Json.readBackMembers ms) ≤ depth
  | [], _, _, _, _ => Nat.zero_le depth
  | (key, v) :: ms, s, s', h, hs' => by
      rw [List.forall_mem_cons] at h
      obtain ⟨field, hfind, hread⟩ := h.1.find? hnames
      rw [Json.readBackMembers, Fields.fromMembers, hfind] at hs'
      dsimp only at hs'
      split at hs'
      · exact absurd hs' error_ne_ok
      · obtain ⟨store, hstore, hs'⟩ := bind_eq_ok.mp hs'
        exact Nat.max_le.mpr ⟨hread hstore, strict_fromMembers hnames h.2 hs'⟩

/-- **A record looks at all members that its fields take.** -/
theorem strict_record {f : Fields σ α} {ms : List (String × Json)} (hnames : f.names.Nodup)
    (h : ∀ m ∈ ms, f.Checks m) (label : String) : (f.decoder label).Strict (.object ms) := by
  intro depth a ha
  cases depth with
  | zero => exact absurd ha error_ne_ok
  | succ depth =>
    obtain ⟨s, hs, _⟩ := bind_eq_ok.mp ha
    exact Nat.succ_le_succ (strict_fromMembers hnames h hs)

/-- An alternative is a level above what it holds, on both sides. -/
theorem strict_tagged {variants : List (String × Variant α)} {name : String}
    {alternative : Variant α} (hfind : variants.lookup name = some alternative)
    (h : alternative.applied.Strict v) : (Variant.decoder variants).Strict (.tagged name v) := by
  intro depth a ha
  rw [depth_tagged]
  cases depth with
  | zero => exact absurd ha error_ne_ok
  | succ depth =>
    obtain ⟨w, hw, ha⟩ := bind_eq_ok.mp ha
    obtain ⟨b, hb, _⟩ := bind_eq_ok.mp ha
    rw [Variant.find, hfind] at hw
    obtain rfl := Except.ok.inj hw
    exact Nat.succ_le_succ (h hb)

end Strict

/-! ## Statements are looked at as a whole -/

/-- What has one level is looked at where a record is decoded. -/
theorem strict_flatRecord {σ α : Type} {f : Fields σ α} {label : String} {ms : List (String × Json)}
    (h : (Json.object ms).reading.depth ≤ 1) : (f.decoder label).Strict (.object ms) := by
  intro depth a ha
  rw [Json.depth_readBack]
  cases depth with
  | zero => exact absurd ha error_ne_ok
  | succ depth => exact h.trans (Nat.le_add_left 1 depth)

theorem Literal.strict (l : Literal) : Literal.decoder.Strict l.json := by
  cases l with
  | str s => exact strict_tagged rfl (Decoder.strict_flat _ rfl)
  | int n => exact strict_tagged rfl (Decoder.strict_flat _ rfl)
  | float x => exact strict_tagged rfl (Decoder.strict_flat _ rfl)

section Over

variable {d : Decoder Expr}

theorem SelectItem.strict_over {i : SelectItem}
    (h : ∀ e asName, i = .expr e asName → d.Strict e.json) :
    (SelectItem.decoderOver d).Strict i.json := by
  cases i with
  | star => exact Decoder.strict_flat _ rfl
  | qualifiedStar table => exact strict_tagged rfl (Decoder.strict_flat _ rfl)
  | expr e asName =>
    rw [SelectItem.json]
    refine strict_tagged rfl (strict_record (by simp) ?_ _)
    rw [List.forall_mem_cons, forall_optionalMember]
    exact ⟨(Fields.checks_required (h e asName rfl)).left.map _,
      fun i _ => (Fields.checks_defaulted (Decoder.strict_flat _ i.depth_json)).right.map _⟩

/-- A call is as strict as its arguments; the array around them counts even when it is empty. -/
theorem FuncCall.strict_over {name : Ident} {distinct : Bool} {args : List SelectItem}
    (h : ∀ e asName, .expr e asName ∈ args → d.Strict e.json) :
    (FuncCall.decoderOver d).Strict (FuncCall.mk name distinct args).json := by
  rw [FuncCall.json, SelectItem.jsons_eq]
  refine strict_record (by simp) ?_ _
  simp only [List.forall_mem_cons]
  refine ⟨(Fields.checks_required (Decoder.strict_flat _ name.depth_json)).left.map _,
    (Fields.checks_defaulted (Decoder.strict_flat _ rfl)).left.right.map _,
    (Fields.checks_defaulted (strict_listOf fun i hi => ?_)).right.right.map _, by simp⟩
  exact SelectItem.strict_over fun e asName hie => h e asName (hie ▸ hi)

theorem strict_operands {left right : Expr} (hleft : d.Strict left.json)
    (hright : d.Strict right.json) (make : Expr → Expr → Expr) (label : String) :
    ((operandFields d make).decoder label).Strict
      (.object [("left", left.json), ("right", right.json)]) := by
  refine strict_record (by simp [operandFields]) ?_ _
  simp only [List.forall_mem_cons]
  exact ⟨(Fields.checks_required hleft).left.map _, (Fields.checks_required hright).right.map _,
    by simp⟩

end Over

/-- **An expression is looked at as a whole**, by the decoder of any number of levels. -/
theorem Expr.strictTo (e : Expr) : ∀ levels, (Expr.decoderTo levels).Strict e.json := by
  have hsucc : ∀ {e : Expr}, (∀ l, (Variant.decoder (Expr.variants (Expr.decoderTo l))).Strict
      e.json) → ∀ levels, (Expr.decoderTo levels).Strict e.json := by
    intro e h levels
    cases levels with
    | zero => exact fun _ _ ha => absurd ha error_ne_ok
    | succ l => exact h l
  induction e using Expr.tree_induction with
  | column c =>
    refine hsucc fun l => ?_
    rw [Expr.json]
    exact strict_tagged rfl (Decoder.Strict.map (strict_flatRecord c.depth_json_le) _)
  | literal lit =>
    refine hsucc fun l => ?_
    rw [Expr.json]
    exact strict_tagged rfl (lit.strict.map _)
  | bind v =>
    refine hsucc fun l => ?_
    rw [Expr.json]
    exact strict_tagged rfl (Decoder.strict_flat _ rfl)
  | null =>
    rw [Expr.json]
    exact fun levels => Decoder.strict_flat _ rfl
  | comparison left op right hleft hright =>
    refine hsucc fun l => ?_
    rw [Expr.json]
    refine strict_tagged rfl (strict_record (by simp) ?_ _)
    simp only [List.forall_mem_cons]
    exact ⟨(Fields.checks_required (hleft l)).left.map _,
      (Fields.checks_required (Decoder.strict_flat _ op.depth_json)).left.right.map _,
      (Fields.checks_required (hright l)).right.right.map _, by simp⟩
  | and left right hleft hright =>
    refine hsucc fun l => ?_
    rw [Expr.json]
    exact strict_tagged rfl (strict_operands (hleft l) (hright l) _ _)
  | or left right hleft hright =>
    refine hsucc fun l => ?_
    rw [Expr.json]
    exact strict_tagged rfl (strict_operands (hleft l) (hright l) _ _)
  | not e he =>
    refine hsucc fun l => ?_
    rw [Expr.json]
    exact strict_tagged rfl ((he l).map _)
  | paren e he =>
    refine hsucc fun l => ?_
    rw [Expr.json]
    exact strict_tagged rfl ((he l).map _)
  | func name distinct args hargs =>
    refine hsucc fun l => ?_
    rw [Expr.json]
    exact strict_tagged rfl
      ((FuncCall.strict_over fun e asName hmem => hargs e asName hmem l).map _)
  | isIn e negated list he hlist =>
    refine hsucc fun l => ?_
    rw [Expr.json, Expr.jsons_eq]
    refine strict_tagged rfl (strict_record (by simp) ?_ _)
    simp only [List.forall_mem_cons]
    exact ⟨(Fields.checks_required (he l)).left.map _,
      (Fields.checks_defaulted (Decoder.strict_flat _ rfl)).left.right.map _,
      (Fields.checks_required (strict_listOf fun x hx => hlist x hx l)).right.right.map _, by simp⟩
  | isNull e negated he =>
    refine hsucc fun l => ?_
    rw [Expr.json]
    refine strict_tagged rfl (strict_record (by simp) ?_ _)
    simp only [List.forall_mem_cons]
    exact ⟨(Fields.checks_required (he l)).left.map _,
      (Fields.checks_defaulted (Decoder.strict_flat _ rfl)).right.map _, by simp⟩

/-- **An expression that is too deep is not decoded from what is written of it.** -/
theorem Expr.strict (e : Expr) : Expr.decoder.Strict e.json :=
  fun depth _ ha => e.strictTo (depth + 1) ha

theorem SelectItem.strict (i : SelectItem) : SelectItem.decoder.Strict i.json :=
  SelectItem.strict_over fun e _ _ => e.strict

theorem TableExpr.strict (t : TableExpr) : TableExpr.decoder.Strict t.json := by
  refine strict_record (by simp) ?_ _
  rw [List.forall_mem_cons, forall_optionalMember]
  exact ⟨(Fields.checks_required (strict_flatRecord t.table.depth_json_le)).left.map _,
    fun i _ => (Fields.checks_defaulted (Decoder.strict_flat _ i.depth_json)).right.map _⟩

theorem OrderItem.strict (o : OrderItem) : OrderItem.decoder.Strict o.json := by
  refine strict_record (by simp) ?_ _
  simp only [List.forall_mem_cons]
  exact ⟨(Fields.checks_required o.expr.strict).left.map _,
    (Fields.checks_defaulted (Decoder.strict_flat _ o.direction.depth_json)).right.map _, by simp⟩

theorem Limit.strict (l : Limit) : Limit.decoder.Strict l.json := by
  refine strict_record (by simp) ?_ _
  rw [List.forall_mem_cons, forall_optionalMember]
  exact ⟨(Fields.checks_required l.rowcount.strict).left.map _,
    fun e _ => (Fields.checks_defaulted e.strict.option).right.map _⟩

theorem Assignment.strict (a : Assignment) : Assignment.decoder.Strict a.json := by
  refine strict_record (by simp) ?_ _
  simp only [List.forall_mem_cons]
  exact ⟨(Fields.checks_required (strict_flatRecord a.column.depth_json_le)).left.map _,
    (Fields.checks_required a.value.strict).right.map _, by simp⟩

theorem Row.strict (r : Row) : Row.decoder.Strict r.json :=
  (strict_listOf fun e _ => e.strict).map _

theorem checks_filterField (e : Expr) : filterField.Checks ("where", e.json) :=
  Fields.checks_defaulted e.strict.option

@[simp] theorem names_filterField : filterField.names = ["where"] := rfl

theorem Select.strict (s : Select) : Select.decoder.Strict s.json := by
  refine strict_record (by simp) ?_ _
  simp only [List.forall_mem_append, List.forall_mem_cons, forall_optionalMember]
  refine ⟨⟨⟨⟨⟨⟨?_, ?_, ?_, by simp⟩, fun e _ => ?_⟩, forall_listMember ?_⟩, fun e _ => ?_⟩,
    forall_listMember ?_⟩, fun l _ => ?_⟩
  · exact (Fields.checks_defaulted (Decoder.strict_flat _ rfl)).left.map _
  · exact (Fields.checks_required (strict_listOf fun i _ => i.strict)).left.right.map _
  · exact (Fields.checks_defaulted (strict_listOf fun t _ => t.strict)).left.right.right.map _
  · exact (checks_filterField e).left.right.right.right.map _
  · exact (Fields.checks_defaulted
      (strict_listOf fun e _ => e.strict)).left.right.right.right.right.map _
  · exact (Fields.checks_defaulted e.strict.option).left.right.right.right.right.right.map _
  · exact (Fields.checks_defaulted
      (strict_listOf fun o _ => o.strict)).left.right.right.right.right.right.right.map _
  · exact (Fields.checks_defaulted
      l.strict.option).right.right.right.right.right.right.right.map _

theorem Insert.strict (s : Insert) : Insert.decoder.Strict s.json := by
  refine strict_record (by simp) ?_ _
  simp only [List.forall_mem_append, List.forall_mem_singleton]
  exact ⟨⟨(Fields.checks_required (strict_flatRecord s.table.depth_json_le)).left.map _,
    forall_listMember ((Fields.checks_defaulted
      (strict_listOf fun i _ => Decoder.strict_flat _ i.depth_json)).left.right.map _)⟩,
    (Fields.checks_required (strict_listOf fun r _ => r.strict)).right.right.map _⟩

theorem Update.strict (s : Update) : Update.decoder.Strict s.json := by
  refine strict_record (by simp) ?_ _
  simp only [List.forall_mem_append, List.forall_mem_cons, forall_optionalMember]
  exact ⟨⟨(Fields.checks_required (strict_flatRecord s.table.depth_json_le)).left.map _,
    (Fields.checks_required (strict_listOf fun a _ => a.strict)).left.right.map _, by simp⟩,
    fun e _ => (checks_filterField e).right.right.map _⟩

theorem Delete.strict (s : Delete) : Delete.decoder.Strict s.json := by
  refine strict_record (by simp) ?_ _
  rw [List.forall_mem_cons, forall_optionalMember]
  exact ⟨(Fields.checks_required (strict_flatRecord s.table.depth_json_le)).left.map _,
    fun e _ => (checks_filterField e).right.map _⟩

/-- **The text of a statement is decoded only within the limit.** -/
theorem Statement.strict (s : Statement) : Statement.decoder.Strict s.json := by
  cases s with
  | select s => exact strict_tagged rfl (s.strict.map _)
  | insert s => exact strict_tagged rfl (s.strict.map _)
  | update s => exact strict_tagged rfl (s.strict.map _)
  | delete s => exact strict_tagged rfl (s.strict.map _)

end SqlRender
