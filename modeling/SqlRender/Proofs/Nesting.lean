import SqlRender.Proofs.RoundTrip

/-!
# Proofs/Nesting — how deep a statement nests once it is written again

`Decoder.Yields d P` bounds what `d` decodes by the depth of what it was decoded from. It is built
along the decoders: a field that is left out yields its default, a record nests one level deeper
than its parts, and a choice yields what its alternatives yield. So a statement that is written as
JSON again nests at most one level deeper than its document (`Statement.yields`). The one level is
that of the arguments of a call and of the `from` list, which are written even where the document
left them out.
-/

namespace SqlRender

/-! ## Depth of a value -/

namespace Json

/-- An array is a level above its items. -/
theorem depth_array_le {vs : List Json} {n : Nat} :
    (Json.array vs).reading.depth ≤ n + 1 ↔ ∀ v ∈ vs, v.reading.depth ≤ n := by
  have hitems : Reading.depthItems (readings vs) ≤ n ↔ ∀ v ∈ vs, v.reading.depth ≤ n := by
    induction vs with
    | nil => simp [readings, Reading.depthItems]
    | cons v vs ih => rw [readings, Reading.depthItems, Nat.max_le, ih, List.forall_mem_cons]
  rw [reading, Reading.depth, Nat.succ_le_succ_iff, hitems]

/-- An object is a level above its members. -/
theorem depth_object_le {ms : List (String × Json)} {n : Nat} :
    (Json.object ms).reading.depth ≤ n + 1 ↔ ∀ m ∈ ms, m.2.reading.depth ≤ n := by
  have hmembers : Reading.depthMembers (memberReadings ms) ≤ n ↔
      ∀ m ∈ ms, m.2.reading.depth ≤ n := by
    induction ms with
    | nil => simp [memberReadings, Reading.depthMembers]
    | cons m ms ih =>
      rw [memberReadings, Reading.depthMembers, Nat.max_le, ih, List.forall_mem_cons]
  rw [reading, Reading.depth, Nat.succ_le_succ_iff, hmembers]

/-- An alternative is a level above what it holds. -/
theorem depth_tagged_le {name : String} {v : Json} {n : Nat} :
    (Json.tagged name v).reading.depth ≤ n + 1 ↔ v.reading.depth ≤ n := by
  rw [tagged, depth_object_le]
  simp

end Json

theorem forall_optionalMember {α : Type} {name : String} {write : α → Json} {value : Option α}
    {P : String × Json → Prop} :
    (∀ m ∈ optionalMember name write value, P m) ↔ ∀ a ∈ value, P (name, write a) := by
  cases value <;> simp [optionalMember]

/-- What holds of the member of a list holds of it when it is left out, too. -/
theorem forall_listMember {name : String} {items : List Json} {P : String × Json → Prop}
    (h : P (name, .array items)) : ∀ m ∈ listMember name items, P m := by
  rw [listMember]
  split
  · simp
  · simpa using h

/-! ## What decoders yield -/

section Yields

variable {σ τ α β : Type} {d : Decoder α} {P : Nat → α → Prop} {Q : Nat → β → Prop}

/-- What `d` decodes from a reading that nests at most `n` deep has `P n`. -/
def Decoder.Yields (d : Decoder α) (P : Nat → α → Prop) : Prop :=
  ∀ ⦃walk depth r a n⦄, d walk depth r = .ok a → r.depth ≤ n → P n a

/-- Nothing is promised of a decoder that nothing is known of. -/
theorem Decoder.yields_true (d : Decoder α) : d.Yields fun _ _ => True :=
  fun _ _ _ _ _ _ _ => trivial

theorem Decoder.Yields.map {f : α → β} (h : d.Yields fun n a => Q n (f a)) :
    (d.map f).Yields Q := by
  intro walk depth r b n hb hn
  obtain ⟨a, ha, rfl⟩ := map_eq_ok.mp hb
  exact h ha hn

theorem Decoder.Yields.option (h : d.Yields P) :
    (Decoder.option d).Yields fun n o => ∀ a ∈ o, P n a := by
  intro walk depth r o n ho hn a ha
  rw [Option.mem_def.mp ha, Decoder.option.eq_def] at ho
  split at ho
  · exact absurd ho (by simp)
  · obtain ⟨b, hb, hba⟩ := map_eq_ok.mp ho
    exact Option.some.inj hba ▸ h hb hn

/-- A bound on readings bounds everything decoded from them. -/
theorem Decoder.Yields.each (h : d.Yields P) {walk : Walk} {depth n : Nat} :
    ∀ {rs : List Reading} {as : List α}, Decoder.each (d walk depth) rs = .ok as →
      (∀ r ∈ rs, r.depth ≤ n) → ∀ a ∈ as, P n a
  | [], as, has, _ => by
      obtain rfl := Except.ok.inj has
      simp
  | r :: rs, as, has, hrs => by
      obtain ⟨a, ha, has⟩ := bind_eq_ok.mp has
      obtain ⟨bs, hbs, has⟩ := bind_eq_ok.mp has
      obtain rfl := Except.ok.inj has
      rw [List.forall_mem_cons] at hrs ⊢
      exact ⟨h ha hrs.1, h.each hbs hrs.2⟩

/-- A list is a level above its items. -/
theorem Decoder.Yields.list (h : d.Yields P) {Q : Nat → List α → Prop}
    (hQ : ∀ n as, (∀ a ∈ as, P n a) → Q (n + 1) as) : (Decoder.list d).Yields Q := by
  intro walk depth r as n has hn
  rw [Decoder.list.eq_def] at has
  split at has
  · exact absurd has error_ne_ok
  · obtain ⟨bs, hbs, has⟩ := bind_eq_ok.mp has
    obtain ⟨_, _, has⟩ := bind_eq_ok.mp has
    obtain rfl := Except.ok.inj has
    rw [Reading.depth] at hn
    obtain ⟨n, rfl⟩ := Nat.exists_eq_add_of_le' (Nat.one_le_of_lt hn)
    exact hQ n bs (h.each hbs (Reading.depthItems_le.mp (Nat.le_of_succ_le_succ hn)))
  · exact absurd has error_ne_ok

/-! ### Records -/

/-- The fields decode parts that nest at most `n` deep to a record with `P n`. Every store keeps an
invariant of the state that is filled. -/
def Fields.Yields (f : Fields σ α) (P : Nat → α → Prop) : Prop :=
  ∃ I : Nat → σ → Prop, (∀ n, I n f.start) ∧
    (∀ field ∈ f.fields, field.read.Yields fun n store => ∀ s, I n s → I n (store s)) ∧
    ∀ n s a, I n s → f.finish s = .ok a → P n a

/-- One field keeps its bound, whatever becomes of its absence. -/
theorem Fields.yields_one {name : String} {optional : Bool}
    {finish : Option α → Except DocumentError α} (h : d.Yields P)
    (hfinish : ∀ n s a, (∀ b ∈ s, P n b) → finish s = .ok a → P n a) :
    (Fields.one name optional d finish).Yields P := by
  refine ⟨fun n s => ∀ b ∈ s, P n b, fun n => by simp [Fields.one], ?_, hfinish⟩
  rintro field hfield
  obtain rfl := List.mem_singleton.mp hfield
  refine .map fun _ _ _ _ _ hd hn _ _ b hb => ?_
  exact Option.some.inj hb ▸ h hd hn

theorem Fields.yields_required {name : String} (h : d.Yields P) :
    (Fields.required name d).Yields P := by
  refine Fields.yields_one h fun n s a hs ha => ?_
  cases s with
  | none => exact absurd ha error_ne_ok
  | some b => exact Except.ok.inj ha ▸ hs b rfl

/-- A field that may be left out keeps a bound that its default has at any depth. -/
theorem Fields.yields_defaulted {name : String} {default : α} (h : d.Yields P)
    (hdefault : ∀ n, P n default) : (Fields.defaulted name d default).Yields P := by
  refine Fields.yields_one h fun n s a hs ha => ?_
  obtain rfl := Except.ok.inj ha
  cases s with
  | none => exact hdefault n
  | some b => exact hs b rfl

/-- A field whose value does not matter. -/
theorem Fields.yields_flag {name : String} {default : α} :
    (Fields.defaulted name d default).Yields fun _ _ => True :=
  Fields.yields_defaulted d.yields_true fun _ => trivial

/-- A clause that may be missing. -/
theorem Fields.yields_optional {name : String} (h : d.Yields P) :
    (Fields.defaulted name (Decoder.option d) none).Yields fun n o => ∀ a ∈ o, P n a :=
  Fields.yields_defaulted h.option (by simp)

theorem Fields.Yields.and {f : Fields σ α} {g : Fields τ β} (hf : f.Yields P) (hg : g.Yields Q) :
    (f.and g).Yields fun n p => P n p.1 ∧ Q n p.2 := by
  obtain ⟨I, hstart, hread, hfinish⟩ := hf
  obtain ⟨J, hstart', hread', hfinish'⟩ := hg
  refine ⟨fun n s => I n s.1 ∧ J n s.2, fun n => ⟨hstart n, hstart' n⟩, fun field hfield => ?_,
    fun n s p hs hp => ?_⟩
  · rcases List.mem_append.mp hfield with hfield | hfield
    · obtain ⟨a, ha, rfl⟩ := List.mem_map.mp hfield
      exact .map fun _ _ _ _ _ hd hn s hs => ⟨hread a ha hd hn s.1 hs.1, hs.2⟩
    · obtain ⟨b, hb, rfl⟩ := List.mem_map.mp hfield
      exact .map fun _ _ _ _ _ hd hn s hs => ⟨hs.1, hread' b hb hd hn s.2 hs.2⟩
  · obtain ⟨a, ha, hp⟩ := bind_eq_ok.mp hp
    obtain ⟨b, hb, hp⟩ := bind_eq_ok.mp hp
    obtain rfl := Except.ok.inj hp
    exact ⟨hfinish n s.1 a hs.1 ha, hfinish' n s.2 b hs.2 hb⟩

theorem Fields.Yields.map {f : Fields σ α} {h : α → β} (hf : f.Yields fun n a => Q n (h a)) :
    (f.map h).Yields Q := by
  obtain ⟨I, hstart, hread, hfinish⟩ := hf
  refine ⟨I, hstart, hread, fun n s b hs hb => ?_⟩
  obtain ⟨a, ha, rfl⟩ := map_eq_ok.mp hb
  exact hfinish n s a hs ha

theorem Fields.Yields.mono {f : Fields σ α} {P' : Nat → α → Prop} (hf : f.Yields P)
    (h : ∀ n a, P n a → P' n a) : f.Yields P' := by
  obtain ⟨I, hstart, hread, hfinish⟩ := hf
  exact ⟨I, hstart, hread, fun n s a hs ha => h n a (hfinish n s a hs ha)⟩

section Fill

variable {I : Nat → σ → Prop} {walk : Walk} {depth n : Nat}

/-- An invariant of every field is one of filling them from an object. -/
theorem Fields.fromMembers_keeps {fields : List (Field σ)}
    (hread : ∀ f ∈ fields, f.read.Yields fun n store => ∀ s, I n s → I n (store s)) :
    ∀ {ms : Members} {s s' : σ}, Fields.fromMembers fields walk depth s ms = .ok s' →
      (∀ m ∈ ms, m.2.depth ≤ n) → I n s → I n s'
  | [], s, s', hs', _, hs => Except.ok.inj hs' ▸ hs
  | (none, _) :: _, _, _, hs', _, _ => absurd hs' error_ne_ok
  | (some key, r) :: ms, s, s', hs', hms, hs => by
      rw [Fields.fromMembers] at hs'
      rw [List.forall_mem_cons] at hms
      split at hs'
      · split at hs'
        · exact Fields.fromMembers_keeps hread hs' hms.2 hs
        · exact absurd hs' error_ne_ok
      case h_2 f hfind =>
        split at hs'
        · exact absurd hs' error_ne_ok
        · obtain ⟨store, hstore, hs'⟩ := bind_eq_ok.mp hs'
          exact Fields.fromMembers_keeps hread hs' hms.2
            (hread f (List.mem_of_find?_eq_some hfind) hstore hms.1 s hs)

/-- An invariant of every field is one of filling them from an array. -/
theorem Fields.fromItems_keeps {label : String} {count : Nat} {closed : Bool} :
    ∀ {fields : List (Field σ)},
      (∀ f ∈ fields, f.read.Yields fun n store => ∀ s, I n s → I n (store s)) →
      ∀ {position : Nat} {items : List Reading} {s : σ} {p : σ × List Reading},
      Fields.fromItems label walk depth count position fields s items closed = .ok p →
      (∀ r ∈ items, r.depth ≤ n) → I n s → I n p.1
  | [], _, _, _, s, p, hp, _, hs => by
      rw [Fields.fromItems] at hp
      exact Except.ok.inj hp ▸ hs
  | f :: fields, hread, position, [], s, p, hp, hitems, hs => by
      rw [Fields.fromItems] at hp
      split at hp
      · exact absurd hp error_ne_ok
      · split at hp
        · exact Fields.fromItems_keeps (List.forall_mem_cons.mp hread).2 hp hitems hs
        · exact absurd hp error_ne_ok
  | f :: fields, hread, position, r :: items, s, p, hp, hitems, hs => by
      rw [Fields.fromItems] at hp
      rw [List.forall_mem_cons] at hread hitems
      obtain ⟨store, hstore, hp⟩ := bind_eq_ok.mp hp
      exact Fields.fromItems_keeps hread.2 hp hitems.2 (hread.1 hstore hitems.1 s hs)

end Fill

/-- A record nests one level deeper than its parts, given as an object or as an array. -/
theorem Fields.Yields.decoder {f : Fields σ α} (hf : f.Yields fun n a => P (n + 1) a)
    (label : String) : (f.decoder label).Yields P := by
  obtain ⟨I, hstart, hread, hfinish⟩ := hf
  intro walk depth r a n ha hn
  rw [Fields.decoder.eq_def] at ha
  split at ha
  case h_4 items closed depth =>
    obtain ⟨p, hp, ha⟩ := bind_eq_ok.mp ha
    obtain ⟨b, hb, ha⟩ := bind_eq_ok.mp ha
    rw [Reading.depth] at hn
    obtain ⟨n, rfl⟩ := Nat.exists_eq_add_of_le' (Nat.one_le_of_lt hn)
    have hparts := Reading.depthItems_le.mp (Nat.le_of_succ_le_succ hn)
    have hyield := hfinish n p.1 b (Fields.fromItems_keeps hread hp hparts (hstart n)) hb
    split at ha
    · exact Except.ok.inj ha ▸ hyield
    · split at ha <;> exact absurd ha error_ne_ok
  case h_5 members closed depth =>
    obtain ⟨s, hs, ha⟩ := bind_eq_ok.mp ha
    obtain ⟨_, _, ha⟩ := bind_eq_ok.mp ha
    rw [Reading.depth] at hn
    obtain ⟨n, rfl⟩ := Nat.exists_eq_add_of_le' (Nat.one_le_of_lt hn)
    have hparts := Reading.depthMembers_le.mp (Nat.le_of_succ_le_succ hn)
    exact hfinish n s a (Fields.fromMembers_keeps hread hs hparts (hstart n)) ha
  all_goals exact absurd ha error_ne_ok

/-! ### Alternatives -/

/-- An alternative yields `P` for a reading of the whole choice. -/
def Variant.Yields (P : Nat → α → Prop) : Variant α → Prop
  | .unit a => ∀ n, P n a
  | .holds d | .record d => d.Yields fun n a => P (n + 1) a

/-- A record of an alternative stands two levels below it: under the name and in its own object. -/
theorem Variant.yields_ofFields {f : Fields σ α} {label : String}
    (hf : f.Yields fun n a => P (n + 1 + 1) a) : (Variant.ofFields label f).Yields P := by
  have hdecoder : (f.decoder label).Yields fun n a => P (n + 1) a := hf.decoder label
  intro walk depth r a n ha hn
  dsimp only at ha
  split at ha
  · exact hdecoder ha hn
  · exact hdecoder ha hn
  · exact absurd ha error_ne_ok

/-- What an alternative holds is a level below it. -/
theorem Variant.Yields.applied {v : Variant α} (hv : v.Yields P) :
    v.applied.Yields fun n a => P (n + 1) a := by
  cases v with
  | unit b =>
    intro walk depth r a n ha _
    cases r with
    | null => exact Except.ok.inj ha ▸ hv _
    | _ => exact absurd ha error_ne_ok
  | holds d => exact hv
  | record d => exact hv

/-- An alternative that is only a name keeps to its bound at any depth. -/
theorem Variant.Yields.bare {v : Variant α} (hv : v.Yields P) {a : α} (ha : v.bare = .ok a)
    (n : Nat) : P n a := by
  cases v with
  | unit b => exact Except.ok.inj ha ▸ hv n
  | holds d => exact absurd ha error_ne_ok
  | record d => exact absurd ha error_ne_ok

theorem Variant.mem_of_find {variants : List (String × Variant α)} {name : String} {v : Variant α}
    (h : Variant.find variants name = .ok v) : (name, v) ∈ variants := by
  rw [Variant.find] at h
  split at h
  case h_1 w hw =>
    obtain rfl := Except.ok.inj h
    obtain ⟨front, back, rfl, _⟩ := List.lookup_eq_some_iff.mp hw
    simp
  case h_2 => exact absurd h error_ne_ok

/-- **A choice yields what all its alternatives yield**, in a text and in a tree. -/
theorem Variant.yields_decoder {variants : List (String × Variant α)}
    (h : ∀ v ∈ variants, v.2.Yields P) : (Variant.decoder variants).Yields P := by
  have hheld : ∀ {walk depth key r n a ms closed}, (key, r) ∈ ms →
      (Reading.object ms closed).depth ≤ n →
      ∀ {v : Variant α}, Variant.find variants (key.getD "") = .ok v →
      v.applied walk depth r = .ok a → P n a := by
    intro walk depth key r n a ms closed hmem hn v hv ha
    rw [Reading.depth] at hn
    obtain ⟨n, rfl⟩ := Nat.exists_eq_add_of_le' (Nat.one_le_of_lt hn)
    exact (h _ (Variant.mem_of_find hv)).applied ha
      (Reading.depthMembers_le.mp (Nat.le_of_succ_le_succ hn) (key, r) hmem)
  intro walk depth r a n ha hn
  cases walk with
  | text =>
    rw [Variant.decoder, Variant.decodeText.eq_def] at ha
    split at ha
    · obtain ⟨v, hv, ha⟩ := bind_eq_ok.mp ha
      exact (h _ (Variant.mem_of_find hv)).bare ha n
    · split at ha
      · exact absurd ha error_ne_ok
      · obtain ⟨v, hv, ha⟩ := bind_eq_ok.mp ha
        obtain ⟨b, hb, ha⟩ := bind_eq_ok.mp ha
        obtain ⟨_, _, ha⟩ := bind_eq_ok.mp ha
        obtain rfl := Except.ok.inj ha
        exact hheld List.mem_cons_self hn hv hb
    · split at ha <;> exact absurd ha error_ne_ok
    · exact absurd ha error_ne_ok
  | tree =>
    rw [Variant.decoder, Variant.decodeTree.eq_def] at ha
    split at ha
    · obtain ⟨v, hv, ha⟩ := bind_eq_ok.mp ha
      exact (h _ (Variant.mem_of_find hv)).bare ha n
    · obtain ⟨v, hv, ha⟩ := bind_eq_ok.mp ha
      exact hheld List.mem_cons_self hn hv ha
    · exact absurd ha error_ne_ok
    · exact absurd ha error_ne_ok

end Yields

/-! ## A statement nests one level deeper at most -/

/-- What is written for `a` nests at most one level deeper than `n`. -/
def NestsTo {α : Type} (write : α → Json) (n : Nat) (a : α) : Prop :=
  (write a).reading.depth ≤ n + 1

/-- A list keeps to the bound if its items do. -/
theorem yields_listOf {α : Type} {d : Decoder α} {write : α → Json} (h : d.Yields (NestsTo write)) :
    (Decoder.list d).Yields (NestsTo fun as => .array (as.map write)) :=
  h.list fun _ _ has => Json.depth_array_le.mpr (List.forall_mem_map.mpr has)

/-- An array is written for a list even if there was none. -/
theorem yields_listField {α : Type} {d : Decoder α} {write : α → Json} {name : String}
    (h : d.Yields (NestsTo write)) :
    (Fields.defaulted name (Decoder.list d) []).Yields
      (NestsTo fun as => .array (as.map write)) :=
  Fields.yields_defaulted (yields_listOf h) fun n => Json.depth_array_le.mpr (by simp)

/-- What is written for a leaf has one level at most. -/
theorem yields_flat {α : Type} {d : Decoder α} {write : α → Json}
    (h : ∀ a, (write a).reading.depth ≤ 1) : d.Yields (NestsTo write) :=
  fun _ _ _ a n _ _ => (h a).trans (Nat.le_add_left 1 n)

/-- An alternative is written under its tag. -/
theorem yields_tagged {α β : Type} {d : Decoder α} {write : α → Json} {write' : β → Json}
    {make : α → β} {tag : String} (hd : d.Yields (NestsTo write))
    (hmake : ∀ a, write' (make a) = .tagged tag (write a)) :
    (Variant.holds (d.map make)).Yields (NestsTo write') := by
  refine .map fun _ _ _ a n ha hn => ?_
  simp only [NestsTo, hmake, Json.depth_tagged_le]
  exact hd ha hn

theorem Ident.depth_json (i : Ident) : i.json.reading.depth = 0 := rfl

theorem Ident.depth_json_le (i : Ident) : i.json.reading.depth ≤ 1 := Nat.zero_le 1

theorem BindVar.depth_json_le (v : BindVar) : v.json.reading.depth ≤ 1 := Nat.zero_le 1

theorem Comparison.depth_json (op : Comparison) : op.json.reading.depth = 0 := by cases op <;> rfl

theorem Direction.depth_json (d : Direction) : d.json.reading.depth = 0 := by cases d <;> rfl

theorem depth_bool (b : Bool) : (Json.bool b).reading.depth = 0 := rfl

/-- What is written for a column name never nests. -/
theorem ColumnName.depth_json_le (c : ColumnName) : c.json.reading.depth ≤ 1 := by
  rw [ColumnName.json, Json.depth_object_le, List.forall_mem_append, forall_optionalMember]
  simp [Ident.depth_json]

theorem TableName.depth_json_le (t : TableName) : t.json.reading.depth ≤ 1 := by
  rw [TableName.json, Json.depth_object_le, List.forall_mem_append, forall_optionalMember]
  simp [Ident.depth_json]

theorem Literal.depth_json_le (l : Literal) : l.json.reading.depth ≤ 1 := by
  cases l <;> exact Json.depth_tagged_le.mpr (Nat.zero_le _)

section Over

variable {d : Decoder Expr}

/-- An entry keeps to the bound if its expression does. -/
theorem SelectItem.yields_over (hd : d.Yields (NestsTo Expr.json)) :
    (SelectItem.decoderOver d).Yields (NestsTo SelectItem.json) := by
  refine Variant.yields_decoder (List.forall_mem_cons.mpr ⟨fun n => Nat.zero_le _,
    List.forall_mem_cons.mpr ⟨?_, List.forall_mem_singleton.mpr ?_⟩⟩)
  · exact yields_tagged (yields_flat Ident.depth_json_le) fun _ => by rw [SelectItem.json]
  · refine Variant.yields_ofFields (.map (.mono ((Fields.yields_required hd).and
      Fields.yields_flag) fun n p hp => ?_))
    simp only [NestsTo, SelectItem.json, Json.depth_tagged_le, Json.depth_object_le,
      List.forall_mem_cons, forall_optionalMember, Ident.depth_json]
    exact ⟨hp.1, by simp⟩

/-- A call keeps to the bound. The array of arguments that it always has is the one level more. -/
theorem FuncCall.yields_over (hd : d.Yields (NestsTo Expr.json)) :
    (FuncCall.decoderOver d).Yields (NestsTo FuncCall.json) := by
  refine Fields.Yields.decoder (.map (.mono ((Fields.yields_required (Decoder.yields_true _)).and
    (Fields.yields_flag.and (yields_listField (SelectItem.yields_over hd)))) fun n p hp => ?_)) _
  simp only [NestsTo, FuncCall.json, SelectItem.jsons_eq, Json.depth_object_le,
      List.forall_mem_cons, Ident.depth_json, depth_bool]
  exact ⟨Nat.zero_le _, Nat.zero_le _, hp.2.2, by simp⟩

theorem yields_operands (hd : d.Yields (NestsTo Expr.json)) {make : Expr → Expr → Expr}
    {tag : String} (hmake : ∀ left right, (make left right).json
      = .tagged tag (.object [("left", left.json), ("right", right.json)])) {label : String} :
    (Variant.ofFields label (operandFields d make)).Yields (NestsTo Expr.json) := by
  refine Variant.yields_ofFields (.map (.mono ((Fields.yields_required hd).and
    (Fields.yields_required hd)) fun n p hp => ?_))
  simp only [NestsTo, hmake, Json.depth_tagged_le, Json.depth_object_le, List.forall_mem_cons]
  exact ⟨hp.1, hp.2, by simp⟩

/-- Every alternative of an expression keeps to the bound if its parts do. -/
theorem Expr.yields_variants (hd : d.Yields (NestsTo Expr.json)) :
    ∀ v ∈ Expr.variants d, v.2.Yields (NestsTo Expr.json) := by
  rw [Expr.variants]
  simp only [List.forall_mem_cons]
  refine ⟨?_, ?_, ?_, fun n => ?_, ?_, ?_, ?_, ?_, ?_, ?_, ?_, ?_, by simp⟩
  · exact yields_tagged (yields_flat ColumnName.depth_json_le) fun _ => by rw [Expr.json]
  · exact yields_tagged (yields_flat Literal.depth_json_le) fun _ => by rw [Expr.json]
  · exact yields_tagged (yields_flat BindVar.depth_json_le) fun _ => by rw [Expr.json]
  · rw [NestsTo, Expr.json]
    exact Nat.zero_le _
  · refine Variant.yields_ofFields (.map (.mono ((Fields.yields_required hd).and
      ((Fields.yields_required (Decoder.yields_true _)).and (Fields.yields_required hd)))
      fun n p hp => ?_))
    simp only [NestsTo, Expr.json, Json.depth_tagged_le, Json.depth_object_le,
      List.forall_mem_cons, Comparison.depth_json]
    exact ⟨hp.1, Nat.zero_le _, hp.2.2, by simp⟩
  · exact yields_operands hd fun _ _ => by rw [Expr.json]
  · exact yields_operands hd fun _ _ => by rw [Expr.json]
  · exact yields_tagged hd fun _ => by rw [Expr.json]
  · exact yields_tagged hd fun _ => by rw [Expr.json]
  · exact yields_tagged (FuncCall.yields_over hd) fun _ => by rw [Expr.json]
  · refine Variant.yields_ofFields (.map (.mono ((Fields.yields_required hd).and
      (Fields.yields_flag.and (Fields.yields_required (yields_listOf hd)))) fun n p hp => ?_))
    simp only [NestsTo, Expr.json, Expr.jsons_eq, Json.depth_tagged_le, Json.depth_object_le,
      List.forall_mem_cons, depth_bool]
    exact ⟨hp.1, Nat.zero_le _, hp.2.2, by simp⟩
  · refine Variant.yields_ofFields (.map (.mono ((Fields.yields_required hd).and
      Fields.yields_flag) fun n p hp => ?_))
    simp only [NestsTo, Expr.json, Json.depth_tagged_le, Json.depth_object_le,
      List.forall_mem_cons, depth_bool]
    exact ⟨hp.1, Nat.zero_le _, by simp⟩

end Over

/-- **An expression is written at most one level deeper than it was read.** -/
theorem Expr.yields : Expr.decoder.Yields (NestsTo Expr.json) := by
  have hlevels : ∀ levels, (Expr.decoderTo levels).Yields (NestsTo Expr.json) := by
    intro levels
    induction levels with
    | zero => exact fun _ _ _ _ _ h _ => absurd h error_ne_ok
    | succ levels ih => exact Variant.yields_decoder (Expr.yields_variants ih)
  exact fun _ depth _ _ _ h hn => hlevels (depth + 1) h hn

theorem OrderItem.yields : OrderItem.decoder.Yields (NestsTo OrderItem.json) := by
  refine Fields.Yields.decoder (.map (.mono ((Fields.yields_required Expr.yields).and
    Fields.yields_flag) fun n p hp => ?_)) _
  simp only [NestsTo, OrderItem.json, Json.depth_object_le, List.forall_mem_cons,
    Direction.depth_json]
  exact ⟨hp.1, Nat.zero_le _, by simp⟩

theorem Limit.yields : Limit.decoder.Yields (NestsTo Limit.json) := by
  refine Fields.Yields.decoder (.map (.mono ((Fields.yields_required Expr.yields).and
    (Fields.yields_optional Expr.yields)) fun n p hp => ?_)) _
  simp only [NestsTo, Limit.json, Json.depth_object_le, List.forall_mem_cons,
    forall_optionalMember]
  exact hp

theorem Assignment.yields : Assignment.decoder.Yields (NestsTo Assignment.json) := by
  refine Fields.Yields.decoder (.map (.mono ((Fields.yields_required (Decoder.yields_true _)).and
    (Fields.yields_required Expr.yields)) fun n p hp => ?_)) _
  simp only [NestsTo, Assignment.json, Json.depth_object_le, List.forall_mem_cons]
  exact ⟨(ColumnName.depth_json_le _).trans (Nat.le_add_left 1 n), hp.2, by simp⟩

theorem Row.yields : Row.decoder.Yields (NestsTo Row.json) :=
  .map (yields_listOf Expr.yields)

theorem TableExpr.yields : TableExpr.decoder.Yields (NestsTo TableExpr.json) := by
  refine Fields.Yields.decoder (.map (.mono ((Fields.yields_required (Decoder.yields_true _)).and
    Fields.yields_flag) fun n p hp => ?_)) _
  simp only [NestsTo, TableExpr.json, Json.depth_object_le, List.forall_mem_cons,
    forall_optionalMember, Ident.depth_json]
  exact ⟨(TableName.depth_json_le _).trans (Nat.le_add_left 1 n), by simp⟩

theorem yields_filterField : filterField.Yields fun n o => ∀ e ∈ o, NestsTo Expr.json n e :=
  Fields.yields_optional Expr.yields

/-- A query keeps to the bound, clause by clause. -/
theorem Select.yields : Select.decoder.Yields (NestsTo Select.json) := by
  refine Fields.Yields.decoder (.map (.mono (Fields.yields_flag.and
    ((Fields.yields_required (yields_listOf (SelectItem.yields_over Expr.yields))).and
    ((yields_listField TableExpr.yields).and (yields_filterField.and
    ((yields_listField Expr.yields).and ((Fields.yields_optional Expr.yields).and
    ((yields_listField OrderItem.yields).and (Fields.yields_optional Limit.yields))))))))
    fun n p hp => ?_)) _
  obtain ⟨_, hcolumns, htables, hfilter, hgroupBy, hhaving, horderBy, hlimit⟩ := hp
  simp only [NestsTo, Select.json, Json.depth_object_le, List.forall_mem_append,
    List.forall_mem_cons, forall_optionalMember, depth_bool]
  exact ⟨⟨⟨⟨⟨⟨Nat.zero_le _, hcolumns, htables, by simp⟩, hfilter⟩, forall_listMember hgroupBy⟩,
    hhaving⟩, forall_listMember horderBy⟩, hlimit⟩

theorem Insert.yields : Insert.decoder.Yields (NestsTo Insert.json) := by
  refine Fields.Yields.decoder (.map (.mono ((Fields.yields_required (Decoder.yields_true _)).and
    ((yields_listField (yields_flat Ident.depth_json_le)).and
      (Fields.yields_required (yields_listOf Row.yields)))) fun n p hp => ?_)) _
  simp only [NestsTo, Insert.json, Json.depth_object_le, List.forall_mem_append,
    List.forall_mem_singleton]
  exact ⟨⟨(TableName.depth_json_le _).trans (Nat.le_add_left 1 n), forall_listMember hp.2.1⟩,
    hp.2.2⟩

theorem Update.yields : Update.decoder.Yields (NestsTo Update.json) := by
  refine Fields.Yields.decoder (.map (.mono ((Fields.yields_required (Decoder.yields_true _)).and
    ((Fields.yields_required (yields_listOf Assignment.yields)).and yields_filterField))
    fun n p hp => ?_)) _
  simp only [NestsTo, Update.json, Json.depth_object_le, List.forall_mem_append,
    List.forall_mem_cons, forall_optionalMember]
  exact ⟨⟨(TableName.depth_json_le _).trans (Nat.le_add_left 1 n), hp.2.1, by simp⟩, hp.2.2⟩

theorem Delete.yields : Delete.decoder.Yields (NestsTo Delete.json) := by
  refine Fields.Yields.decoder (.map (.mono ((Fields.yields_required (Decoder.yields_true _)).and
    yields_filterField) fun n p hp => ?_)) _
  simp only [NestsTo, Delete.json, Json.depth_object_le, List.forall_mem_cons,
    forall_optionalMember]
  exact ⟨(TableName.depth_json_le _).trans (Nat.le_add_left 1 n), hp.2⟩

/-- **A statement that is written again nests at most one level deeper than its document.** -/
theorem Statement.yields : Statement.decoder.Yields (NestsTo Statement.json) := by
  refine Variant.yields_decoder ?_
  simp only [List.forall_mem_cons]
  exact ⟨yields_tagged Select.yields fun _ => rfl, yields_tagged Insert.yields fun _ => rfl,
    yields_tagged Update.yields fun _ => rfl, yields_tagged Delete.yields fun _ => rfl, by simp⟩

end SqlRender
