import SqlRender.Proofs.JsonLayout
import SqlRender.Proofs.Twins
import SqlRender.Sql.Document

/-!
# Proofs/WalkAgreement — a text and its generic value are decoded alike

A statement is decoded while its text is read, or from the generic value of a text. Decoders that
are built alike give the same results on the two readings (`Decoder.Agree`), as a record takes its
members in any order and an alternative has only one. The alternatives that hold a record are the
exception: only in a text may an array stand for the record.
-/

namespace SqlRender

/-! ## Decoders that agree -/

/-- `d` decodes a text as `d'` decodes its generic value, if that nests less than `n` deep. -/
def Decoder.Agree {α : Type} (n : Nat) (d d' : Decoder α) : Prop :=
  ∀ ⦃r r' : Reading⦄, r.Twins r' → r.depth < n → ∀ ⦃depth depth' : Nat⦄, r.depth ≤ depth →
    r.depth ≤ depth' → (d .text depth r).toOption = (d' .tree depth' r').toOption

section Simple

variable {α β : Type} {n : Nat} {d d' : Decoder α}

/-- A decoder of single tokens walks nothing. -/
theorem agree_token (hwalk : ∀ walk depth r, d walk depth r = d .text 0 r)
    (harray : ∀ items, (d .text 0 (.array items true)).toOption = none)
    (hobject : ∀ ms, (d .text 0 (.object ms true)).toOption = none) : Decoder.Agree n d d := by
  intro r r' h _ depth depth' _ _
  rw [hwalk .text depth, hwalk .tree depth']
  rcases h.cases with ⟨_, rfl⟩ | ⟨_, _, rfl, rfl, _⟩ | ⟨_, _, rfl, rfl, _⟩
  · rfl
  · rw [harray, harray]
  · rw [hobject, hobject]

theorem agree_string : Decoder.Agree n Decoder.string Decoder.string :=
  agree_token (fun _ _ _ => rfl) (fun _ => rfl) fun _ => rfl

theorem agree_bool : Decoder.Agree n Decoder.bool Decoder.bool :=
  agree_token (fun _ _ _ => rfl) (fun _ => rfl) fun _ => rfl

theorem agree_int64 : Decoder.Agree n Decoder.int64 Decoder.int64 :=
  agree_token (fun _ _ _ => rfl) (fun _ => rfl) fun _ => rfl

theorem agree_double : Decoder.Agree n Decoder.double Decoder.double :=
  agree_token (fun _ _ _ => rfl) (fun _ => rfl) fun _ => rfl

theorem Decoder.Agree.map (h : Decoder.Agree n d d') (f : α → β) :
    Decoder.Agree n (d.map f) (d'.map f) := by
  intro r r' htwins hn depth depth' hdepth hdepth'
  rw [Decoder.map_apply, Decoder.map_apply, toOption_map, toOption_map,
    h htwins hn hdepth hdepth']

theorem Decoder.Agree.option (h : Decoder.Agree n d d') :
    Decoder.Agree n d.option d'.option := by
  intro r r' htwins hn depth depth' hdepth hdepth'
  have hagree := congrArg (Option.map some) (h htwins hn hdepth hdepth')
  rw [← toOption_map, ← toOption_map] at hagree
  rcases htwins.cases with ⟨hscalar, rfl⟩ | ⟨_, _, rfl, rfl, _⟩ | ⟨_, _, rfl, rfl, _⟩
  · cases hscalar with
    | null => rfl
    | bool | int | float | string => exact hagree
  · exact hagree
  · exact hagree

theorem each_agree (read read' : Reading → Except DocumentError α) {items items' : List Reading}
    (hitems : List.Forall₂ Reading.Twins items items')
    (h : ∀ r ∈ items, ∀ r', r.Twins r' → (read r).toOption = (read' r').toOption) :
    (Decoder.each read items).toOption = (Decoder.each read' items').toOption := by
  induction hitems with
  | nil => rfl
  | @cons r r' items items' htwins _ ih =>
    rw [Decoder.each, Decoder.each, toOption_bind, toOption_bind, h r (by simp) r' htwins]
    congr 1
    funext a
    rw [toOption_bind, toOption_bind, ih fun r hr => h r (List.mem_cons_of_mem _ hr)]

theorem Decoder.Agree.list (h : Decoder.Agree n d d') : Decoder.Agree n d.list d'.list := by
  intro r r' htwins hn depth depth' hdepth hdepth'
  rcases htwins.cases with ⟨hscalar, rfl⟩ | ⟨items, items', rfl, rfl, hitems⟩ |
    ⟨_, _, rfl, rfl, _⟩
  · cases hscalar <;> rfl
  · rw [Reading.depth] at hn hdepth hdepth'
    obtain ⟨depth, rfl⟩ := Nat.exists_eq_add_of_le' (Nat.one_le_of_lt hdepth)
    obtain ⟨depth', rfl⟩ := Nat.exists_eq_add_of_le' (Nat.one_le_of_lt hdepth')
    have hparts := Reading.depthItems_le.mp (le_refl (Reading.depthItems items))
    have heach := each_agree (d .text depth) (d' .tree depth') hitems
      fun r hr r' hr' => h hr' (by have := hparts r hr; omega) (by have := hparts r hr; omega)
        (by have := hparts r hr; omega)
    rw [Decoder.list, Decoder.list, toOption_bind, toOption_bind, heach]
  · rfl

end Simple

/-! ## Records that agree -/

/-- Fields that take the same place in two records. -/
structure Field.Agree {σ : Type} (n : Nat) (f f' : Field σ) : Prop where
  name : f.name = f'.name
  optional : f.optional = f'.optional
  read : Decoder.Agree n f.read f'.read

/-- Records of the same fields in the same order, that give the same from the members of twin
objects. -/
structure Fields.Agree {σ α : Type} (n : Nat) (f f' : Fields σ α) : Prop where
  fields : List.Forall₂ (Field.Agree n) f.fields f'.fields
  start : f.start = f'.start
  finish : ∀ s, (f.finish s).toOption = (f'.finish s).toOption
  members : ∀ {ms ms' : Members}, Reading.TwinMembers ms ms' → (∀ m ∈ ms, m.2.depth < n) →
    ∀ {depth depth' : Nat}, (∀ m ∈ ms, m.2.depth ≤ depth) → (∀ m ∈ ms, m.2.depth ≤ depth') →
      (f.decodeMembers .text depth ms true).toOption
        = (f'.decodeMembers .tree depth' ms' true).toOption

section Records

variable {σ τ α β : Type} {n : Nat}

theorem Fields.Agree.names_eq {f f' : Fields σ α} (h : f.Agree n f') : f.names = f'.names := by
  rw [Fields.names, Fields.names, ← List.forall₂_eq_eq_eq, List.forall₂_map_left_iff,
    List.forall₂_map_right_iff]
  exact h.fields.imp fun _ _ hfield => hfield.name

/-- A field finds twins under its name, or nothing in both. -/
theorem member_agree {d d' : Decoder α} (h : Decoder.Agree n d d') {ms ms' : Members}
    (hms : Reading.TwinMembers ms ms') (hn : ∀ m ∈ ms, m.2.depth < n) {depth depth' : Nat}
    (hdepth : ∀ m ∈ ms, m.2.depth ≤ depth) (hdepth' : ∀ m ∈ ms, m.2.depth ≤ depth')
    (name : String) :
    (ms.lookup (some name) = none ∧ ms'.lookup (some name) = none) ∨
      ∃ r r', ms.lookup (some name) = some r ∧ ms'.lookup (some name) = some r' ∧
        (d .text depth r).toOption = (d' .tree depth' r').toOption := by
  have hrel := hms.lookup (some name)
  cases hr : ms.lookup (some name) <;> cases hr' : ms'.lookup (some name) <;> rw [hr, hr'] at hrel
  · exact .inl ⟨rfl, rfl⟩
  · exact absurd hrel (by rintro ⟨⟩)
  · exact absurd hrel (by rintro ⟨⟩)
  case some.some r r' =>
    obtain ⟨htwins⟩ := hrel
    have hmem := (lookup_eq_some_iff_mem hms.plain.nodup).mp hr
    exact .inr ⟨r, r', rfl, rfl, h htwins (hn _ hmem) (hdepth _ hmem) (hdepth' _ hmem)⟩

theorem one_fields_agree {d d' : Decoder α} (h : Decoder.Agree n d d') (name : String)
    (optional : Bool) :
    List.Forall₂ (Field.Agree n)
      [⟨name, optional, Option.isSome, d.map fun a _ => some a⟩]
      [⟨name, optional, Option.isSome, d'.map fun a _ => some a⟩] :=
  .cons ⟨rfl, rfl, h.map _⟩ .nil

theorem agree_required {d d' : Decoder α} (h : Decoder.Agree n d d') (name : String) :
    (Fields.required name d).Agree n (Fields.required name d') := by
  refine ⟨one_fields_agree h name false, rfl, fun _ => rfl, fun hms hn _ _ hdepth hdepth' => ?_⟩
  rw [Fields.decodeMembers_required name d hms.plain,
    Fields.decodeMembers_required name d' hms.plain']
  rcases member_agree h hms hn hdepth hdepth' name with ⟨hr, hr'⟩ | ⟨r, r', hr, hr', hagree⟩
  · rw [hr, hr']
    rfl
  · rw [hr, hr']
    exact hagree

theorem agree_defaulted {d d' : Decoder α} (h : Decoder.Agree n d d') (name : String)
    (default : α) :
    (Fields.defaulted name d default).Agree n (Fields.defaulted name d' default) := by
  refine ⟨one_fields_agree h name true, rfl, fun _ => rfl, fun hms hn _ _ hdepth hdepth' => ?_⟩
  rw [Fields.decodeMembers_defaulted name d default hms.plain,
    Fields.decodeMembers_defaulted name d' default hms.plain']
  rcases member_agree h hms hn hdepth hdepth' name with ⟨hr, hr'⟩ | ⟨r, r', hr, hr', hagree⟩
  · rw [hr, hr']
    rfl
  · rw [hr, hr']
    exact hagree

/-- Records that agree can be joined as long as no two fields share a name. -/
theorem Fields.Agree.and {f f' : Fields σ α} {g g' : Fields τ β} (hf : f.Agree n f')
    (hg : g.Agree n g') (hnames : f.names.Disjoint g.names) :
    (f.and g).Agree n (f'.and g') := by
  refine ⟨?_, Prod.ext hf.start hg.start, fun s => ?_, fun hms hn _ _ hdepth hdepth' => ?_⟩
  · refine List.rel_append ?_ ?_ <;>
      rw [List.forall₂_map_left_iff, List.forall₂_map_right_iff]
    · exact hf.fields.imp fun _ _ hfield => ⟨hfield.name, hfield.optional, hfield.read.map _⟩
    · exact hg.fields.imp fun _ _ hfield => ⟨hfield.name, hfield.optional, hfield.read.map _⟩
  · rw [Fields.and, Fields.and, toOption_bind, toOption_bind, hf.finish]
    congr 1
    funext a
    rw [toOption_bind, toOption_bind, hg.finish]
  · rw [Fields.decodeMembers_and hnames hms.plain,
      Fields.decodeMembers_and (hf.names_eq ▸ hg.names_eq ▸ hnames) hms.plain',
      hf.members hms hn hdepth hdepth', hg.members hms hn hdepth hdepth']

theorem Fields.Agree.map {f f' : Fields σ α} (hf : f.Agree n f') (h : α → β) :
    (f.map h).Agree n (f'.map h) := by
  refine ⟨hf.fields, hf.start, fun s => ?_, fun hms hn _ _ hdepth hdepth' => ?_⟩
  · rw [Fields.map, Fields.map, toOption_map, toOption_map, hf.finish]
  · rw [Fields.decodeMembers_map, Fields.decodeMembers_map, hf.members hms hn hdepth hdepth']

/-! ### Arrays of fields -/

/-- Filling from an array, with only the number of surplus items. -/
def Fields.filled {σ : Type} (label : String) (walk : Walk) (depth count position : Nat)
    (fields : List (Field σ)) (s : σ) (items : List Reading) : Option (σ × Nat) :=
  (Fields.fromItems label walk depth count position fields s items true).toOption.map fun p =>
    (p.1, p.2.length)

/-- Fields filled from an array agree item by item. -/
theorem filled_agree {fields fields' : List (Field σ)}
    (hfields : List.Forall₂ (Field.Agree n) fields fields') {label : String}
    (depth depth' : Nat) {count : Nat} : ∀ {items items' : List Reading} {position : Nat} {s : σ},
      List.Forall₂ Reading.Twins items items' →
      (∀ r ∈ items, r.depth < n ∧ r.depth ≤ depth ∧ r.depth ≤ depth') →
      Fields.filled label .text depth count position fields s items
        = Fields.filled label .tree depth' count position fields' s items' := by
  induction hfields with
  | nil =>
    intro items items' position s hitems _
    rw [Fields.filled, Fields.filled, Fields.fromItems, Fields.fromItems]
    exact congrArg (fun k => some (s, k)) hitems.length_eq
  | @cons f f' fields fields' hf _ ih =>
    intro items items' position s hitems hdepth
    cases hitems with
    | nil =>
      -- no items are left: the other fields must all be optional
      rw [Fields.filled, Fields.filled, Fields.fromItems, Fields.fromItems, hf.optional]
      cases f'.optional
      · rfl
      · exact ih .nil (by simp)
    | @cons r r' items items' htwins hitems =>
      obtain ⟨hn, hle, hle'⟩ := hdepth r (by simp)
      have hread := hf.read htwins hn hle hle'
      rw [Fields.filled, Fields.filled, Fields.fromItems, Fields.fromItems, toOption_bind,
        toOption_bind, hread]
      cases f'.read .tree depth' r' with
      | error e => rfl
      | ok store => exact ih hitems fun x hx => hdepth x (List.mem_cons_of_mem r hx)

/-- An array fills a record if it has an item for every field that must be there, and none too
many. -/
theorem decodeItems_eq (f : Fields σ α) (label : String) (walk : Walk) (depth : Nat)
    (items : List Reading) :
    (f.decodeItems label walk depth items true).toOption
      = (Fields.filled label walk depth f.fields.length 0 f.fields f.start items).bind fun p =>
          (f.finish p.1).toOption.bind fun a => if p.2 = 0 then some a else none := by
  rw [Fields.decodeItems.eq_def, Fields.filled, toOption_bind]
  cases Fields.fromItems label walk depth f.fields.length 0 f.fields f.start items true with
  | error e => rfl
  | ok p =>
    obtain ⟨s, surplus⟩ := p
    dsimp only [Except.toOption, Option.bind, Option.map]
    cases f.finish s with
    | error e => rfl
    | ok a => cases surplus <;> cases walk <;> rfl

/-- **A record is decoded alike**, from an object or from an array of its fields. -/
theorem Fields.Agree.decoder {f f' : Fields σ α} (h : f.Agree n f') (label : String) :
    Decoder.Agree n (f.decoder label) (f'.decoder label) := by
  intro r r' htwins hn depth depth' hdepth hdepth'
  rcases htwins.cases with ⟨hscalar, rfl⟩ | ⟨items, items', rfl, rfl, hitems⟩ |
    ⟨ms, ms', rfl, rfl, hms⟩
  · cases hscalar <;> rfl
  · rw [Reading.depth] at hn hdepth hdepth'
    obtain ⟨depth, rfl⟩ := Nat.exists_eq_add_of_le' (Nat.one_le_of_lt hdepth)
    obtain ⟨depth', rfl⟩ := Nat.exists_eq_add_of_le' (Nat.one_le_of_lt hdepth')
    have hparts := Reading.depthItems_le.mp (le_refl (Reading.depthItems items))
    have hbounds : ∀ r ∈ items, r.depth < n ∧ r.depth ≤ depth ∧ r.depth ≤ depth' :=
      fun r hr => by have := hparts r hr; omega
    rw [Fields.decoder, Fields.decoder, decodeItems_eq, decodeItems_eq, h.start,
      h.fields.length_eq, filled_agree h.fields depth depth' hitems hbounds]
    congr 1
    funext p
    rw [h.finish]
  · rw [Reading.depth] at hn hdepth hdepth'
    obtain ⟨depth, rfl⟩ := Nat.exists_eq_add_of_le' (Nat.one_le_of_lt hdepth)
    obtain ⟨depth', rfl⟩ := Nat.exists_eq_add_of_le' (Nat.one_le_of_lt hdepth')
    have hparts := Reading.depthMembers_le.mp (le_refl (Reading.depthMembers ms))
    exact h.members hms (fun m hm => by have := hparts m hm; omega)
      (fun m hm => by have := hparts m hm; omega) fun m hm => by have := hparts m hm; omega

end Records

/-! ## Alternatives that agree -/

/-- The alternative called `name` in two choices. -/
inductive Variant.Agree {α : Type} (n : Nat) (name : String) : Variant α → Variant α → Prop
  | unit (a : α) : Agree n name (.unit a) (.unit a)
  | holds {d d' : Decoder α} : Decoder.Agree n d d' → Agree n name (.holds d) (.holds d')
  | record {σ : Type} {f f' : Fields σ α} (label : String) : name ∈ recordTags → f.Agree n f' →
    Agree n name (.ofFields label f) (.ofFields label f')

section Choices

variable {α : Type} {n : Nat}

theorem Variant.Agree.bare {name : String} {x x' : Variant α} (h : x.Agree n name x') :
    x.bare.toOption = x'.bare.toOption := by
  cases h <;> rfl

/-- What an alternative holds is decoded alike, unless it is an array for a record. -/
theorem Variant.Agree.applied {name : String} {x x' : Variant α} (h : x.Agree n name x')
    {r r' : Reading} (htwins : r.Twins r')
    (harray : name ∈ recordTags → ∀ items closed, r ≠ .array items closed) (hn : r.depth < n)
    {depth depth' : Nat} (hdepth : r.depth ≤ depth) (hdepth' : r.depth ≤ depth') :
    (x.applied .text depth r).toOption = (x'.applied .tree depth' r').toOption := by
  cases h with
  | unit a =>
    rcases htwins.cases with ⟨hscalar, rfl⟩ | ⟨_, _, rfl, rfl, _⟩ | ⟨_, _, rfl, rfl, _⟩
    · cases hscalar <;> rfl
    · rfl
    · rfl
  | holds hd => exact hd htwins hn hdepth hdepth'
  | record label hname hf =>
    have hagree := hf.decoder label htwins hn hdepth hdepth'
    rcases htwins.cases with ⟨hscalar, rfl⟩ | ⟨items, _, rfl, rfl, _⟩ | ⟨_, _, rfl, rfl, _⟩
    · cases hscalar <;> rfl
    · -- here the walks differ: a text would take the array as the fields in order
      exact absurd rfl (harray hname items true)
    · exact hagree

/-- Choices between alternatives of the same names that agree. -/
abbrev Variant.AllAgree (n : Nat) (variants variants' : List (String × Variant α)) : Prop :=
  List.Forall₂ (fun x y => x.1 = y.1 ∧ x.2.Agree n x.1 y.2) variants variants'

variable {variants variants' : List (String × Variant α)}

/-- A name is known to both choices or to neither. -/
theorem find_agree (h : Variant.AllAgree n variants variants') (name : String) :
    ((Variant.find variants name).toOption = none ∧ (Variant.find variants' name).toOption = none) ∨
      ∃ x x', Variant.find variants name = .ok x ∧ Variant.find variants' name = .ok x' ∧
        x.Agree n name x' := by
  have hrel := lookup_rel (R := Variant.Agree n) h name
  rw [Variant.find, Variant.find]
  cases hx : variants.lookup name <;> cases hx' : variants'.lookup name <;> rw [hx, hx'] at hrel
  · exact .inl ⟨rfl, rfl⟩
  · exact absurd hrel (by rintro ⟨⟩)
  · exact absurd hrel (by rintro ⟨⟩)
  case some.some x x' =>
    obtain ⟨hagree⟩ := hrel
    exact .inr ⟨x, x', rfl, rfl, hagree⟩

theorem bare_agree (h : Variant.AllAgree n variants variants') (name : String) :
    (Variant.find variants name >>= Variant.bare).toOption
      = (Variant.find variants' name >>= Variant.bare).toOption := by
  rw [toOption_bind, toOption_bind]
  rcases find_agree h name with ⟨hx, hx'⟩ | ⟨x, x', hx, hx', hagree⟩
  · rw [hx, hx', Option.bind_none]
  · rw [hx, hx']
    exact hagree.bare

/-- An object with one member, in a text and in a tree. -/
theorem tagged_agree (h : Variant.AllAgree n variants variants') {key : String} {r r' : Reading}
    (htwins : r.Twins r')
    (harray : key ∈ recordTags → ∀ items closed, r ≠ .array items closed) (hn : r.depth < n)
    {depth depth' : Nat} (hdepth : r.depth ≤ depth) (hdepth' : r.depth ≤ depth') :
    (Variant.decodeText variants (depth + 1) (.object [(some key, r)] true)).toOption
      = (Variant.decodeTree variants' (depth' + 1) (.object [(some key, r')] true)).toOption := by
  rw [Variant.decodeText, Variant.decodeTree, toOption_bind, toOption_bind]
  rcases find_agree h key with ⟨hx, hx'⟩ | ⟨x, x', hx, hx', hagree⟩
  · rw [hx, hx']
    rfl
  · rw [hx, hx']
    refine Eq.trans ?_ (hagree.applied htwins harray hn hdepth hdepth')
    cases hread : x.applied .text depth r <;> simp [Except.toOption, hread] <;> rfl

/-- An object with two members or more is no alternative. -/
theorem crowded_agree (depth depth' : Nat) (key : String) (r : Reading)
    (m m₁ m₂ : Option String × Reading) (ms ms' : Members) :
    (Variant.decodeText variants (depth + 1) (.object ((some key, r) :: m :: ms) true)).toOption
      = (Variant.decodeTree variants' depth' (.object (m₁ :: m₂ :: ms') true)).toOption := by
  have htree : (Variant.decodeTree variants' depth' (.object (m₁ :: m₂ :: ms') true)).toOption
      = none := by
    obtain ⟨_ | _, _⟩ := m₁ <;> rfl
  rw [htree, Variant.decodeText, toOption_bind]
  cases Variant.find variants key with
  | error e => rfl
  | ok x =>
    exact (toOption_bind (x.applied .text depth r) _).trans (Option.bind_fun_none _)

/-- **A choice is decoded alike.** -/
theorem choice_agree (h : Variant.AllAgree n variants variants') :
    Decoder.Agree (n + 1) (Variant.decoder variants) (Variant.decoder variants') := by
  intro r r' htwins hn depth depth' hdepth hdepth'
  rw [Variant.decoder, Variant.decoder]
  rcases htwins.cases with ⟨hscalar, rfl⟩ | ⟨_, _, rfl, rfl, _⟩ | ⟨ms, ms', rfl, rfl, hms⟩
  · cases hscalar with
    | string s => exact bare_agree h s
    | null | bool | int | float => rfl
  · rfl
  · rw [Reading.depth] at hn hdepth hdepth'
    obtain ⟨depth, rfl⟩ := Nat.exists_eq_add_of_le' (Nat.one_le_of_lt hdepth)
    obtain ⟨depth', rfl⟩ := Nat.exists_eq_add_of_le' (Nat.one_le_of_lt hdepth')
    have hlength := hms.length
    -- a text stops at the second member, a tree counts them first: both fail unless there is one
    rcases ms with _ | ⟨m, _ | ⟨m₀, ms⟩⟩
    · obtain rfl := List.eq_nil_of_length_eq_zero hlength.symm
      rfl
    · obtain ⟨m', rfl⟩ := List.length_eq_one_iff.mp hlength.symm
      obtain ⟨key, r, rfl, _, _⟩ := hms.plain.head
      obtain ⟨r', hr', hpart⟩ := hms.exists_twin (List.mem_singleton.mpr rfl)
      obtain rfl := List.mem_singleton.mp hr'
      have hbound : r.depth ≤ Reading.depthMembers [(some key, r)] :=
        Reading.depthMembers_le.mp le_rfl (some key, r) (List.mem_singleton.mpr rfl)
      refine tagged_agree h hpart (fun htag items closed hr => ?_) (by omega) (by omega) (by omega)
      exact hms.ordinary.2 key htag items closed (List.mem_singleton.mpr (by rw [hr]))
    · rcases ms' with _ | ⟨m₁, _ | ⟨m₂, ms'⟩⟩
      · exact absurd hlength (by simp)
      · exact absurd hlength (by simp)
      obtain ⟨key, r, rfl, _, _⟩ := hms.plain.head
      exact crowded_agree depth _ key r m₀ m₁ m₂ ms ms'

end Choices

/-! ## Trees -/

section Trees

variable {n : Nat}

/-- Agreement up to a depth is agreement up to any smaller one. -/
theorem Decoder.Agree.mono {α : Type} {m : Nat} {d d' : Decoder α} (h : Decoder.Agree n d d')
    (hm : m ≤ n) : Decoder.Agree m d d' :=
  fun _ _ htwins hdepth => h htwins (hdepth.trans_le hm)

/-- A choice between bare names. -/
theorem names_agree {α : Type} (variants : List (String × α)) :
    Decoder.Agree n (Variant.decoder (variants.map fun x => (x.1, .unit x.2)))
      (Variant.decoder (variants.map fun x => (x.1, .unit x.2))) := by
  refine (choice_agree (n := n) ?_).mono (Nat.le_succ n)
  rw [Variant.AllAgree, List.forall₂_map_left_iff, List.forall₂_map_right_iff]
  exact List.forall₂_same.mpr fun x _ => ⟨rfl, .unit x.2⟩

theorem Ident.agree : Decoder.Agree n Ident.decoder Ident.decoder := agree_string.map Ident.mk

theorem BindVar.agree : Decoder.Agree n BindVar.decoder BindVar.decoder :=
  agree_string.map BindVar.mk

/-- A possibly qualified name. -/
theorem qualified_agree {α : Type} (make : Option Ident × Ident → α) (label : String) :
    Decoder.Agree n
      (((Fields.defaulted "qualifier" (Decoder.option Ident.decoder) none).and
        (Fields.required "name" Ident.decoder)).map make |>.decoder label)
      (((Fields.defaulted "qualifier" (Decoder.option Ident.decoder) none).and
        (Fields.required "name" Ident.decoder)).map make |>.decoder label) :=
  Fields.Agree.decoder (.map (.and (agree_defaulted Ident.agree.option _ _)
    (agree_required Ident.agree _) (by simp)) _) _

theorem ColumnName.agree : Decoder.Agree n ColumnName.decoder ColumnName.decoder :=
  qualified_agree _ _

theorem TableName.agree : Decoder.Agree n TableName.decoder TableName.decoder :=
  qualified_agree _ _

theorem TableExpr.agree : Decoder.Agree n TableExpr.decoder TableExpr.decoder :=
  Fields.Agree.decoder (.map (.and (agree_required TableName.agree _)
    (agree_defaulted Ident.agree.option _ _) (by simp)) _) _

theorem Literal.agree : Decoder.Agree n Literal.decoder Literal.decoder := by
  refine (choice_agree (n := n) ?_).mono (Nat.le_succ n)
  exact .cons ⟨rfl, .holds (agree_string.map _)⟩ (.cons ⟨rfl, .holds (agree_int64.map _)⟩
    (.cons ⟨rfl, .holds (agree_double.map _)⟩ .nil))

theorem Comparison.agree : Decoder.Agree n Comparison.decoder Comparison.decoder :=
  names_agree (α := Comparison) [("=", .eq), ("!=", .notEq), ("<", .lt), ("<=", .ltEq),
    (">", .gt), (">=", .gtEq), ("like", .like), ("not_like", .notLike)]

theorem Direction.agree : Decoder.Agree n Direction.decoder Direction.decoder :=
  names_agree (α := Direction) [("asc", .asc), ("desc", .desc)]

section Over

variable {e e' : Decoder Expr} (he : Decoder.Agree n e e')

include he

/-- An entry agrees over expressions that agree. -/
theorem SelectItem.agree_over :
    Decoder.Agree n (SelectItem.decoderOver e) (SelectItem.decoderOver e') := by
  refine (choice_agree (n := n) ?_).mono (Nat.le_succ n)
  refine .cons ⟨rfl, .unit _⟩ (.cons ⟨rfl, .holds (Ident.agree.map _)⟩
    (.cons ⟨rfl, .record _ (by simp [recordTags]) (.map (.and (agree_required he _)
      (agree_defaulted Ident.agree.option _ _) ?_) _)⟩ .nil))
  simp

/-- A call agrees over expressions that agree. -/
theorem FuncCall.agree_over :
    Decoder.Agree n (FuncCall.decoderOver e) (FuncCall.decoderOver e') := by
  refine Fields.Agree.decoder (.map (.and (agree_required Ident.agree _)
    (.and (agree_defaulted agree_bool _ _)
      (agree_defaulted (SelectItem.agree_over he).list _ _) ?_) ?_) _) _
  all_goals simp

theorem operands_agree (make : Expr → Expr → Expr) :
    (operandFields e make).Agree n (operandFields e' make) :=
  .map (.and (agree_required he _) (agree_required he _) (by simp)) _

/-- The alternatives of an expression agree over expressions that agree. -/
theorem Expr.variants_agree : Variant.AllAgree n (Expr.variants e) (Expr.variants e') := by
  refine .cons ⟨rfl, .holds (ColumnName.agree.map _)⟩ <|
    .cons ⟨rfl, .holds (Literal.agree.map _)⟩ <|
    .cons ⟨rfl, .holds (BindVar.agree.map _)⟩ <|
    .cons ⟨rfl, .unit _⟩ <|
    .cons ⟨rfl, .record _ (by simp [recordTags]) (.map (.and (agree_required he _)
      (.and (agree_required Comparison.agree _) (agree_required he _) ?_) ?_) _)⟩ <|
    .cons ⟨rfl, .record _ (by simp [recordTags]) (operands_agree he _)⟩ <|
    .cons ⟨rfl, .record _ (by simp [recordTags]) (operands_agree he _)⟩ <|
    .cons ⟨rfl, .holds (he.map _)⟩ <|
    .cons ⟨rfl, .holds (he.map _)⟩ <|
    .cons ⟨rfl, .holds ((FuncCall.agree_over he).map _)⟩ <|
    .cons ⟨rfl, .record _ (by simp [recordTags]) (.map (.and (agree_required he _)
      (.and (agree_defaulted agree_bool _ _) (agree_required he.list _) ?_) ?_) _)⟩ <|
    .cons ⟨rfl, .record _ (by simp [recordTags]) (.map (.and (agree_required he _)
      (agree_defaulted agree_bool _ _) ?_) _)⟩ .nil
  all_goals simp

end Over

/-- **Expressions are decoded alike** by decoders with more levels than the text nests. -/
theorem Expr.agree_to : ∀ {n l l' : Nat}, n ≤ l → n ≤ l' →
    Decoder.Agree n (Expr.decoderTo l) (Expr.decoderTo l')
  -- every choice spends a level of the decoder and at least one of the text
  | 0, _, _, _, _ => fun _ _ _ hn => absurd hn (by omega)
  | n + 1, l + 1, l' + 1, hl, hl' =>
    choice_agree (Expr.variants_agree (Expr.agree_to (Nat.le_of_succ_le_succ hl)
      (Nat.le_of_succ_le_succ hl')))

/-- **Expressions agree at any depth.** -/
theorem Expr.agree : Decoder.Agree n Expr.decoder Expr.decoder :=
  fun r _ htwins _ _ _ hdepth hdepth' =>
    Expr.agree_to (n := r.depth + 1) (by omega) (by omega) htwins (by omega) hdepth hdepth'

theorem filter_agree : filterField.Agree n filterField := agree_defaulted Expr.agree.option _ _

theorem OrderItem.agree : Decoder.Agree n OrderItem.decoder OrderItem.decoder :=
  Fields.Agree.decoder (.map (.and (agree_required Expr.agree _)
    (agree_defaulted Direction.agree _ _) (by simp)) _) _

theorem Limit.agree : Decoder.Agree n Limit.decoder Limit.decoder :=
  Fields.Agree.decoder (.map (.and (agree_required Expr.agree _)
    (agree_defaulted Expr.agree.option _ _) (by simp)) _) _

theorem Assignment.agree : Decoder.Agree n Assignment.decoder Assignment.decoder :=
  Fields.Agree.decoder (.map (.and (agree_required ColumnName.agree _)
    (agree_required Expr.agree _) (by simp)) _) _

theorem Row.agree : Decoder.Agree n Row.decoder Row.decoder := Expr.agree.list.map Row.mk

theorem Select.agree : Decoder.Agree n Select.decoder Select.decoder := by
  refine Fields.Agree.decoder (.map (.and (agree_defaulted agree_bool _ _) (.and
    (agree_required (SelectItem.agree_over Expr.agree).list _) (.and
    (agree_defaulted TableExpr.agree.list _ _) (.and filter_agree (.and
    (agree_defaulted Expr.agree.list _ _) (.and
    (agree_defaulted Expr.agree.option _ _) (.and
    (agree_defaulted OrderItem.agree.list _ _)
    (agree_defaulted Limit.agree.option _ _) ?_) ?_) ?_) ?_) ?_) ?_) ?_) _) _
  all_goals simp [filterField]

theorem Insert.agree : Decoder.Agree n Insert.decoder Insert.decoder := by
  refine Fields.Agree.decoder (.map (.and (agree_required TableName.agree _) (.and
    (agree_defaulted Ident.agree.list _ _) (agree_required Row.agree.list _) ?_) ?_) _) _
  all_goals simp

theorem Update.agree : Decoder.Agree n Update.decoder Update.decoder := by
  refine Fields.Agree.decoder (.map (.and (agree_required TableName.agree _) (.and
    (agree_required Assignment.agree.list _) filter_agree ?_) ?_) _) _
  all_goals simp [filterField]

theorem Delete.agree : Decoder.Agree n Delete.decoder Delete.decoder := by
  refine Fields.Agree.decoder (.map (.and (agree_required TableName.agree _) filter_agree ?_) _) _
  simp [filterField]

/-- **Statements agree at any depth.** -/
theorem Statement.agree : Decoder.Agree n Statement.decoder Statement.decoder := by
  refine (choice_agree (n := n) ?_).mono (Nat.le_succ n)
  exact .cons ⟨rfl, .holds (Select.agree.map _)⟩ (.cons ⟨rfl, .holds (Insert.agree.map _)⟩
    (.cons ⟨rfl, .holds (Update.agree.map _)⟩ (.cons ⟨rfl, .holds (Delete.agree.map _)⟩ .nil)))

end Trees

/-! ## Documents -/

/-- A statement that was decoded must be free of violations. -/
def Statement.checked (s : Statement) : Except LoadFault Statement :=
  match s.violation? with
  | none => .ok s
  | some w => .error (.invalid w)

/-- A statement passes the check unchanged or is invalid. -/
theorem Statement.checked_cases (s : Statement) :
    s.checked = .ok s ∨ ∃ w, s.checked = .error (.invalid w) := by
  rw [Statement.checked]
  split
  · exact .inl rfl
  · exact .inr ⟨_, rfl⟩

/-- The statement of a generic value: what is left to do of a YAML document once it is read. -/
def Statement.ofJson (v : Json) : Except LoadFault Statement :=
  (Statement.decoder.fromJson v).mapError .json >>= Statement.checked

/-- JSON is decoded from the text itself, and then checked. -/
theorem Statement.parse_json_eq (text : String) :
    Statement.parse text .json
      = (Statement.decoder.fromText text).mapError .json >>= Statement.checked := by
  rw [Statement.parse, Statement.decode]
  congr 1

/-- YAML is decoded from the generic value of the text. -/
theorem Statement.parse_yaml_eq {text : String} {v : Json} (h : Yaml.parseJson text = .ok v) :
    Statement.parse text .yaml = Statement.ofJson v := by
  rw [Statement.parse, Statement.decode, h]
  rfl

/-- A text and its generic value decode to the same statement, or to none. -/
theorem Statement.fromText_agrees {t : String} {v : Json} (hv : Json.parse? t = some v)
    (hobjects : (Reading.ofText t).reading.EveryObject Members.Ordinary)
    (hdepth : (Reading.ofText t).reading.depth ≤ Decoder.maxDepth) :
    (Statement.decoder.fromText t).toOption = (Statement.decoder.fromJson v).toOption := by
  rw [Json.parse?] at hv
  split at hv
  case isTrue hcomplete =>
    have htwins : (Reading.ofText t).reading.Twins v.reading := ⟨hobjects, v, hv, rfl⟩
    have hagree := Statement.agree (n := (Reading.ofText t).reading.depth + 1) htwins
      (Nat.lt_succ_self _) hdepth (htwins.depth_le le_rfl)
    rw [Decoder.fromText, toOption_bind, hagree, hcomplete]
    exact Option.bind_fun_some _
  case isFalse => exact absurd hv (by simp)

/-- Two attempts to load the document at a path end alike: in the same statement, in the same
violation, or both in a document that does not decode. -/
structure SameOutcome (p : Path) (first second : Except LoadError Statement) : Prop where
  ok : ∀ s, first = .ok s ↔ second = .ok s
  invalid : ∀ w, first = .error ⟨p, .invalid w⟩ ↔ second = .error ⟨p, .invalid w⟩
  otherwise : (∀ s, first ≠ .ok s) → (∀ w, first ≠ .error ⟨p, .invalid w⟩) →
    ∃ e e', first = .error ⟨p, .json e⟩ ∧ second = .error ⟨p, .json e'⟩

/-- Decoders that agree on what they decode lead to the same outcome, whatever their errors. -/
theorem SameOutcome.of_toOption_eq {x y : Except DocumentError Statement}
    (h : x.toOption = y.toOption) (p : Path) :
    SameOutcome p ((x.mapError .json >>= Statement.checked).mapError (LoadError.mk p))
      ((y.mapError .json >>= Statement.checked).mapError (LoadError.mk p)) := by
  cases y with
  | ok s =>
    obtain rfl := toOption_eq_some.mp h
    refine ⟨fun _ => Iff.rfl, fun _ => Iff.rfl, fun hok hinvalid => ?_⟩
    change ∀ t, s.checked.mapError (LoadError.mk p) ≠ .ok t at hok
    change ∀ w, s.checked.mapError (LoadError.mk p) ≠ .error ⟨p, .invalid w⟩ at hinvalid
    obtain hchecked | ⟨w, hchecked⟩ := s.checked_cases
    · exact absurd (by rw [hchecked]; rfl) (hok s)
    · exact absurd (by rw [hchecked]; rfl) (hinvalid w)
  | error e =>
    cases x with
    | ok s => exact absurd h (by simp [Except.toOption])
    | error e' =>
      refine ⟨fun _ => ⟨?_, ?_⟩, fun _ => ⟨?_, ?_⟩, fun _ _ => ⟨e', e, rfl, rfl⟩⟩
      all_goals rintro ⟨⟩

/-- **The two ways to load a statement agree.** Take a text with a generic value, no repeated key,
no deeper nesting than a text may have and no array for the record of an alternative. Decoding the
text while it is read ends as decoding the value does, which is all that a YAML document with that
value has left to do. -/
theorem Statement.parse_json_agrees {t : String} {v : Json} (hv : Json.parse? t = some v)
    (hobjects : (Reading.ofText t).reading.EveryObject Members.Ordinary)
    (hdepth : (Reading.ofText t).reading.depth ≤ Decoder.maxDepth) (p : Path) :
    SameOutcome p ((Statement.parse t .json).mapError (LoadError.mk p))
        ((Statement.ofJson v).mapError (LoadError.mk p)) ∧
      ∀ yaml, Yaml.parseJson yaml = .ok v → Statement.parse yaml .yaml = Statement.ofJson v := by
  refine ⟨?_, fun yaml hyaml => Statement.parse_yaml_eq hyaml⟩
  rw [Statement.parse_json_eq]
  exact .of_toOption_eq (Statement.fromText_agrees hv hobjects hdepth) p

/-- A document with its members out of order, one of them unknown, and an array for a column. -/
def shuffledDelete : String :=
  "\x7b\"delete\":\x7b\"zzz\":[1],\"where\":\x7b\"is_null\":\x7b\"negated\":true," ++
    "\"expr\":\x7b\"column\":[null,\"n\"]\x7d\x7d\x7d,\"table\":\x7b\"name\":\"t\"\x7d\x7d\x7d"

/-- Its generic value. -/
def sortedDelete : Json :=
  .object [("delete", .object [
    ("table", .object [("name", .string "t")]),
    ("where", .object [("is_null", .object [
      ("expr", .object [("column", .array [.null, .string "n"])]),
      ("negated", .bool true)])]),
    ("zzz", .array [.int 1])])]

/-- The members as the document has them. -/
def unsortedDelete : Json :=
  .object [("delete", .object [
    ("zzz", .array [.int 1]),
    ("where", .object [("is_null", .object [
      ("negated", .bool true),
      ("expr", .object [("column", .array [.null, .string "n"])])])]),
    ("table", .object [("name", .string "t")])])]

/-- The text is read in the order in which it stands. -/
theorem ofText_shuffledDelete :
    Reading.ofText shuffledDelete = ⟨unsortedDelete.reading, true⟩ := by
  have hcompact : unsortedDelete.compact = shuffledDelete := by decide +kernel
  rw [← hcompact, Reading.ofText_compact]
  rfl

/-- Its generic value has the members in the order of their keys. -/
theorem parse?_shuffledDelete : Json.parse? shuffledDelete = some sortedDelete := by
  rw [Json.parse?, ofText_shuffledDelete]
  rfl

theorem ofJson_sortedDelete : Statement.ofJson sortedDelete
    = .ok (.delete ⟨⟨none, ⟨"t"⟩⟩, some (.isNull (.column ⟨none, ⟨"n"⟩⟩) true)⟩) := by
  rfl

/-- A deletion whose members stand in an order of their own. -/
theorem Statement.parse_json_agrees_shuffledDelete :
    Json.parse? shuffledDelete = some sortedDelete ∧
      (Reading.ofText shuffledDelete).reading.EveryObject Members.Ordinary ∧
      (Reading.ofText shuffledDelete).reading.depth ≤ Decoder.maxDepth ∧
      ∀ p, (Statement.parse shuffledDelete .json).mapError (LoadError.mk p) = .ok (.delete
        ⟨⟨none, ⟨"t"⟩⟩, some (.isNull (.column ⟨none, ⟨"n"⟩⟩) true)⟩) := by
  have hobjects : (Reading.ofText shuffledDelete).reading.EveryObject Members.Ordinary := by
    rw [ofText_shuffledDelete]
    simp [unsortedDelete, Json.reading, Json.readings, Json.memberReadings, Reading.EveryObject,
      Reading.EveryObjectIn, Reading.EveryObjectUnder, Members.Ordinary, recordTags]
  have hdepth : (Reading.ofText shuffledDelete).reading.depth ≤ Decoder.maxDepth := by
    rw [ofText_shuffledDelete]
    decide
  refine ⟨parse?_shuffledDelete, hobjects, hdepth, fun p => ?_⟩
  have hagree := Statement.parse_json_agrees parse?_shuffledDelete hobjects hdepth p
  rw [hagree.1.ok, ofJson_sortedDelete]
  rfl

end SqlRender
