import Mathlib.Data.List.Nodup
import SqlRender.Document.Decoder

/-!
# Proofs/Record — what a record takes from the members of an object

A record is filled while the members of an object are walked in their order. Where every key is
there and no key comes twice, the order does not matter: a field takes the member with its name
(`decodeMembers_required`, `decodeMembers_defaulted`), and two groups of fields with different names
fill independently (`decodeMembers_and`). The equations are about results without their errors, as
the order decides which error comes first.
-/

namespace SqlRender

/-! ## Results, with their errors and without -/

section Results

variable {ε α β : Type}

theorem toOption_bind (x : Except ε α) (f : α → Except ε β) :
    (x >>= f).toOption = x.toOption.bind fun a => (f a).toOption := by
  cases x <;> rfl

theorem toOption_map (f : α → β) (x : Except ε α) : (x.map f).toOption = x.toOption.map f := by
  cases x <;> rfl

theorem toOption_eq_some {x : Except ε α} {a : α} : x.toOption = some a ↔ x = .ok a := by
  cases x <;> simp [Except.toOption]

theorem error_ne_ok {e : ε} {a : α} : (.error e : Except ε α) ≠ .ok a := nofun

theorem bind_eq_ok {x : Except ε α} {f : α → Except ε β} {b : β} :
    x >>= f = .ok b ↔ ∃ a, x = .ok a ∧ f a = .ok b := by
  cases x with
  | error e => exact ⟨fun h => absurd h error_ne_ok, fun ⟨_, h, _⟩ => absurd h error_ne_ok⟩
  | ok a => exact ⟨fun h => ⟨a, rfl, h⟩, fun ⟨_, ha, h⟩ => Except.ok.inj ha ▸ h⟩

theorem map_eq_ok {x : Except ε α} {f : α → β} {b : β} :
    x.map f = .ok b ↔ ∃ a, x = .ok a ∧ f a = b := by
  cases x with
  | error e => exact ⟨fun h => absurd h error_ne_ok, fun ⟨_, h, _⟩ => absurd h error_ne_ok⟩
  | ok a =>
    exact ⟨fun h => ⟨a, rfl, Except.ok.inj h⟩, fun ⟨_, ha, h⟩ => Except.ok.inj ha ▸ h ▸ rfl⟩

end Results

theorem Decoder.map_apply {α β : Type} (f : α → β) (d : Decoder α) (walk : Walk) (depth : Nat)
    (r : Reading) : d.map f walk depth r = (d walk depth r).map f := rfl

/-! ## Readings and their parts -/

namespace Reading

theorem depthItems_le {items : List Reading} {n : Nat} :
    depthItems items ≤ n ↔ ∀ r ∈ items, r.depth ≤ n := by
  induction items with
  | nil => simp [depthItems]
  | cons r items ih => rw [depthItems, Nat.max_le, ih, List.forall_mem_cons]

theorem depthMembers_le {ms : List (Option String × Reading)} {n : Nat} :
    depthMembers ms ≤ n ↔ ∀ m ∈ ms, m.2.depth ≤ n := by
  induction ms with
  | nil => simp [depthMembers]
  | cons m ms ih => rw [depthMembers, Nat.max_le, ih, List.forall_mem_cons]

theorem allWhole_iff {items : List Reading} :
    allWhole items = true ↔ ∀ r ∈ items, r.isWhole = true := by
  induction items with
  | nil => simp [allWhole]
  | cons r items ih => rw [allWhole, Bool.and_eq_true, ih, List.forall_mem_cons]

theorem allMembersWhole_iff {ms : List (Option String × Reading)} :
    allMembersWhole ms = true ↔ ∀ m ∈ ms, m.2.isWhole = true := by
  induction ms with
  | nil => simp [allMembersWhole]
  | cons m ms ih => rw [allMembersWhole, Bool.and_eq_true, ih, List.forall_mem_cons]

end Reading

/-! ## Members -/

/-- The members of an object. -/
abbrev Members := List (Option String × Reading)

/-- Members that a record can take in any order: no key comes twice, every key is there, and what is
skipped can be skipped. -/
structure Members.Plain (ms : Members) : Prop where
  nodup : (ms.map Prod.fst).Nodup
  keyed : ∀ m ∈ ms, m.1 ≠ none
  whole : ∀ m ∈ ms, m.2.isWhole = true

theorem Members.Plain.tail {m : Option String × Reading} {ms : Members}
    (h : Members.Plain (m :: ms)) : Members.Plain ms :=
  ⟨(List.nodup_cons.mp h.nodup).2, fun x hx => h.keyed x (List.mem_cons_of_mem m hx),
    fun x hx => h.whole x (List.mem_cons_of_mem m hx)⟩

/-- The first key and its value. -/
theorem Members.Plain.head {m : Option String × Reading} {ms : Members}
    (h : Members.Plain (m :: ms)) :
    ∃ key r, m = (some key, r) ∧ r.isWhole = true ∧ some key ∉ ms.map Prod.fst := by
  obtain ⟨key, r⟩ := m
  obtain ⟨key, rfl⟩ := Option.ne_none_iff_exists'.mp (h.keyed (key, r) (by simp))
  exact ⟨key, r, rfl, h.whole (some key, r) (by simp), (List.nodup_cons.mp h.nodup).1⟩

namespace Fields

variable {σ τ α β : Type} {walk : Walk} {depth : Nat} {ms : Members}

/-! ## One member -/

section Step

variable {fields : List (Field σ)} {key : String} {r : Reading} (s : σ)

/-- A member with a name that no field has is passed. -/
theorem fromMembers_skip (hfind : fields.find? (·.name == key) = none) (hr : r.isWhole = true) :
    fromMembers fields walk depth s ((some key, r) :: ms) = fromMembers fields walk depth s ms := by
  rw [fromMembers, hfind]
  exact if_pos hr

/-- A member with the name of a field fills it, once. -/
theorem fromMembers_store {f : Field σ} (hfind : fields.find? (·.name == key) = some f) :
    (fromMembers fields walk depth s ((some key, r) :: ms)).toOption
      = if f.isSet s then none
        else (f.read walk depth r).toOption.bind fun store =>
          (fromMembers fields walk depth (store s) ms).toOption := by
  rw [fromMembers, hfind]
  dsimp only
  split
  · rfl
  · exact toOption_bind _ _

end Step

/-! ## Two groups of fields -/

theorem find?_onFirst (fields : List (Field σ)) (key : String) :
    (fields.map (onFirst (τ := τ))).find? (·.name == key)
      = (fields.find? (·.name == key)).map onFirst := List.find?_map

theorem find?_onSecond (fields : List (Field τ)) (key : String) :
    (fields.map (onSecond (σ := σ))).find? (·.name == key)
      = (fields.find? (·.name == key)).map onSecond := List.find?_map

/-- A key of the first group is no key of the second. -/
theorem find?_eq_none_of_disjoint {f : List (Field σ)} {g : List (Field τ)}
    (hnames : List.Disjoint (f.map Field.name) (g.map Field.name)) {key : String} {a : Field σ}
    (hf : f.find? (·.name == key) = some a) : g.find? (·.name == key) = none := by
  refine List.find?_eq_none.mpr fun b hb hkey => ?_
  have ha : a.name = key := by simpa using List.find?_some hf
  have hname : b.name = key := by simpa using hkey
  exact hnames (List.mem_map_of_mem (List.mem_of_find?_eq_some hf))
    (ha.trans hname.symm ▸ List.mem_map_of_mem hb)

/-- **Fields with different names fill independently.** -/
theorem fromMembers_and (f : List (Field σ)) (g : List (Field τ))
    (hnames : List.Disjoint (f.map Field.name) (g.map Field.name)) (hms : ms.Plain) :
    ∀ s t, (fromMembers (f.map onFirst ++ g.map onSecond) walk depth (s, t) ms).toOption
      = (fromMembers f walk depth s ms).toOption.bind fun s' =>
          (fromMembers g walk depth t ms).toOption.map fun t' => (s', t') := by
  induction ms with
  | nil => exact fun _ _ => rfl
  | cons m ms ih =>
    intro s t
    obtain ⟨key, r, rfl, hr, _⟩ := hms.head
    have hfind : (f.map onFirst ++ g.map onSecond).find? (·.name == key)
        = ((f.find? (·.name == key)).map onFirst).or
            ((g.find? (·.name == key)).map onSecond) := by
      rw [List.find?_append, find?_onFirst, find?_onSecond]
    cases hf : f.find? (·.name == key) with
    | some a =>
      -- the member belongs to the first group, and the second skips it
      have hg := find?_eq_none_of_disjoint hnames hf
      rw [hf, Option.map_some, Option.some_or] at hfind
      rw [fromMembers_store _ hfind, fromMembers_store _ hf, fromMembers_skip _ hg hr]
      have hset : (onFirst (τ := τ) a).isSet (s, t) = a.isSet s := rfl
      have hread : (onFirst (τ := τ) a).read walk depth r
          = (a.read walk depth r).map fun store p => (store p.1, p.2) := rfl
      rw [hset, hread]
      cases a.isSet s
      · cases a.read walk depth r with
        | error e => rfl
        | ok store => exact ih hms.tail (store s) t
      · rfl
    | none =>
      rw [hf, Option.map_none, Option.none_or] at hfind
      rw [fromMembers_skip s hf hr]
      cases hg : g.find? (·.name == key) with
      | none =>
        rw [hg, Option.map_none] at hfind
        rw [fromMembers_skip _ hfind hr, fromMembers_skip _ hg hr]
        exact ih hms.tail s t
      | some b =>
        rw [hg, Option.map_some] at hfind
        rw [fromMembers_store _ hfind, fromMembers_store _ hg]
        have hset : (onSecond (σ := σ) b).isSet (s, t) = b.isSet t := rfl
        have hread : (onSecond (σ := σ) b).read walk depth r
            = (b.read walk depth r).map fun store p => (p.1, store p.2) := rfl
        rw [hset, hread]
        cases b.isSet t
        · cases b.read walk depth r with
          | error e => cases fromMembers f walk depth s ms <;> rfl
          | ok store => exact ih hms.tail s (store t)
        · cases fromMembers f walk depth s ms <;> rfl

/-! ## One field -/

/-- A field that no member is named for is left as it was. -/
theorem fromMembers_absent {f : Field σ} (hms : ms.Plain) (s : σ)
    (habsent : some f.name ∉ ms.map Prod.fst) :
    fromMembers [f] walk depth s ms = .ok s := by
  induction ms with
  | nil => rfl
  | cons m ms ih =>
    obtain ⟨key, r, rfl, hr, _⟩ := hms.head
    rw [List.map_cons, List.mem_cons, not_or] at habsent
    have hkey : f.name ≠ key := fun h => habsent.1 (congrArg some h)
    rw [fromMembers_skip s (by simp [hkey]) hr]
    exact ih hms.tail habsent.2

/-- **A field takes the member with its name.** -/
theorem fromMembers_one (walk : Walk) (depth : Nat) {f : Field σ} (hms : ms.Plain) {s : σ}
    (hs : f.isSet s = false) :
    (fromMembers [f] walk depth s ms).toOption
      = (ms.lookup (some f.name)).elim (some s) fun r =>
          (f.read walk depth r).toOption.map fun store => store s := by
  induction ms with
  | nil => rfl
  | cons m ms ih =>
    obtain ⟨key, r, rfl, hr, hnew⟩ := hms.head
    by_cases hkey : f.name = key
    · subst hkey
      rw [fromMembers_store s (f := f) (by simp), hs, List.lookup_cons_self, Option.elim_some,
        if_neg (by decide)]
      cases f.read walk depth r with
      | error e => rfl
      | ok store => exact congrArg Except.toOption (fromMembers_absent hms.tail (store s) hnew)
    · have hbeq : (some f.name == some key) = false := by simpa using hkey
      rw [fromMembers_skip s (by simp [hkey]) hr, List.lookup_cons, hbeq]
      exact ih hms.tail

/-! ## Records -/

/-- An object fills the fields, and the record is made of what they hold. -/
theorem decodeMembers_eq (f : Fields σ α) :
    (f.decodeMembers walk depth ms true).toOption
      = (fromMembers f.fields walk depth f.start ms).toOption.bind fun s =>
          (f.finish s).toOption := by
  rw [decodeMembers, toOption_bind]
  rfl

/-- **One field takes the member of its name**, wherever it stands. -/
theorem decodeMembers_one (name : String) (optional : Bool) (d : Decoder α)
    (finish : Option α → Except DocumentError α) (hms : ms.Plain) :
    ((one name optional d finish).decodeMembers walk depth ms true).toOption
      = ((ms.lookup (some name)).elim (some none) fun r =>
          (d walk depth r).toOption.map some).bind fun a => (finish a).toOption := by
  have hone := fromMembers_one walk depth
    (f := ⟨name, optional, Option.isSome, d.map fun a _ => some a⟩) hms (s := none) rfl
  rw [decodeMembers_eq, one, hone]
  cases ms.lookup (some name) with
  | none => rfl
  | some r =>
    dsimp only [Option.elim]
    rw [Decoder.map_apply, toOption_map, Option.map_map]
    rfl

/-- A field that must be there is. -/
theorem decodeMembers_required (name : String) (d : Decoder α) (hms : ms.Plain) :
    ((required name d).decodeMembers walk depth ms true).toOption
      = (ms.lookup (some name)).bind fun r => (d walk depth r).toOption := by
  rw [required, decodeMembers_one name false d _ hms]
  cases ms.lookup (some name) with
  | none => rfl
  | some r =>
    rw [Option.elim_some, Option.bind_some]
    cases d walk depth r <;> rfl

/-- A field that may be left out has its default then. -/
theorem decodeMembers_defaulted (name : String) (d : Decoder α) (default : α) (hms : ms.Plain) :
    ((defaulted name d default).decodeMembers walk depth ms true).toOption
      = (ms.lookup (some name)).elim (some default) fun r => (d walk depth r).toOption := by
  rw [defaulted, decodeMembers_one name true d _ hms]
  cases ms.lookup (some name) with
  | none => rfl
  | some r =>
    rw [Option.elim_some, Option.elim_some]
    cases d walk depth r <;> rfl

/-- The names of the fields in order. -/
def names (f : Fields σ α) : List String := f.fields.map Field.name

@[simp] theorem names_required (name : String) (d : Decoder α) :
    (required name d).names = [name] := rfl

@[simp] theorem names_defaulted (name : String) (d : Decoder α) (default : α) :
    (defaulted name d default).names = [name] := rfl

@[simp] theorem names_and (f : Fields σ α) (g : Fields τ β) :
    (f.and g).names = f.names ++ g.names := by
  rw [names, and, List.map_append, List.map_map, List.map_map]
  rfl

@[simp] theorem names_map (h : α → β) (f : Fields σ α) : (f.map h).names = f.names := rfl

/-- **Records of disjoint names are decoded apart.** The members of one are unknown to the other. -/
theorem decodeMembers_and {f : Fields σ α} {g : Fields τ β} (hnames : f.names.Disjoint g.names)
    (hms : ms.Plain) :
    ((f.and g).decodeMembers walk depth ms true).toOption
      = (f.decodeMembers walk depth ms true).toOption.bind fun a =>
          (g.decodeMembers walk depth ms true).toOption.map fun b => (a, b) := by
  have hboth : (fromMembers (f.and g).fields walk depth (f.and g).start ms).toOption = _ :=
    fromMembers_and f.fields g.fields hnames hms f.start g.start
  have hfinish : ∀ s t, ((f.and g).finish (s, t)).toOption
      = (f.finish s).toOption.bind fun a => (g.finish t).toOption.map fun b => (a, b) := by
    intro s t
    rw [and, toOption_bind]
    congr 1
    funext a
    cases g.finish t <;> rfl
  rw [decodeMembers_eq, decodeMembers_eq, decodeMembers_eq, hboth]
  cases (fromMembers f.fields walk depth f.start ms).toOption with
  | none => rfl
  | some s =>
    rw [Option.bind_some, Option.bind_some]
    cases (fromMembers g.fields walk depth g.start ms).toOption with
    | none => exact (Option.bind_fun_none _).symm
    | some t => exact hfinish s t

theorem decodeMembers_map (h : α → β) (f : Fields σ α) :
    ((f.map h).decodeMembers walk depth ms true).toOption
      = (f.decodeMembers walk depth ms true).toOption.map h := by
  rw [decodeMembers_eq, decodeMembers_eq, map]
  cases fromMembers f.fields walk depth f.start ms with
  | error e => rfl
  | ok s => exact toOption_map h (f.finish s)

end Fields

end SqlRender
