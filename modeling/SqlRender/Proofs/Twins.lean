import Mathlib.Data.List.Forall2
import Mathlib.Data.List.Perm.Basic
import SqlRender.Json.Tree
import SqlRender.Proofs.JsonText
import SqlRender.Proofs.Record

/-!
# Proofs/Twins — the two readings of one document

A document is walked as its text is read, or as its generic value, whose members are sorted. The
readings that the two walks see are twins (`Reading.Twins`): the same tokens, the members of objects
in another order.

* `Reading.Twins.cases` says what twins look like;
* `Reading.TwinMembers` is what the members of twin objects have in common.
-/

namespace SqlRender

/-! ## Sorted members -/

namespace Json

/-- Putting a new member in its place changes the order alone. -/
theorem insertMember_perm {key : String} {v : Json} {ms : List (String × Json)}
    (h : key ∉ ms.map Prod.fst) : (insertMember key v ms).Perm ((key, v) :: ms) := by
  induction ms with
  | nil => exact .refl _
  | cons m ms ih =>
    obtain ⟨k, w⟩ := m
    rw [List.map_cons, List.mem_cons, not_or] at h
    rw [insertMember]
    split
    · exact .refl _
    · rw [if_neg h.1]
      exact ((ih h.2).cons (k, w)).trans (.swap (key, v) (k, w) ms)

/-- Sorting only moves members, if no key comes twice. -/
theorem sortMembers_perm {ms : List (String × Json)} (h : (ms.map Prod.fst).Nodup) :
    (sortMembers ms).Perm ms := by
  have hinto : ∀ (ms sorted : List (String × Json)), ((ms ++ sorted).map Prod.fst).Nodup →
      (ms.foldl (fun sorted m => insertMember m.1 m.2 sorted) sorted).Perm (ms ++ sorted) := by
    intro ms
    induction ms with
    | nil => exact fun _ _ => .refl _
    | cons m ms ih =>
      obtain ⟨key, v⟩ := m
      intro sorted hnodup
      have hmove : (ms ++ (key, v) :: sorted).Perm ((key, v) :: (ms ++ sorted)) :=
        List.perm_middle
      have hnew : key ∉ sorted.map Prod.fst := by
        rw [List.cons_append, List.map_cons, List.nodup_cons, List.map_append, List.mem_append,
          not_or] at hnodup
        exact hnodup.1.2
      have hinsert := (insertMember_perm (v := v) hnew).append_left ms
      have hall := hinsert.trans hmove
      exact (ih _ ((hall.map Prod.fst).nodup_iff.mpr hnodup)).trans hall
  have hall := hinto ms [] (by rwa [List.append_nil])
  rwa [List.append_nil] at hall

end Json

/-- Without repeated keys, what is found under a key is what is there. -/
theorem lookup_eq_some_iff_mem {α β : Type} [BEq α] [LawfulBEq α] {l : List (α × β)}
    (h : (l.map Prod.fst).Nodup) {a : α} {b : β} : l.lookup a = some b ↔ (a, b) ∈ l := by
  induction l with
  | nil => simp
  | cons x l ih =>
    obtain ⟨c, d⟩ := x
    rw [List.map_cons, List.nodup_cons] at h
    rw [List.lookup_cons, List.mem_cons, Prod.mk.injEq]
    by_cases hac : a = c
    · subst hac
      have hnot : (a, b) ∉ l := fun hmem => h.1 (List.mem_map.mpr ⟨(a, b), hmem, rfl⟩)
      simp [hnot, eq_comm]
    · have hbeq : (a == c) = false := by simpa using hac
      simp [hbeq, hac, ih h.2]

/-- Order does not matter to a lookup if no key comes twice. -/
theorem lookup_perm {α β : Type} [BEq α] [LawfulBEq α] {l l' : List (α × β)} (h : l.Perm l')
    (hnodup : (l.map Prod.fst).Nodup) (a : α) : l.lookup a = l'.lookup a := by
  refine Option.ext fun b => ?_
  rw [lookup_eq_some_iff_mem hnodup, lookup_eq_some_iff_mem ((h.map Prod.fst).nodup_iff.mp hnodup),
    h.mem_iff]

/-- What two lists with the same keys hold under a key is related as what they hold in a place. -/
theorem lookup_rel {α β γ : Type} [BEq α] [LawfulBEq α] {R : α → β → γ → Prop} {l : List (α × β)}
    {l' : List (α × γ)} (h : List.Forall₂ (fun x y => x.1 = y.1 ∧ R x.1 x.2 y.2) l l') (a : α) :
    Option.Rel (R a) (l.lookup a) (l'.lookup a) := by
  induction h with
  | nil => exact .none
  | @cons x y l l' hxy _ ih =>
    obtain ⟨k, b⟩ := x
    obtain ⟨k', c⟩ := y
    obtain ⟨rfl, hbc⟩ := hxy
    rw [List.lookup_cons, List.lookup_cons]
    cases hbeq : a == k
    · exact ih
    · obtain rfl := eq_of_beq hbeq
      exact .some hbc

theorem exists_of_forall₂ {α β : Type} {R : α → β → Prop} {l : List α} {l' : List β}
    (h : List.Forall₂ R l l') : ∀ a ∈ l, ∃ b ∈ l', R a b := by
  induction h with
  | nil => exact fun a ha => absurd ha (by simp)
  | @cons x y l l' hxy _ ih =>
    refine List.forall_mem_cons.mpr ⟨⟨y, by simp, hxy⟩, fun a ha => ?_⟩
    obtain ⟨b, hb, hab⟩ := ih a ha
    exact ⟨b, List.mem_cons_of_mem y hb, hab⟩

/-! ## Readings of one document -/

mutual

/-- Every object in a reading has the property `P` of its members. -/
def Reading.EveryObject (P : Members → Prop) : Reading → Prop
  | .array items _ => Reading.EveryObjectIn P items
  | .object ms _ => P ms ∧ Reading.EveryObjectUnder P ms
  | _ => True

/-- Every object among items has the property. -/
def Reading.EveryObjectIn (P : Members → Prop) : List Reading → Prop
  | [] => True
  | r :: rest => r.EveryObject P ∧ Reading.EveryObjectIn P rest

/-- Every object among the values of members has the property. -/
def Reading.EveryObjectUnder (P : Members → Prop) : Members → Prop
  | [] => True
  | (_, r) :: rest => r.EveryObject P ∧ Reading.EveryObjectUnder P rest

end

/-- The alternatives that hold a record of their own. -/
def recordTags : List String := ["comparison", "and", "or", "in", "is_null", "expr"]

/-- No key comes twice, and no array stands for the record of an alternative. -/
def Members.Ordinary (ms : Members) : Prop :=
  (ms.map Prod.fst).Nodup ∧
    ∀ tag ∈ recordTags, ∀ items closed, (some tag, .array items closed) ∉ ms

/-- The two readings of one document: `r` of its text, `r'` of its generic value. -/
def Reading.Twins (r r' : Reading) : Prop :=
  r.EveryObject Members.Ordinary ∧ ∃ v, Json.ofReading? r = some v ∧ v.reading = r'

namespace Reading

/-- A reading without parts. -/
inductive IsScalar : Reading → Prop
  | null : IsScalar .null
  | bool (b : Bool) : IsScalar (.bool b)
  | int (n : Int) : IsScalar (.int n)
  | float (x : Double) : IsScalar (.float x)
  | string (s : String) : IsScalar (.string s)

/-- The members of twin objects: the same keys in another order, with twins under each. -/
structure TwinMembers (ms ms' : Members) : Prop where
  ordinary : ms.Ordinary
  plain : ms.Plain
  plain' : ms'.Plain
  length : ms.length = ms'.length
  lookup : ∀ key, Option.Rel Twins (ms.lookup key) (ms'.lookup key)

/-- The items of a reading and of its value are twins one by one. -/
theorem twins_items {items : List Reading} {vs : List Json}
    (hitems : EveryObjectIn Members.Ordinary items) (h : Json.ofItems? items = some vs) :
    List.Forall₂ Twins items (Json.readings vs) := by
  induction items generalizing vs with
  | nil =>
    obtain rfl : [] = vs := Option.some.inj h
    exact .nil
  | cons r items ih =>
    rw [Json.ofItems?] at h
    obtain ⟨v, hv, h⟩ := Option.bind_eq_some_iff.mp h
    obtain ⟨ws, hws, h⟩ := Option.bind_eq_some_iff.mp h
    obtain rfl : v :: ws = vs := Option.some.inj h
    exact .cons ⟨hitems.1, v, hv, rfl⟩ (ih hitems.2 hws)

/-- The members as they stand in the text, beside those of the value before they are sorted. -/
theorem twins_members {ms : Members} {vs : List (String × Json)}
    (hms : EveryObjectUnder Members.Ordinary ms) (h : Json.ofMembers? ms = some vs) :
    List.Forall₂ (fun x y => x.1 = y.1 ∧ Twins x.2 y.2) ms (Json.memberReadings vs) := by
  induction ms generalizing vs with
  | nil =>
    obtain rfl : [] = vs := Option.some.inj h
    exact .nil
  | cons m ms ih =>
    obtain ⟨key, r⟩ := m
    rw [Json.ofMembers?] at h
    obtain ⟨name, rfl, hname⟩ := Option.bind_eq_some_iff.mp h
    obtain ⟨v, hv, hvalue⟩ := Option.bind_eq_some_iff.mp hname
    obtain ⟨ws, hws, hrest⟩ := Option.bind_eq_some_iff.mp hvalue
    obtain rfl : (name, v) :: ws = vs := Option.some.inj hrest
    exact .cons ⟨rfl, hms.1, v, hv, rfl⟩ (ih hms.2 hws)

theorem memberReadings_eq (ms : List (String × Json)) :
    Json.memberReadings ms = ms.map fun m => (some m.1, m.2.reading) := by
  induction ms with
  | nil => rfl
  | cons m ms ih => rw [Json.memberReadings, ih, List.map_cons]

theorem readings_eq (vs : List Json) : Json.readings vs = vs.map Json.reading := by
  induction vs with
  | nil => rfl
  | cons v vs ih => rw [Json.readings, ih, List.map_cons]

/-- A generic value has nothing that could break off. -/
theorem isWhole_reading (v : Json) : v.reading.isWhole = true := by
  induction v using Json.tree_induction with
  | null | bool | int | float | string => rfl
  | array vs hvs =>
    rw [Json.reading, isWhole, Bool.true_and, allWhole_iff, readings_eq]
    exact List.forall_mem_map.mpr hvs
  | object ms hms =>
    rw [Json.reading, isWhole, Bool.true_and, allMembersWhole_iff, memberReadings_eq]
    exact List.forall_mem_map.mpr hms

mutual

/-- Only what was read to its end has a generic value. -/
theorem isWhole_of_ofReading? : ∀ {r : Reading} {v : Json}, Json.ofReading? r = some v →
    r.isWhole = true
  | .null, _, _ | .bool _, _, _ | .int _, _, _ | .float _, _, _ | .string _, _, _ => rfl
  | .array items closed, v, h => by
      rw [Json.ofReading?] at h
      split at h
      case isTrue hclosed =>
        obtain ⟨vs, hvs, _⟩ := Option.map_eq_some_iff.mp h
        rw [isWhole, hclosed, allWhole_of_ofItems? hvs]
        rfl
      case isFalse => exact absurd h (by simp)
  | .object ms closed, v, h => by
      rw [Json.ofReading?] at h
      split at h
      case isTrue hclosed =>
        obtain ⟨vs, hvs, _⟩ := Option.map_eq_some_iff.mp h
        rw [isWhole, hclosed, allMembersWhole_of_ofMembers? hvs]
        rfl
      case isFalse => exact absurd h (by simp)
  | .unreadable, _, _ => rfl
  | .keyed _, _, h | .broken, _, h => absurd h (by simp [Json.ofReading?])

/-- Items that have values were read to their ends. -/
theorem allWhole_of_ofItems? : ∀ {items : List Reading} {vs : List Json},
    Json.ofItems? items = some vs → allWhole items = true
  | [], _, _ => rfl
  | r :: items, vs, h => by
      rw [Json.ofItems?] at h
      obtain ⟨v, hv, h⟩ := Option.bind_eq_some_iff.mp h
      obtain ⟨ws, hws, _⟩ := Option.bind_eq_some_iff.mp h
      rw [allWhole, isWhole_of_ofReading? hv, allWhole_of_ofItems? hws]
      rfl

theorem allMembersWhole_of_ofMembers? : ∀ {ms : Members} {vs : List (String × Json)},
    Json.ofMembers? ms = some vs → allMembersWhole ms = true
  | [], _, _ => rfl
  | (key, r) :: ms, vs, h => by
      rw [Json.ofMembers?] at h
      obtain ⟨_, _, h⟩ := Option.bind_eq_some_iff.mp h
      obtain ⟨v, hv, h⟩ := Option.bind_eq_some_iff.mp h
      obtain ⟨ws, hws, _⟩ := Option.bind_eq_some_iff.mp h
      rw [allMembersWhole, isWhole_of_ofReading? hv, allMembersWhole_of_ofMembers? hws]
      rfl

end

/-- The members of an object, in the order of the text and sorted. -/
theorem twinMembers {ms : Members} {vs : List (String × Json)} (hordinary : ms.Ordinary)
    (hms : EveryObjectUnder Members.Ordinary ms) (h : Json.ofMembers? ms = some vs) :
    TwinMembers ms (Json.memberReadings (Json.sortMembers vs)) := by
  -- the members pair up in the order of the text; then the sorted ones are a permutation
  have hpairs := twins_members hms h
  have hkeys : ms.map Prod.fst = (Json.memberReadings vs).map Prod.fst := by
    rw [← List.forall₂_eq_eq_eq, List.forall₂_map_left_iff, List.forall₂_map_right_iff]
    exact hpairs.imp fun _ _ hpair => hpair.1
  have hkeys' : (Json.memberReadings vs).map Prod.fst = (vs.map Prod.fst).map some := by
    rw [memberReadings_eq, List.map_map, List.map_map]
    rfl
  have hnodup : ((Json.memberReadings vs).map Prod.fst).Nodup := hkeys ▸ hordinary.1
  have hperm : (Json.memberReadings (Json.sortMembers vs)).Perm (Json.memberReadings vs) := by
    rw [memberReadings_eq, memberReadings_eq]
    exact (Json.sortMembers_perm (hkeys' ▸ hnodup).of_map).map _
  have hsorted := (hperm.map Prod.fst).nodup_iff.mpr hnodup
  refine ⟨hordinary, ⟨hordinary.1, fun m hm => ?_,
    allMembersWhole_iff.mp (allMembersWhole_of_ofMembers? h)⟩, ⟨hsorted, fun m hm => ?_,
    fun m hm => ?_⟩, ?_, fun key => ?_⟩
  · have hmem : m.1 ∈ (vs.map Prod.fst).map some := by
      rw [← hkeys', ← hkeys]
      exact List.mem_map_of_mem hm
    obtain ⟨name, _, hname⟩ := List.mem_map.mp hmem
    rw [← hname]
    exact Option.some_ne_none name
  · rw [memberReadings_eq] at hm
    obtain ⟨w, _, rfl⟩ := List.mem_map.mp hm
    exact Option.some_ne_none w.1
  · rw [memberReadings_eq] at hm
    obtain ⟨w, _, rfl⟩ := List.mem_map.mp hm
    exact isWhole_reading w.2
  · rw [hperm.length_eq, hpairs.length_eq]
  · rw [lookup_perm hperm hsorted]
    exact lookup_rel (R := fun _ => Twins) hpairs key

/-- **What twins look like**: the same token, or containers of twins. -/
theorem Twins.cases {r r' : Reading} (h : Twins r r') :
    (r.IsScalar ∧ r' = r) ∨
      (∃ items items', r = .array items true ∧ r' = .array items' true ∧
        List.Forall₂ Twins items items') ∨
      ∃ ms ms', r = .object ms true ∧ r' = .object ms' true ∧ TwinMembers ms ms' := by
  obtain ⟨hobjects, v, hv, rfl⟩ := h
  cases r with
  | null => exact .inl ⟨.null, by rw [← Option.some.inj hv]; rfl⟩
  | bool b => exact .inl ⟨.bool b, by rw [← Option.some.inj hv]; rfl⟩
  | int n => exact .inl ⟨.int n, by rw [← Option.some.inj hv]; rfl⟩
  | float x => exact .inl ⟨.float x, by rw [← Option.some.inj hv]; rfl⟩
  | string s => exact .inl ⟨.string s, by rw [← Option.some.inj hv]; rfl⟩
  | unreadable | keyed | broken => exact absurd hv (by simp [Json.ofReading?])
  | array items closed =>
    rw [Json.ofReading?] at hv
    split at hv
    case isTrue hclosed =>
      obtain ⟨vs, hvs, rfl⟩ := Option.map_eq_some_iff.mp hv
      subst hclosed
      exact .inr (.inl ⟨items, _, rfl, rfl, twins_items hobjects hvs⟩)
    case isFalse => exact absurd hv (by simp)
  | object ms closed =>
    rw [Json.ofReading?] at hv
    split at hv
    case isTrue hclosed =>
      obtain ⟨vs, hvs, rfl⟩ := Option.map_eq_some_iff.mp hv
      subst hclosed
      exact .inr (.inr ⟨ms, _, rfl, rfl, twinMembers hobjects.1 hobjects.2 hvs⟩)
    case isFalse => exact absurd hv (by simp)

/-- A member has its twin under the same key. -/
theorem TwinMembers.exists_twin {ms ms' : Members} (h : TwinMembers ms ms') {key : Option String}
    {r : Reading} (hr : (key, r) ∈ ms) : ∃ r', (key, r') ∈ ms' ∧ Twins r r' := by
  have hrel := h.lookup key
  rw [(lookup_eq_some_iff_mem h.plain.nodup).mpr hr] at hrel
  cases hlookup : ms'.lookup key with
  | none =>
    rw [hlookup] at hrel
    exact absurd hrel (by rintro ⟨⟩)
  | some r' =>
    rw [hlookup] at hrel
    obtain ⟨htwins⟩ := hrel
    exact ⟨r', (lookup_eq_some_iff_mem h.plain'.nodup).mp hlookup, htwins⟩

/-- Sorting loses no level. -/
theorem Twins.depth_le : ∀ {n : Nat} {r r' : Reading}, r.depth ≤ n → Twins r r' →
    r.depth ≤ r'.depth
  | n, r, r', hn, h => by
      rcases h.cases with ⟨_, rfl⟩ | ⟨items, items', rfl, rfl, hitems⟩ | ⟨ms, ms', rfl, rfl, hms⟩
      · exact le_rfl
      · rw [depth] at hn ⊢
        obtain ⟨n, rfl⟩ := Nat.exists_eq_add_of_le' (Nat.one_le_of_lt hn)
        have hparts := depthItems_le.mp (Nat.le_of_succ_le_succ hn)
        refine Nat.succ_le_succ (depthItems_le.mpr fun r hr => ?_)
        obtain ⟨r', hr', htwins⟩ := exists_of_forall₂ hitems r hr
        exact (Twins.depth_le (hparts r hr) htwins).trans (depthItems_le.mp le_rfl _ hr')
      · rw [depth] at hn ⊢
        obtain ⟨n, rfl⟩ := Nat.exists_eq_add_of_le' (Nat.one_le_of_lt hn)
        have hparts := depthMembers_le.mp (Nat.le_of_succ_le_succ hn)
        refine Nat.succ_le_succ (depthMembers_le.mpr fun m hm => ?_)
        obtain ⟨r', hr', htwins⟩ := hms.exists_twin hm
        exact (Twins.depth_le (hparts m hm) htwins).trans (depthMembers_le.mp le_rfl _ hr')

end Reading

end SqlRender
