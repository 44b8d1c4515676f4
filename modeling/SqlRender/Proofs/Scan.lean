import Mathlib.Data.List.TakeWhile
import SqlRender.Template.Scan
import SqlRender.Template.Slot

/-!
# Proofs/Scan — scanning bytes finds the slots of the characters

`Slots.cut` cuts a template between characters; a scan looks for the percent sign among bytes and
slices the text behind it. The two agree because the byte of the percent sign occurs in the encoding
of no other character (`eq_percent_of_mem`): a literal run of bytes is the encoding of a literal run
of characters, so every position that the scan visits stands between two characters (`StandsAt`),
and no slice is taken inside one. `StandsAt.scanned` is the comparison at one position.
-/

namespace SqlRender

/-- The encoding of characters. -/
def utf8 (cs : List Char) : List UInt8 := cs.flatMap String.utf8EncodeChar

@[simp] theorem utf8_nil : utf8 [] = [] := rfl

@[simp] theorem utf8_cons (c : Char) (cs : List Char) :
    utf8 (c :: cs) = String.utf8EncodeChar c ++ utf8 cs := rfl

@[simp] theorem utf8_append (cs ds : List Char) : utf8 (cs ++ ds) = utf8 cs ++ utf8 ds :=
  List.flatMap_append

theorem toByteArray_utf8 (cs : List Char) : (utf8 cs).toByteArray = (String.ofList cs).toUTF8 :=
  String.toByteArray_ofList.symm

/-- The bytes of a string are those of its characters. -/
theorem toUTF8_eq_utf8 (s : String) : s.toUTF8.data.toList = utf8 s.toList := by
  have hencode : s.toUTF8 = (utf8 s.toList).toByteArray := String.utf8Encode_toList.symm
  rw [hencode, List.toList_data_toByteArray]

/-- The size of a string is the number of its bytes. -/
theorem utf8ByteSize_eq (s : String) : s.utf8ByteSize = (utf8 s.toList).length := by
  rw [← toUTF8_eq_utf8, Array.length_toList]
  rfl

/-! ## The percent sign among bytes -/

namespace Template

/-- The bytes of a character beyond ASCII are large. -/
theorem le_of_mem_encodeChar {c : Char} (hc : ¬ c.val.toNat ≤ 127) :
    ∀ b ∈ String.utf8EncodeChar c, 128 ≤ b.toNat := by
  have hlarge : ∀ n : Nat, 128 ≤ n → n < 256 → 128 ≤ (UInt8.ofNat n).toNat := fun n hlow hhigh => by
    rw [UInt8.toNat_ofNat', Nat.mod_eq_of_lt hhigh]
    exact hlow
  simp only [String.utf8EncodeChar, if_neg hc]
  split <;> [skip; split] <;>
  · simp only [List.forall_mem_cons, List.not_mem_nil, false_implies, implies_true, and_true]
    repeat' apply And.intro
    all_goals exact hlarge _ (by omega) (by omega)

/-- **The byte of the percent sign belongs to no other character.** -/
theorem eq_percent_of_mem {c : Char} (h : markerByte ∈ String.utf8EncodeChar c) : c = '%' := by
  by_cases hc : c.val.toNat ≤ 127
  · rw [String.utf8EncodeChar, if_pos hc, List.mem_singleton] at h
    have hbyte : 37 = c.val.toNat % 256 := congrArg UInt8.toNat h
    refine Char.ext (UInt32.toNat_inj.mp ?_)
    change c.val.toNat = 37
    omega
  · exact absurd (le_of_mem_encodeChar hc _ h) (by decide)

/-- No byte of another character is mistaken for a percent sign. -/
theorem takeWhile_encodeChar {c : Char} (hc : c ≠ '%') (bytes : List UInt8) :
    (String.utf8EncodeChar c ++ bytes).takeWhile (· != markerByte)
      = String.utf8EncodeChar c ++ bytes.takeWhile (· != markerByte) := by
  refine List.takeWhile_append_of_pos fun b hb => bne_iff_ne.mpr ?_
  rintro rfl
  exact hc (eq_percent_of_mem hb)

/-- **A literal run of bytes encodes the literal run of characters.** -/
theorem takeWhile_utf8 : ∀ cs : List Char,
    (utf8 cs).takeWhile (· != markerByte) = utf8 (cs.takeWhile (· != '%'))
  | [] => rfl
  | c :: cs => by
      by_cases hc : c = '%'
      · subst hc
        rfl
      · rw [utf8_cons, takeWhile_encodeChar hc, takeWhile_utf8 cs,
          List.takeWhile_cons_of_pos (by simpa using hc), utf8_cons]

end Template

/-! ## Positions between characters -/

/-- A text can be split where a character ends. -/
theorem splitBytes?_append : ∀ cs ds : List Char,
    splitBytes? (utf8 cs).length (cs ++ ds) = some (cs, ds)
  | [], ds => by rw [utf8_nil, List.length_nil, splitBytes?, List.nil_append]
  | c :: cs, ds => by
      have hsize := c.utf8Size_pos
      obtain ⟨n, hn⟩ : ∃ n, (utf8 (c :: cs)).length = n + 1 :=
        ⟨(utf8 (c :: cs)).length - 1, by simp; omega⟩
      have hlength : n + 1 = c.utf8Size + (utf8 cs).length := by
        rw [← hn, utf8_cons, List.length_append, String.length_utf8EncodeChar]
      rw [hn, List.cons_append, splitBytes?, if_pos (by omega),
        show n + 1 - c.utf8Size = (utf8 cs).length by omega, splitBytes?_append cs ds]
      rfl

/-- Byte `i` of the template stands in front of the characters `cs`, the last ones of it. -/
def StandsAt (template : String) (i : Nat) (cs : List Char) : Prop :=
  ∃ before, template.toList = before ++ cs ∧ i = (utf8 before).length

namespace StandsAt

variable {template : String} {i : Nat} {cs ds : List Char}

theorem start (template : String) : StandsAt template 0 template.toList := ⟨[], rfl, rfl⟩

theorem advance (cs : List Char) (h : StandsAt template i (cs ++ ds)) :
    StandsAt template (i + (utf8 cs).length) ds := by
  obtain ⟨before, htemplate, rfl⟩ := h
  exact ⟨before ++ cs, by rw [htemplate, List.append_assoc],
    by rw [utf8_append, List.length_append]⟩

theorem sliceFrom? (h : StandsAt template i cs) : sliceFrom? template.toList i = some cs := by
  obtain ⟨before, htemplate, rfl⟩ := h
  rw [SqlRender.sliceFrom?, htemplate, splitBytes?_append]
  rfl

/-- The run that is copied ends at the first percent sign. -/
theorem literalRun (h : StandsAt template i cs) :
    Template.literalRun template i = utf8 (cs.takeWhile (· != '%')) := by
  obtain ⟨before, htemplate, rfl⟩ := h
  rw [Template.literalRun, toUTF8_eq_utf8, htemplate, utf8_append, List.drop_left,
    Template.takeWhile_utf8]

theorem landmark_nil (h : StandsAt template i []) : Template.landmark template i = .finish := by
  obtain ⟨before, htemplate, rfl⟩ := h
  rw [Template.landmark, utf8ByteSize_eq, htemplate, List.append_nil, if_pos le_rfl]

/-- Behind a percent sign the text is sliced between two characters. -/
theorem landmark_percent (h : StandsAt template i ('%' :: cs)) :
    ¬ template.utf8ByteSize ≤ i ∧ SqlRender.sliceFrom? template.toList (i + 1) = some cs := by
  refine ⟨?_, (h.advance ['%']).sliceFrom?⟩
  obtain ⟨before, htemplate, rfl⟩ := h
  rw [utf8ByteSize_eq, htemplate]
  simp [String.utf8EncodeChar]

theorem landmark_dangling (h : StandsAt template i ['%']) :
    Template.landmark template i = .fault (.dangling i) := by
  obtain ⟨hinside, hslice⟩ := h.landmark_percent
  rw [Template.landmark, if_neg hinside, hslice]

/-- A percent sign and a character are a marker, or a fault. -/
theorem landmark_marker {m : Char} (h : StandsAt template i ('%' :: m :: cs)) :
    Template.landmark template i =
      match Directive.ofMarker? m with
      | none => .fault (.unsupported m i)
      | some d => .marker d (i + 1 + m.utf8Size) := by
  obtain ⟨hinside, hslice⟩ := h.landmark_percent
  cases hdirective : Directive.ofMarker? m <;>
    simp only [Template.landmark, if_neg hinside, hslice, hdirective]

end StandsAt

/-! ## Slots -/

/-- The fault of a marker that no argument can fill. -/
def Slot.fault (slot : Slot) (index : Nat) : Fault :=
  match slot.marker with
  | none => .dangling slot.offset
  | some m =>
    match Directive.ofMarker? m with
    | none => .unsupported m slot.offset
    | some d => .missing index d

namespace Slots

/-- Put a literal run in front. -/
def runCons (run : List Char) : Slots → Slots
  | ⟨[], tail⟩ => ⟨[], run ++ tail⟩
  | ⟨s :: rest, tail⟩ => ⟨{ s with before := run ++ s.before } :: rest, tail⟩

theorem cons_runCons (c : Char) (run : List Char) (s : Slots) :
    (s.runCons run).cons c = s.runCons (c :: run) := by
  obtain ⟨slots, tail⟩ := s
  cases slots <;> rfl

theorem runCons_nil (s : Slots) : s.runCons [] = s := by
  obtain ⟨slots, tail⟩ := s
  cases slots <;> rfl

theorem cut_cons {c : Char} (hc : c ≠ '%') (pos : Nat) (cs : List Char) :
    cut pos (c :: cs) = (cut (pos + c.utf8Size) cs).cons c := by
  rw [cut]
  · simp [hc]
  · simp [hc]

/-- The slots of a literal run and what follows it. -/
theorem cut_append : ∀ {run : List Char} (pos : Nat) (rest : List Char), '%' ∉ run →
    cut pos (run ++ rest) = (cut (pos + (utf8 run).length) rest).runCons run
  | [], pos, rest, _ => by
      rw [List.nil_append, runCons_nil, utf8_nil, List.length_nil, Nat.add_zero]
  | c :: run, pos, rest, h => by
      obtain ⟨hc, hrun⟩ := List.ne_and_not_mem_of_not_mem_cons h
      rw [List.cons_append, cut_cons (Ne.symm hc), cut_append _ rest hrun, cons_runCons, utf8_cons,
        List.length_append, String.length_utf8EncodeChar, Nat.add_assoc]

end Slots

/-- What a scan finds from byte `i` on, beside the slots from there on. -/
inductive Scanned (template : String) (i : Nat) : Slots → Prop
  | finish (run : List Char) (hrun : Template.literalRun template i = utf8 run)
      (hlandmark : Template.landmark template (i + (utf8 run).length) = .finish) :
      Scanned template i ⟨[], run⟩
  | fault (slot : Slot) (slots : List Slot) (tail : List Char)
      (hrun : Template.literalRun template i = utf8 slot.before)
      (hoffset : slot.offset = i + (utf8 slot.before).length)
      (hmarker : slot.marker.bind Directive.ofMarker? = none) {f : Fault}
      (hfault : ∀ index, slot.fault index = f)
      (hlandmark : Template.landmark template (i + (utf8 slot.before).length) = .fault f) :
      Scanned template i ⟨slot :: slots, tail⟩
  | marker (slot : Slot) (d : Directive) (cs : List Char) {m : Char}
      (hrun : Template.literalRun template i = utf8 slot.before)
      (hoffset : slot.offset = i + (utf8 slot.before).length) (hmarker : slot.marker = some m)
      (hdirective : Directive.ofMarker? m = some d)
      (hlandmark : Template.landmark template (i + (utf8 slot.before).length)
        = .marker d (slot.offset + 1 + m.utf8Size))
      (hnext : StandsAt template (slot.offset + 1 + m.utf8Size) cs) :
      Scanned template i ⟨slot :: (Slots.cut (slot.offset + 1 + m.utf8Size) cs).slots,
        (Slots.cut (slot.offset + 1 + m.utf8Size) cs).tail⟩

/-- **Scanning bytes finds the next slot of the characters.** -/
theorem StandsAt.scanned {template : String} {i : Nat} {cs : List Char}
    (h : StandsAt template i cs) : Scanned template i (Slots.cut i cs) := by
  have hrun := h.literalRun
  obtain ⟨run, hrundef⟩ : ∃ run, run = cs.takeWhile (· != '%') := ⟨_, rfl⟩
  have hpure : '%' ∉ run := fun hmem => by
    have := List.mem_takeWhile_imp (hrundef ▸ hmem)
    simp at this
  have hcs : cs = run ++ cs.dropWhile (· != '%') := by rw [hrundef, List.takeWhile_append_dropWhile]
  have hbehind : StandsAt template (i + (utf8 run).length) (cs.dropWhile (· != '%')) :=
    (hcs ▸ h).advance run
  rw [← hrundef] at hrun
  have hcut : Slots.cut i cs
      = (Slots.cut (i + (utf8 run).length) (cs.dropWhile (· != '%'))).runCons run := by
    rw [← Slots.cut_append i _ hpure, ← hcs]
  rw [hcut]
  -- behind the run the characters end, or a percent sign stands there
  cases hrest : cs.dropWhile (· != '%') with
  | nil =>
    rw [hrest] at hbehind
    have := Scanned.finish run hrun hbehind.landmark_nil
    simpa [Slots.cut, Slots.runCons] using this
  | cons c rest =>
    obtain rfl : c = '%' := by
      have := List.head_dropWhile_not (· != '%') (l := cs) (by simp [hrest])
      simpa [hrest] using this
    rw [hrest] at hbehind
    cases rest with
    | nil =>
      rw [Slots.cut, Slots.runCons, List.append_nil]
      exact .fault ⟨run, _, none⟩ [] [] hrun rfl rfl (fun _ => rfl) hbehind.landmark_dangling
    | cons m rest =>
      have hlandmark := hbehind.landmark_marker
      rw [Slots.cut, Slots.runCons, List.append_nil]
      cases hdirective : Directive.ofMarker? m with
      | none =>
        rw [hdirective] at hlandmark
        exact .fault ⟨run, _, some m⟩ _ _ hrun rfl hdirective
          (fun _ => by simp only [Slot.fault, hdirective]) hlandmark
      | some d =>
        rw [hdirective] at hlandmark
        have hnext := (hbehind.advance ['%']).advance [m]
        rw [utf8_cons m, utf8_nil, List.append_nil, String.length_utf8EncodeChar] at hnext
        exact .marker ⟨run, _, some m⟩ d rest hrun rfl rfl hdirective hlandmark hnext

end SqlRender
