import SqlRender.Files.Change
import SqlRender.Proofs.Record

/-!
# Proofs/Places — where paths lead, and what a change leaves as it was

A path can only lead to one place, `Path.place`, which is read off its text: the files decide
whether the path leads there, not where it leads (`Files.locate_place`). A name that leads down adds
itself to the place of its directory (`Path.place_child`).

`Spares touched files files'` says what a change leaves as it was: every directory, and every file
but those at the places `touched`. Each change spares all but the places it names
(`Change.apply_spares`). In particular a path that led somewhere still leads there
(`Spares.locate`).
-/

namespace SqlRender

open Files

/-! ## The parts of a path -/

namespace Path

/-- A name that leads one step down. -/
structure Plain (name : String) : Prop where
  noSlash : '/' ∉ name.toList
  leads : Path.leads name.toList = true
  notUp : name ≠ ".."

/-- Even the empty text is a piece. -/
theorem pieces_ne_nil : ∀ cs : List Char, pieces cs ≠ []
  | [] => by simp [pieces]
  | c :: cs => by
      rw [pieces]
      split
      · simp
      · split <;> simp

/-- A slash parts what is before it from what is behind it. -/
theorem pieces_append_slash (ys : List Char) : ∀ xs : List Char,
    pieces (xs ++ '/' :: ys) = pieces xs ++ pieces ys
  | [] => by simp [pieces]
  | c :: xs => by
      rw [List.cons_append, pieces, pieces, pieces_append_slash ys xs]
      split
      · rw [List.cons_append]
      · cases hxs : pieces xs with
        | nil => exact absurd hxs (pieces_ne_nil xs)
        | cons p ps => rfl

theorem pieces_of_noSlash : ∀ {cs : List Char}, '/' ∉ cs → pieces cs = [cs]
  | [], _ => rfl
  | c :: cs, h => by
      obtain ⟨hc, hcs⟩ := not_or.mp fun h' => h (List.mem_cons.mpr h')
      rw [pieces, if_neg (Ne.symm hc), pieces_of_noSlash hcs]

/-- The pieces of a child are those of its directory and its name, up to pieces that lead
nowhere. -/
theorem pieces_child {name : String} (hname : Plain name) (p : Path) :
    ∃ front, pieces (p.child name).text.toList = front ++ [name.toList] ∧
      front.filter Path.leads = (pieces p.text.toList).filter Path.leads := by
  have hpieces := pieces_of_noSlash hname.noSlash
  rw [child]
  split
  case isFalse _ =>
    refine ⟨pieces p.text.toList, ?_, rfl⟩
    have htext : (p.text ++ "/" ++ name).toList = p.text.toList ++ '/' :: name.toList := by
      simp [String.toList_append]
    rw [htext, pieces_append_slash, hpieces]
  case isTrue h =>
    rw [String.toList_append]
    rcases Bool.or_eq_true_iff.mp h with hempty | hslash
    · have hnil : p.text.toList = [] := by simpa using hempty
      exact ⟨[], by rw [hnil, List.nil_append, List.nil_append, hpieces], by rw [hnil]; rfl⟩
    · -- The slash at the end is followed by an empty piece, which leads nowhere.
      obtain ⟨xs, hxs⟩ := List.getLast?_eq_some_iff.mp (eq_of_beq hslash)
      refine ⟨pieces xs, ?_, ?_⟩
      · rw [hxs, List.append_assoc, List.singleton_append, pieces_append_slash, hpieces]
      · rw [hxs, pieces_append_slash, List.filter_append]
        exact (List.append_nil _).symm

theorem parts_child {name : String} (hname : Plain name) (p : Path) :
    (p.child name).parts = p.parts ++ [name] := by
  obtain ⟨front, hpieces, hfront⟩ := pieces_child hname p
  rw [parts, parts, hpieces, List.filter_append, hfront, List.filter_singleton, hname.leads,
    cond_true, List.map_append, List.map_singleton, String.ofList_toList]

theorem namesDirectory_child {name : String} (hname : Plain name) (p : Path) :
    (p.child name).namesDirectory = false := by
  obtain ⟨front, hpieces, -⟩ := pieces_child hname p
  rw [namesDirectory, hpieces, List.getLast?_concat]
  exact congrArg (!·) hname.leads

/-- A child is absolute if its parent is. -/
theorem isAbsolute_child {name : String} (hname : Plain name) (p : Path) :
    (p.child name).isAbsolute = p.isAbsolute := by
  rcases htext : p.text.toList with - | ⟨c, cs⟩
  · have hempty : p.text.isEmpty = true := by simpa using htext
    have hhead : name.toList.head? ≠ some '/' :=
      fun h => hname.noSlash (List.mem_of_mem_head? h)
    rw [child, hempty, Bool.true_or, if_pos rfl, isAbsolute, isAbsolute, String.toList_append,
      htext]
    simpa using hhead
  · rw [child, isAbsolute, isAbsolute]
    split <;> simp [String.toList_append, htext]

end Path

/-! ## Places -/

/-- The place that a part leads to from the place of a directory. -/
def Place.step (here : Place) (part : String) : Place :=
  if part = ".." then
    if isAbove here then here ++ [".."]
    else if here = [rootPart] then here
    else here.dropLast
  else here ++ [part]

/-- The one place that a path can lead to. -/
def Path.place (p : Path) : Place := p.parts.foldl Place.step (startOf p)

/-- A child stands one step below its parent. -/
theorem Path.place_child {name : String} (hname : Plain name) (p : Path) :
    (p.child name).place = p.place ++ [name] := by
  have hstart : startOf (p.child name) = startOf p := by
    rw [startOf, startOf, isAbsolute_child hname]
  rw [place, place, hstart, parts_child hname, List.foldl_append, List.foldl_cons, List.foldl_nil,
    Place.step, if_neg hname.notUp]

namespace Files

variable {files files' : Files} {p : Path} {place q here next : Place} {part : String}

/-- Whether a place is one where there is always a directory. -/
def isFixed (place : Place) : Bool := isAbove place || place == [rootPart]

/-- No child with a plain name is the root or the working directory. -/
theorem isFixed_child {name : String} (hname : Path.Plain name) (p : Path) :
    isFixed (p.child name).place = false := by
  have hroot : p.place ++ [name] ≠ [rootPart] := by
    intro h
    have hslash : name = "/" := (List.append_eq_singleton_iff.mp h).elim
      (fun h => (List.singleton_inj.mp h.2)) (fun h => absurd h.2 (List.cons_ne_nil _ _))
    exact hname.noSlash (by simp [hslash])
  rw [Path.place_child hname, isFixed, isAbove]
  simp [hname.notUp, hroot]

/-- Whether a directory stands at a place. -/
def IsDir (files : Files) (place : Place) : Prop := ∃ mode, files.find? place = some (.dir mode)

/-- The file at a place, its bytes and its permissions. -/
def fileAt (files : Files) (place : Place) : Option (ByteArray × Nat) :=
  match files.find? place with
  | some (.file bytes mode) => some (bytes, mode)
  | _ => none

/-- The root and the working directory are always there. -/
theorem find?_of_isFixed (h : isFixed q = true) : files.find? q = some (.dir newDirMode) :=
  if_pos h

theorem isFixed_of_not_isDir (h : ¬ files.IsDir q) : isFixed q = false :=
  Bool.eq_false_iff.mpr fun hq => h ⟨_, find?_of_isFixed hq⟩

/-- Where a file is there is no directory. -/
theorem not_isDir_of_find? {bytes : ByteArray} {mode : Nat}
    (h : files.find? q = some (.file bytes mode)) : ¬ files.IsDir q :=
  fun ⟨_, hdir⟩ => by cases h.symm.trans hdir

theorem not_isDir_of_find?_none (h : files.find? q = none) : ¬ files.IsDir q :=
  fun ⟨_, hdir⟩ => by cases h.symm.trans hdir

/-! ## Where a path leads -/

/-- **A part leads on exactly from directories**, and always to the same place. -/
theorem enter_eq_ok : files.enter here part = .ok next ↔
    files.IsDir here ∧ (part ≠ ".." → part.utf8ByteSize ≤ maxName) ∧ next = here.step part := by
  rw [enter, Place.step]
  rcases hfind : files.find? here with - | ⟨bytes, mode⟩ | ⟨mode⟩
  · exact ⟨fun h => absurd h error_ne_ok, fun h => absurd h.1 (not_isDir_of_find?_none hfind)⟩
  · exact ⟨fun h => absurd h error_ne_ok, fun h => absurd h.1 (not_isDir_of_find? hfind)⟩
  · have hdir : files.IsDir here := ⟨mode, hfind⟩
    by_cases hup : part = ".."
    · simp only [hdir, hup, ne_eq, not_true_eq_false, false_imp_iff, true_and, if_true]
      rw [← apply_ite Except.ok, ← apply_ite Except.ok, Except.ok.injEq, eq_comm]
    · simp only [hdir, hup, ne_eq, not_false_eq_true, true_imp_iff, true_and, if_false]
      split
      case isTrue hlong =>
        exact ⟨fun h => absurd h error_ne_ok, fun h => absurd h.1 (Nat.not_le.mpr hlong)⟩
      case isFalse hlong =>
        rw [Except.ok.injEq, and_iff_right (Nat.not_lt.mp hlong), eq_comm]

/-- A way that can be walked leads to the place that its parts name. -/
theorem foldlM_enter_eq_ok : ∀ {parts : List String} {here : Place},
    parts.foldlM files.enter here = .ok place → place = parts.foldl Place.step here
  | [], _, h => (Except.ok.inj h).symm
  | part :: parts, here, h => by
      rw [List.foldlM_cons] at h
      obtain ⟨next, hnext, h⟩ := bind_eq_ok.mp h
      obtain ⟨-, -, rfl⟩ := enter_eq_ok.mp hnext
      rw [List.foldl_cons]
      exact foldlM_enter_eq_ok h

/-- A place that was found can be walked to. -/
theorem locate_eq_ok (h : files.locate p = .ok place) :
    requireUsable p = .ok () ∧ p.parts.foldlM files.enter (startOf p) = .ok place := by
  rw [locate] at h
  obtain ⟨⟨⟩, husable, h⟩ := bind_eq_ok.mp h
  obtain ⟨place', hplace, h⟩ := bind_eq_ok.mp h
  have hsame : place' = place := by
    split at h
    · split at h
      · exact absurd h error_ne_ok
      · exact Except.ok.inj h
    · exact Except.ok.inj h
  exact ⟨husable, hsame ▸ hplace⟩

/-- A place that can be walked to is found, unless it would have to be a directory. -/
theorem locate_of_foldlM (hp : p.namesDirectory = false) (husable : requireUsable p = .ok ())
    (hplace : p.parts.foldlM files.enter (startOf p) = .ok place) :
    files.locate p = .ok place := by
  rw [locate]
  refine bind_eq_ok.mpr ⟨(), husable, bind_eq_ok.mpr ⟨place, hplace, ?_⟩⟩
  rw [hp]
  split <;> rfl

/-- **A path leads to its place or nowhere.** -/
theorem locate_place (h : files.locate p = .ok place) : place = p.place :=
  foldlM_enter_eq_ok (locate_eq_ok h).2

/-! ## What stands where after an entry was put or dropped -/

theorem lookup_filter_ne (h : q ≠ place) : ∀ entries : List (Place × Entry),
    (entries.filter (·.1 != place)).lookup q = entries.lookup q
  | [] => rfl
  | (r, e) :: entries => by
      have ih := lookup_filter_ne h entries
      by_cases hr : r = place
      · have hqr : (q == r) = false := beq_false_of_ne (hr ▸ h)
        rw [List.filter_cons_of_neg (by simp [hr]), List.lookup_cons, hqr, ih]
      · rw [List.filter_cons_of_pos (by simp [hr]), List.lookup_cons, List.lookup_cons, ih]

theorem lookup_filter_self : ∀ entries : List (Place × Entry),
    (entries.filter (·.1 != place)).lookup place = none
  | [] => rfl
  | (r, e) :: entries => by
      have ih := lookup_filter_self entries
      by_cases hr : r = place
      · rw [List.filter_cons_of_neg (by simp [hr]), ih]
      · have hplace : (place == r) = false := beq_false_of_ne (Ne.symm hr)
        rw [List.filter_cons_of_pos (by simp [hr]), List.lookup_cons, hplace, ih]

theorem find?_drop_ne (h : q ≠ place) : (files.drop place).find? q = files.find? q := by
  rw [find?, find?, drop, lookup_filter_ne h]

theorem find?_drop_self (h : isFixed place = false) : (files.drop place).find? place = none := by
  rw [find?, ← isFixed, h, drop, lookup_filter_self]
  rfl

/-- Putting something somewhere leaves the other places. -/
theorem find?_put_ne {e : Entry} (h : q ≠ place) :
    (files.put place e).find? q = files.find? q := by
  have hq : (q == place) = false := beq_false_of_ne h
  rw [find?, find?, put, List.lookup_cons, hq, lookup_filter_ne h]

theorem find?_put_self {e : Entry} (h : isFixed place = false) :
    (files.put place e).find? place = some e := by
  rw [find?, ← isFixed, h, put, List.lookup_cons, beq_self_eq_true]
  rfl

theorem fileAt_congr (h : files'.find? q = files.find? q) : files'.fileAt q = files.fileAt q := by
  rw [fileAt, fileAt, h]

theorem fileAt_of_find? {bytes : ByteArray} {mode : Nat}
    (h : files.find? q = some (.file bytes mode)) : files.fileAt q = some (bytes, mode) := by
  rw [fileAt, h]

theorem find?_of_fileAt {bytes : ByteArray} {mode : Nat}
    (h : files.fileAt q = some (bytes, mode)) : files.find? q = some (.file bytes mode) := by
  rw [fileAt] at h
  split at h
  · cases h; assumption
  · cases h

/-- A directory has no bytes to read. -/
theorem fileAt_of_isDir (h : files.IsDir q) : files.fileAt q = none := by
  obtain ⟨mode, h⟩ := h
  rw [fileAt, h]

theorem IsDir.congr (hdir : files.IsDir q) (h : files'.find? q = files.find? q) :
    files'.IsDir q := by
  obtain ⟨mode, hmode⟩ := hdir
  exact ⟨mode, h.trans hmode⟩

end Files

/-! ## What a change leaves as it was -/

/-- Every directory of `files` is still there, and at every place but those `touched` the same
file, or still none. -/
structure Spares (touched : List Place) (files files' : Files) : Prop where
  dirs : ∀ ⦃q⦄, files.IsDir q → files'.IsDir q
  fileAt : ∀ ⦃q⦄, q ∉ touched → files'.fileAt q = files.fileAt q

namespace Spares

variable {touched more : List Place} {files files' files'' : Files} {p : Path} {place : Place}

theorem refl (touched : List Place) (files : Files) : Spares touched files files :=
  ⟨fun _ h => h, fun _ _ => rfl⟩

theorem trans (h : Spares touched files files') (h' : Spares touched files' files'') :
    Spares touched files files'' :=
  ⟨fun _ hq => h'.dirs (h.dirs hq), fun _ hq => (h'.fileAt hq).trans (h.fileAt hq)⟩

/-- Fewer places are spared by more changes. -/
theorem mono (h : Spares touched files files') (hsub : touched ⊆ more) :
    Spares more files files' :=
  ⟨h.dirs, fun _ hq => h.fileAt fun hmem => hq (hsub hmem)⟩

/-- **A path that led somewhere still leads there**: only directories lead on. -/
theorem locate (h : Spares touched files files') (hp : p.namesDirectory = false)
    (hplace : files.locate p = .ok place) : files'.locate p = .ok place := by
  have hfold : ∀ {parts : List String} {here : Place}, parts.foldlM files.enter here = .ok place →
      parts.foldlM files'.enter here = .ok place := by
    intro parts
    induction parts with
    | nil => exact id
    | cons part parts ih =>
      intro here hparts
      rw [List.foldlM_cons] at hparts ⊢
      obtain ⟨next, hnext, hparts⟩ := bind_eq_ok.mp hparts
      obtain ⟨hdir, henter⟩ := enter_eq_ok.mp hnext
      exact bind_eq_ok.mpr ⟨next, enter_eq_ok.mpr ⟨h.dirs hdir, henter⟩, ih hparts⟩
  obtain ⟨husable, hplace⟩ := locate_eq_ok hplace
  exact locate_of_foldlM hp husable (hfold hplace)

/-- Writing a file spares every other place. -/
theorem put_file (h : ¬ files.IsDir place) (bytes : ByteArray) (mode : Nat) :
    Spares [place] files (files.put place (.file bytes mode)) where
  dirs := fun _ hq => hq.congr (find?_put_ne fun heq => h (heq ▸ hq))
  fileAt := fun _ hq => fileAt_congr (find?_put_ne (List.ne_of_not_mem_cons hq))

/-- Making a directory where no file is spares every file. -/
theorem put_dir (h : files.fileAt place = none) (mode : Nat) :
    Spares [] files (files.put place (.dir mode)) := by
  have hplace : (files.put place (.dir mode)).IsDir place := by
    cases hfixed : isFixed place with
    | true => exact ⟨_, find?_of_isFixed hfixed⟩
    | false => exact ⟨_, find?_put_self hfixed⟩
  constructor
  · intro q hq
    by_cases hqp : q = place
    · exact hqp ▸ hplace
    · exact hq.congr (find?_put_ne hqp)
  · intro q _
    by_cases hqp : q = place
    · rw [hqp, fileAt_of_isDir hplace, h]
    · exact fileAt_congr (find?_put_ne hqp)

theorem drop (h : ¬ files.IsDir place) : Spares [place] files (files.drop place) where
  dirs := fun _ hq => hq.congr (find?_drop_ne fun heq => h (heq ▸ hq))
  fileAt := fun _ hq => fileAt_congr (find?_drop_ne (List.ne_of_not_mem_cons hq))

end Spares

namespace Files

variable {files files' : Files} {p source target : Path} {bytes : ByteArray} {mode : Nat}

/-- Setting permissions keeps the bytes of a file. -/
theorem setMode_eq_ok (h : files.setMode p mode = .ok files') :
    (∃ bytes old, files.find? p.place = some (.file bytes old) ∧
      files' = files.put p.place (.file bytes mode)) ∨
    files.IsDir p.place ∧ files' = files.put p.place (.dir mode) := by
  rw [setMode] at h
  obtain ⟨place, hplace, h⟩ := bind_eq_ok.mp h
  obtain rfl := locate_place hplace
  split at h
  case h_1 bytes old hfind => exact .inl ⟨bytes, old, hfind, (Except.ok.inj h).symm⟩
  case h_2 old hfind => exact .inr ⟨⟨old, hfind⟩, (Except.ok.inj h).symm⟩
  case h_3 => exact absurd h error_ne_ok

/-- Writing puts all bytes at once where no directory is. -/
theorem write_eq_ok (h : files.write p bytes = .ok files') :
    ¬ files.IsDir p.place ∧ ∃ mode, files' = files.put p.place (.file bytes mode) := by
  rw [write] at h
  obtain ⟨place, hplace, h⟩ := bind_eq_ok.mp h
  obtain rfl := locate_place hplace
  split at h
  case h_1 old mode hfind => exact ⟨not_isDir_of_find? hfind, mode, (Except.ok.inj h).symm⟩
  case h_2 => exact absurd h error_ne_ok
  case h_3 hfind =>
    split at h
    · exact absurd h error_ne_ok
    · exact ⟨not_isDir_of_find?_none hfind, newFileMode, (Except.ok.inj h).symm⟩

/-- Moving puts the source where the target was, bytes and permissions alike. -/
theorem move_eq_ok (h : files.move source target = .ok files') :
    files.locate source = .ok source.place ∧ files.locate target = .ok target.place ∧
      ¬ files.IsDir target.place ∧ ∃ bytes mode,
        files.find? source.place = some (.file bytes mode) ∧
        files' = (files.drop source.place).put target.place (.file bytes mode) := by
  rw [move] at h
  obtain ⟨origin, horigin, h⟩ := bind_eq_ok.mp h
  obtain ⟨goal, hgoal, h⟩ := bind_eq_ok.mp h
  obtain rfl := locate_place horigin
  obtain rfl := locate_place hgoal
  refine ⟨horigin, hgoal, ?_⟩
  split at h
  case h_1 => exact absurd h error_ne_ok
  case h_2 => exact absurd h error_ne_ok
  case h_3 => exact absurd h error_ne_ok
  case h_4 e hfile hfind hgoal =>
    refine ⟨fun ⟨mode, hdir⟩ => hgoal mode hdir, ?_⟩
    cases e with
    | file bytes mode => exact ⟨bytes, mode, hfind, (Except.ok.inj h).symm⟩
    | dir mode => exact absurd rfl (hfile mode)

/-- Making directories puts them only where nothing stands. -/
theorem makeAlong_spares : ∀ {parts : List String} {files : Files} {here : Place},
    files.makeAlong here parts = .ok files' → Spares [] files files'
  | [], files, _, h => by
      obtain rfl := Except.ok.inj h
      exact .refl [] files
  | part :: parts, files, here, h => by
      rw [makeAlong] at h
      obtain ⟨next, -, h⟩ := bind_eq_ok.mp h
      split at h
      · exact makeAlong_spares h
      · exact absurd h error_ne_ok
      case h_3 hfind =>
        have hnone : files.fileAt next = none := by rw [fileAt, hfind]
        exact (Spares.put_dir hnone newDirMode).trans (makeAlong_spares h)

end Files

namespace Change

/-- The places of the files that a change may touch. -/
def touched : Change → List Place
  | .makeDirs _ => []
  | .setMode p _ | .write p _ => [p.place]
  | .move source target => [source.place, target.place]

/-- **A change spares all but the files it names.** -/
theorem apply_spares {files files' : Files} {c : Change} (h : c.apply files = .ok files') :
    Spares c.touched files files' := by
  cases c with
  | makeDirs dir =>
    rw [apply, Files.makeDirs] at h
    obtain ⟨-, -, h⟩ := bind_eq_ok.mp h
    exact makeAlong_spares h
  | setMode p mode =>
    obtain ⟨bytes, old, hfind, rfl⟩ | ⟨hdir, rfl⟩ := setMode_eq_ok h
    · exact .put_file (not_isDir_of_find? hfind) bytes mode
    · exact (Spares.put_dir (fileAt_of_isDir hdir) mode).mono (List.nil_subset _)
  | write p bytes =>
    obtain ⟨hdir, mode, rfl⟩ := write_eq_ok h
    exact .put_file hdir bytes mode
  | move source target =>
    obtain ⟨-, -, htarget, bytes, mode, hfind, rfl⟩ := move_eq_ok h
    have hdrop : Spares [source.place] files (files.drop source.place) :=
      .drop (not_isDir_of_find? hfind)
    have htarget' : ¬ (files.drop source.place).IsDir target.place := by
      by_cases hsame : target.place = source.place
      · rw [hsame]
        exact not_isDir_of_find?_none
          (find?_drop_self (isFixed_of_not_isDir (not_isDir_of_find? hfind)))
      · exact fun hdir => htarget (hdir.congr (find?_drop_ne hsame).symm)
    exact (hdrop.mono (by simp [touched])).trans
      ((Spares.put_file htarget' bytes mode).mono (List.subset_cons_self _ _))

end Change

end SqlRender
