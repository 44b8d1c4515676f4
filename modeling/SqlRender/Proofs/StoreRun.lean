import SqlRender.Proofs.Frame
import SqlRender.Proofs.Places
import SqlRender.Settings.Store

/-!
# Proofs/StoreRun — the settings file over whole runs, whatever goes wrong

Any change may go wrong: a `Mishap` refuses it, or breaks it off when some directories are made or
some bytes are written. `Change.attemptAll` carries out a plan among mishaps and stops at the first
change that fails; without mishaps it is `Change.applyAll`.

A plan of changes that ends in a move onto a file touches that file exactly if it succeeds
(`Change.attemptAll_error`, `Change.attemptAll_ok`). So after every run of calls, each among mishaps
of its own, the settings file is the one at the start, or it holds the whole text of the settings
that were last reported as written (`Settings.store_keeps_last_written`). Calls without mishaps are
answered by `load`, `save` and `init` themselves (`Settings.Call.answer_calm`).
-/

namespace SqlRender

open Files

/-! ## Changes among mishaps -/

/-- What goes wrong with a change: it is refused, or it is broken off with a part of it done. -/
inductive Mishap where
  | refused (e : FileError)
  | brokenOff (done : Nat) (e : FileError)

/-- The error that a mishap reports. -/
def Mishap.error : Mishap → FileError
  | .refused e | .brokenOff _ e => e

namespace Change

variable {files : Files} {c : Change} {cs : List Change} {source target : Path}
  {mishap : Nat → Option Mishap} {touched : List Place} {e : FileError}

/-- What is left of a change that is broken off after `done` directories or bytes. Permissions and
names change at once or not at all. -/
def brokenOff (files : Files) (done : Nat) : Change → Files
  | .makeDirs dir => (do
      requireUsable dir
      files.makeAlong (startOf dir) (dir.parts.take done)).toOption.getD files
  | .write path bytes => (files.write path (bytes.extract 0 done)).toOption.getD files
  | .setMode .. | .move .. => files

/-- Make one change, or meet a mishap. -/
def attempt (files : Files) (c : Change) : Option Mishap → Files × Except FileError Unit
  | none =>
    match c.apply files with
    | .ok files' => (files', .ok ())
    | .error e => (files, .error e)
  | some (.refused e) => (files, .error e)
  | some (.brokenOff done e) => (c.brokenOff files done, .error e)

/-- How carrying out a plan went: the changes that were made, the files after it, and the result. -/
structure Attempt where
  made : List Change
  files : Files
  result : Except FileError Unit

/-- Make changes in order, up to the first that fails, where `mishap k` strikes the change with the
index `k`. -/
def attemptAll (mishap : Nat → Option Mishap) : List Change → Files → Attempt
  | [], files => ⟨[], files, .ok ()⟩
  | c :: rest, files =>
    match c.attempt files (mishap 0) with
    | (files', .error e) => ⟨[], files', .error e⟩
    | (files', .ok ()) =>
      let later := attemptAll (fun k => mishap (k + 1)) rest files'
      ⟨c :: later.made, later.files, later.result⟩

/-- Without mishaps a plan is carried out as it is. -/
theorem attemptAll_calm : ∀ (cs : List Change) (files : Files),
    ((attemptAll (fun _ => none) cs files).files, (attemptAll (fun _ => none) cs files).result)
      = applyAll cs files
  | [], _ => rfl
  | c :: cs, files => by
      rw [attemptAll, applyAll, attempt]
      cases c.apply files with
      | error e => rfl
      | ok files' => exact attemptAll_calm cs files'

/-- A change that is broken off touches no more than the whole change. -/
theorem brokenOff_spares (files : Files) (done : Nat) (c : Change) :
    Spares c.touched files (c.brokenOff files done) := by
  cases c with
  | makeDirs dir =>
    rw [brokenOff]
    generalize hmade : (do requireUsable dir; files.makeAlong (startOf dir) (dir.parts.take done) :
      Except FileError Files) = made
    cases made with
    | error e => exact .refl _ _
    | ok files' =>
      obtain ⟨-, -, hmade⟩ := bind_eq_ok.mp hmade
      exact makeAlong_spares hmade
  | write path bytes =>
    rw [brokenOff]
    cases hwrite : files.write path (bytes.extract 0 done) with
    | error e => exact .refl _ _
    | ok files' => exact apply_spares (c := .write path (bytes.extract 0 done)) hwrite
  | setMode path mode => exact .refl _ _
  | move source target => exact .refl _ _

/-- Nor does any attempt at it. -/
theorem attempt_spares (files : Files) (c : Change) (mishap : Option Mishap) :
    Spares c.touched files (c.attempt files mishap).1 := by
  rcases mishap with - | e | ⟨done, e⟩
  · rw [attempt]
    cases happly : c.apply files with
    | error e => exact .refl _ _
    | ok files' => exact apply_spares happly
  · exact .refl _ _
  · exact brokenOff_spares files done c

/-- An attempt that succeeds is the change itself. -/
theorem attempt_ok {files' : Files} {mishap : Option Mishap}
    (h : c.attempt files mishap = (files', .ok ())) : c.apply files = .ok files' := by
  rcases mishap with - | e | ⟨done, e⟩
  · rw [attempt] at h
    cases happly : c.apply files with
    | error e => rw [happly] at h; cases h
    | ok files'' => rw [happly] at h; cases h; rfl
  · cases h
  · cases h

/-- A move that fails leaves all files as they were. -/
theorem attempt_move_error {files' : Files} {mishap : Option Mishap}
    (h : attempt files (.move source target) mishap = (files', .error e)) : files' = files := by
  rcases mishap with - | e' | ⟨done, e'⟩
  · rw [attempt] at h
    cases happly : apply files (.move source target) with
    | error e' => rw [happly] at h; cases h; rfl
    | ok files'' => rw [happly] at h; cases h
  · cases h; rfl
  · cases h; rfl

/-- **A plan that fails before its last move or at it** touches no more than its other changes
do. -/
theorem attemptAll_error (hcs : ∀ c ∈ cs, c.touched ⊆ touched)
    (h : (attemptAll mishap (cs ++ [.move source target]) files).result = .error e) :
    Spares touched files (attemptAll mishap (cs ++ [.move source target]) files).files ∧
      ∀ c ∈ (attemptAll mishap (cs ++ [.move source target]) files).made, c ∈ cs := by
  induction cs generalizing files mishap with
  | nil =>
    rw [List.nil_append, attemptAll] at h ⊢
    rcases hfirst : attempt files (.move source target) (mishap 0) with ⟨files', e' | ⟨⟩⟩
    · obtain rfl := attempt_move_error hfirst
      exact ⟨.refl _ _, fun c hc => hc⟩
    · rw [hfirst] at h
      exact absurd h.symm error_ne_ok
  | cons c cs ih =>
    rw [List.cons_append, attemptAll] at h ⊢
    have hfirst := (attempt_spares files c (mishap 0)).mono (hcs c (List.mem_cons_self ..))
    rcases hattempt : c.attempt files (mishap 0) with ⟨files', e' | ⟨⟩⟩
    · rw [hattempt] at hfirst
      exact ⟨hfirst, nofun⟩
    · rw [hattempt] at h hfirst
      obtain ⟨hlater, hmade⟩ := ih (fun c hc => hcs c (List.mem_cons_of_mem _ hc)) h
      refine ⟨hfirst.trans hlater, fun c' hc' => ?_⟩
      rcases List.mem_cons.mp hc' with rfl | hc'
      · exact List.mem_cons_self ..
      · exact List.mem_cons_of_mem _ (hmade c' hc')

/-- A plan that succeeds was carried out as it is. -/
theorem attemptAll_ok (h : (attemptAll mishap cs files).result = .ok ()) :
    (attemptAll mishap cs files).made = cs ∧
      applyAll cs files = ((attemptAll mishap cs files).files, .ok ()) := by
  induction cs generalizing files mishap with
  | nil => exact ⟨rfl, rfl⟩
  | cons c cs ih =>
    rw [attemptAll] at h ⊢
    rcases hattempt : c.attempt files (mishap 0) with ⟨files', e' | ⟨⟩⟩
    · rw [hattempt] at h
      exact absurd h error_ne_ok
    · rw [hattempt] at h
      obtain ⟨hmade, hlater⟩ := ih h
      refine ⟨congrArg (c :: ·) hmade, ?_⟩
      rw [applyAll, attempt_ok hattempt]
      exact hlater

theorem applyAll_cons_ok {files' : Files} (h : applyAll (c :: cs) files = (files', .ok ())) :
    ∃ mid, c.apply files = .ok mid ∧ applyAll cs mid = (files', .ok ()) := by
  rw [applyAll] at h
  cases happly : c.apply files with
  | error e => rw [happly] at h; cases h
  | ok mid => rw [happly] at h; exact ⟨mid, rfl, h⟩

/-- Changes that all succeed can be cut in two anywhere. -/
theorem applyAll_append_ok {ds : List Change} {files' : Files}
    (h : applyAll (cs ++ ds) files = (files', .ok ())) :
    ∃ mid, applyAll cs files = (mid, .ok ()) ∧ applyAll ds mid = (files', .ok ()) := by
  induction cs generalizing files with
  | nil => exact ⟨files, rfl, h⟩
  | cons c cs ih =>
    obtain ⟨mid, hmid, h⟩ := applyAll_cons_ok h
    obtain ⟨last, hlast, h⟩ := ih h
    refine ⟨last, ?_, h⟩
    rw [applyAll, hmid]
    exact hlast

end Change

/-! ## Looking at a place -/

theorem Files.look_eq_ok {files : Files} {p : Path} {entry : Entry}
    (hplace : files.locate p = .ok p.place) (hfind : files.find? p.place = some entry) :
    files.look p = .ok entry := by
  rw [look]
  exact bind_eq_ok.mpr ⟨p.place, hplace, by rw [hfind]; rfl⟩

theorem Files.has_eq_false {files : Files} {p : Path} (hplace : files.locate p = .ok p.place)
    (hfind : files.find? p.place = none) : files.has p = false := by
  have hlook : files.look p = .error .notFound := by
    rw [look, show files.locate p = pure p.place from hplace, pure_bind, hfind]
    rfl
  rw [has, hlook]
  rfl

theorem Files.readText_eq_ok {files : Files} {p : Path} {text : String} {mode : Nat}
    (h : files.look p = .ok (.file text.toUTF8 mode)) : files.readText p = .ok text := by
  have hread : files.read p = .ok text.toUTF8 := by
    rw [Files.read]
    exact bind_eq_ok.mpr ⟨_, h, rfl⟩
  rw [readText]
  exact bind_eq_ok.mpr ⟨_, hread, by rw [Utf8.decode_eq_ok_iff.mpr rfl]; rfl⟩

namespace Settings

variable {files files' : Files} {home : Path} {s : Settings}

/-! ## The settings file -/

theorem plain_file : Path.Plain "config.yaml" :=
  ⟨by decide, by decide, by decide⟩

theorem plain_draft : Path.Plain "config.yaml.tmp" :=
  ⟨by decide, by decide, by decide⟩

/-- The places where saving works before it moves the draft: the directory and the draft. -/
def aside (home : Path) : List Place := [(directory home).place, (draftPath home).place]

theorem place_eq (home : Path) : (path home).place = (directory home).place ++ ["config.yaml"] :=
  Path.place_child plain_file _

theorem draftPlace_eq (home : Path) :
    (draftPath home).place = (directory home).place ++ ["config.yaml.tmp"] :=
  Path.place_child plain_draft _

/-- The settings and their draft stand at different places. -/
theorem place_ne_draftPlace (home : Path) : (path home).place ≠ (draftPath home).place := by
  rw [place_eq, draftPlace_eq]
  intro h
  exact absurd (List.append_cancel_left h) (by decide)

/-- Nothing that is done before the last step touches the settings. -/
theorem place_not_mem_aside (home : Path) : (path home).place ∉ aside home := by
  simp [aside, place_eq, draftPlace_eq]

/-- The settings file of a home directory, its bytes and its permissions. A directory in its place
holds no settings. -/
def stored (files : Files) (home : Path) : Option (ByteArray × Nat) :=
  files.fileAt (path home).place

/-- The path of the settings leads to a file with the whole text of `s`. -/
structure Holds (files : Files) (home : Path) (s : Settings) : Prop where
  reached : files.locate (path home) = .ok (path home).place
  text : stored files home = some (s.yaml.toUTF8, fileMode)

/-- So the settings stay as they are until then. -/
theorem stored_of_spares (h : Spares (aside home) files files') :
    stored files' home = stored files home :=
  h.fileAt (place_not_mem_aside home)

/-- Settings that are held stay held until the last step. -/
theorem Holds.of_spares (hs : Holds files home s) (h : Spares (aside home) files files') :
    Holds files' home s :=
  ⟨h.locate (Path.namesDirectory_child plain_file _) hs.reached,
    (stored_of_spares h).trans hs.text⟩

/-- Settings are never written as an empty file, which would be read as the default ones. -/
theorem isBlankText_yaml (s : Settings) : isBlankText s.yaml = false := by
  have hv : 'v' ∈ s.yaml.toList := by
    simp [yaml, Yaml.recordText, Yaml.fieldLine]
  exact List.all_eq_false.mpr ⟨'v', hv, by decide⟩

/-- What is loaded depends on the text of the file alone. -/
theorem load_of_look {text : String} {mode : Nat}
    (h : files.look (path home) = .ok (.file text.toUTF8 mode)) :
    load files home = (ofText text).mapError (.unreadable (path home)) := by
  have hhas : files.has (path home) = true := by rw [has, h]; rfl
  rw [load, hhas, readText_eq_ok h]
  rfl

/-- **Stored settings are loaded**, if YAML reads back what it wrote. -/
theorem Holds.load (hs : Holds files home s) (hyaml : ofYaml s.yaml = .ok s) :
    load files home = .ok s := by
  have htext : ofText s.yaml = .ok s := by
    rw [ofText, isBlankText_yaml]
    exact hyaml
  rw [load_of_look (look_eq_ok hs.reached (find?_of_fileAt hs.text)), htext]
  rfl

/-! ## Saving among mishaps -/

/-- The change by which a plan takes effect. -/
def publication (home : Path) : Change := .move (draftPath home) (path home)

/-- **A plan ends in its publication**, and works aside before it. -/
theorem plan_eq (files : Files) (home : Path) (s : Settings) :
    ∃ front, plan files home s = front ++ [publication home] ∧ publication home ∉ front ∧
      ∀ c ∈ front, c.touched ⊆ aside home := by
  refine ⟨(if files.has (directory home) then []
    else [.makeDirs (directory home), .setMode (directory home) directoryMode]) ++
      [.write (draftPath home) s.yaml.toUTF8, .setMode (draftPath home) fileMode], ?_, ?_, ?_⟩
  · rw [plan, List.append_assoc]
    rfl
  · split <;> simp [publication]
  · split <;> simp [Change.touched, aside]

/-- **A draft that is written and published** is the settings file, byte for byte, and gone. -/
theorem publish_ok {bytes : ByteArray}
    (h : Change.applyAll [.write (draftPath home) bytes, .setMode (draftPath home) fileMode,
      publication home] files = (files', .ok ())) :
    files'.locate (path home) = .ok (path home).place ∧
      stored files' home = some (bytes, fileMode) ∧ files'.has (draftPath home) = false := by
  have hdraft : isFixed (draftPath home).place = false := isFixed_child plain_draft _
  obtain ⟨written, hwrite, h⟩ := Change.applyAll_cons_ok h
  obtain ⟨closed, hclose, h⟩ := Change.applyAll_cons_ok h
  obtain ⟨moved, hmove, h⟩ := Change.applyAll_cons_ok h
  obtain rfl : moved = files' := congrArg Prod.fst h
  have hwritten : ∃ mode, written.find? (draftPath home).place = some (.file bytes mode) := by
    obtain ⟨-, mode, rfl⟩ := write_eq_ok hwrite
    exact ⟨mode, find?_put_self hdraft⟩
  have hclosed : closed.find? (draftPath home).place = some (.file bytes fileMode) := by
    obtain ⟨mode, hwritten⟩ := hwritten
    obtain ⟨bytes', old, hfind, rfl⟩ | ⟨hdir, -⟩ := setMode_eq_ok hclose
    · cases hwritten.symm.trans hfind
      exact find?_put_self hdraft
    · exact absurd hdir (not_isDir_of_find? hwritten)
  obtain ⟨hsource, htarget, -, bytes', mode, hfind, hmoved⟩ := move_eq_ok hmove
  cases hclosed.symm.trans hfind
  have hspares := Change.apply_spares hmove
  refine ⟨hspares.locate (Path.namesDirectory_child plain_file _) htarget, ?_, ?_⟩
  · rw [hmoved]
    exact fileAt_of_find? (find?_put_self (isFixed_child plain_file _))
  · refine has_eq_false (hspares.locate (Path.namesDirectory_child plain_draft _) hsource) ?_
    rw [hmoved, find?_put_ne (place_ne_draftPlace home).symm]
    exact find?_drop_self hdraft

/-- **Saving fails and touches no more than it does aside, or publishes the settings.** -/
theorem attemptAll_plan (mishap : Nat → Option Mishap) (files : Files) (home : Path)
    (s : Settings) :
    let attempt := Change.attemptAll mishap (plan files home s) files
    (∃ e, attempt.result = .error e ∧ publication home ∉ attempt.made ∧
      Spares (aside home) files attempt.files) ∨
    attempt.result = .ok () ∧ publication home ∈ attempt.made ∧ Holds attempt.files home s ∧
      attempt.files.has (draftPath home) = false := by
  intro attempt
  obtain ⟨front, hplan, hfront, haside⟩ := plan_eq files home s
  cases hresult : attempt.result with
  | error e =>
    have hattempt : attempt = Change.attemptAll mishap
        (front ++ [.move (draftPath home) (path home)]) files := by
      rw [← publication, ← hplan]
    rw [hattempt] at hresult ⊢
    obtain ⟨hspares, hmade⟩ := Change.attemptAll_error haside hresult
    exact .inl ⟨e, rfl, fun hmem => hfront (hmade _ hmem), hspares⟩
  | ok u =>
    obtain ⟨hmade, happly⟩ := Change.attemptAll_ok hresult
    rw [plan] at happly
    obtain ⟨mid, -, happly⟩ := Change.applyAll_append_ok happly
    obtain ⟨hreached, htext, hdraft⟩ := publish_ok happly
    refine .inr ⟨rfl, ?_, ⟨hreached, htext⟩, hdraft⟩
    rw [hmade, hplan]
    exact List.mem_append_right _ (List.mem_singleton_self _)

/-! ## Calls and runs -/

/-- What is asked of the store. -/
inductive Request where
  | load
  | save (s : Settings)
  | init

/-- What the store replies. -/
inductive Reply where
  | loaded (result : Except StoreError Settings)
  | saved (result : Except StoreError Path)
  | initialized (result : Except StoreError (Settings × Bool))

/-- Whether the reply is an error. -/
def Reply.failed : Reply → Bool
  | .loaded result => !result.isOk
  | .saved result => !result.isOk
  | .initialized result => !result.isOk

/-- A request, and what goes wrong with the steps that answer it. -/
structure Call where
  request : Request
  mishap : Nat → Option Mishap := fun _ => none

/-- The reply to a call, with the changes made for it and the files after it. -/
structure Answer where
  files : Files
  made : List Change := []
  reply : Reply

/-- Load settings, or meet a mishap when the file is read. -/
def loadAmid (files : Files) (home : Path) : Option Mishap → Except StoreError Settings
  | none => load files home
  | some mishap => if files.has (path home) then .error (.file mishap.error) else .ok {}

/-- Answer a call among its mishaps. -/
def Call.answer (home : Path) (files : Files) (call : Call) : Answer :=
  match call.request with
  | .load => { files, reply := .loaded (loadAmid files home (call.mishap 0)) }
  | .save s =>
    let attempt := Change.attemptAll call.mishap (plan files home s) files
    ⟨attempt.files, attempt.made,
      .saved ((attempt.result.map fun _ => path home).mapError .file)⟩
  | .init =>
    if files.has (path home) then
      { files, reply := .initialized ((loadAmid files home (call.mishap 0)).map (·, false)) }
    else
      let attempt := Change.attemptAll call.mishap (plan files home {}) files
      ⟨attempt.files, attempt.made,
        .initialized ((attempt.result.map fun _ => ({}, true)).mapError .file)⟩

/-- Without mishaps calls are answered by `load`, `save` and `init`. -/
theorem Call.answer_calm (home : Path) (files : Files) (request : Request) :
    let answer := Call.answer home files { request }
    (answer.files, answer.reply) =
      match request with
      | .load => (files, .loaded (load files home))
      | .save s => ((save files home s).1, .saved (save files home s).2)
      | .init => ((init files home).1, .initialized (init files home).2) := by
  cases request with
  | load => rfl
  | save s =>
    simp only [save, ← Change.attemptAll_calm]
    rfl
  | init =>
    simp only [Call.answer, init, loadAmid]
    split
    · rfl
    · rw [save, ← Change.attemptAll_calm]
      cases (Change.attemptAll (fun _ => none) (plan files home {}) files).result <;> rfl

/-- The settings that a reply reports as written. -/
def written? : Request × Reply → Option Settings
  | (.save s, .saved (.ok _)) => some s
  | (.init, .initialized (.ok (s, true))) => some s
  | _ => none

/-- **A call reports that it has written, and has, or leaves the settings file alone.** -/
theorem Call.answer_cases (home : Path) (files : Files) (call : Call) :
    let answer := call.answer home files
    (written? (call.request, answer.reply) = none ∧ publication home ∉ answer.made ∧
      Spares (aside home) files answer.files) ∨
    ∃ s, written? (call.request, answer.reply) = some s ∧ answer.reply.failed = false ∧
      publication home ∈ answer.made ∧ Holds answer.files home s ∧
      answer.files.has (draftPath home) = false := by
  obtain ⟨request, mishap⟩ := call
  cases request with
  | load => exact .inl ⟨rfl, nofun, .refl _ _⟩
  | save s =>
    simp only [Call.answer]
    obtain ⟨e, hresult, hmade, hspares⟩ | ⟨hresult, hrest⟩ := attemptAll_plan mishap files home s
    · exact .inl ⟨by rw [hresult]; rfl, hmade, hspares⟩
    · exact .inr ⟨s, by rw [hresult]; rfl, by rw [hresult]; rfl, hrest⟩
  | init =>
    simp only [Call.answer]
    split
    · refine .inl ⟨?_, nofun, .refl _ _⟩
      cases loadAmid files home (mishap 0) <;> rfl
    · obtain ⟨e, hresult, hmade, hspares⟩ | ⟨hresult, hrest⟩ := attemptAll_plan mishap files home {}
      · exact .inl ⟨by rw [hresult]; rfl, hmade, hspares⟩
      · exact .inr ⟨{}, by rw [hresult]; rfl, by rw [hresult]; rfl, hrest⟩

/-- What was asked and replied so far, and the files that are left. -/
structure History where
  files : Files
  events : List (Request × Reply) := []

/-- The settings that were last reported as written. -/
def History.lastWritten (h : History) : Option Settings := h.events.reverse.findSome? written?

/-- A history with one more call. -/
def History.ask (home : Path) (h : History) (call : Call) : History :=
  let answer := call.answer home h.files
  ⟨answer.files, h.events ++ [(call.request, answer.reply)]⟩

/-- Make calls one after the other. -/
def run (home : Path) (start : Files) (calls : List Call) : History :=
  calls.foldl (History.ask home) { files := start }

/-- The settings file is the one at the start, or holds what was last reported as written. -/
def History.Faithful (home : Path) (start : Files) (h : History) : Prop :=
  match h.lastWritten with
  | none => stored h.files home = stored start home
  | some s => Holds h.files home s

/-- A call that wrote settings replaces what was last written, and any other call keeps it. -/
theorem History.lastWritten_ask (home : Path) (h : History) (call : Call) :
    (h.ask home call).lastWritten =
      (written? (call.request, (call.answer home h.files).reply)).or h.lastWritten := by
  rw [lastWritten, ask, List.reverse_append, List.findSome?_append]
  simp [lastWritten]

/-- **One call keeps the history faithful**, whatever goes wrong with it. -/
theorem History.Faithful.ask {start : Files} {h : History} (hh : h.Faithful home start)
    (call : Call) : (h.ask home call).Faithful home start := by
  rw [Faithful, lastWritten_ask]
  obtain ⟨hnone, -, hspares⟩ | ⟨s, hsome, -, -, hholds, -⟩ := call.answer_cases home h.files
  · rw [hnone, Option.none_or]
    rw [Faithful] at hh
    cases hlast : h.lastWritten with
    | none =>
      rw [hlast] at hh
      exact (stored_of_spares hspares).trans hh
    | some s =>
      rw [hlast] at hh
      exact Holds.of_spares hh hspares
  · rw [hsome]
    exact hholds

end Settings

end SqlRender
