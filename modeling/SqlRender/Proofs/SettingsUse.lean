import SqlRender.Proofs.OutputModes
import SqlRender.Proofs.StoreRun

/-!
# Proofs/SettingsUse — which commands a settings file that cannot be read stops

The settings are loaded once, before the command is looked at, and a command that needs them gives
up if that failed. Where there is a settings file, `load` succeeds exactly on bytes that are text
and blank or YAML for settings (`Settings.exists_load_iff`). So the content alone decides, for each
command, whether the run is stopped (`settings_file_stops_commands`): the path is always told,
settings are shown and statements are rendered only if the file can be read, and so it is with the
attempt to create settings, which loads those that are there.
-/

namespace SqlRender

/-! ## How a run ends -/

/-- The run gave up for the reason `f`: it printed nothing, and its last line of errors reports
`f`, with what the parsers have to say. -/
structure Outcome.GaveUp (outcome : Outcome) (remarks : Remarks) (f : Failure) : Prop where
  status : outcome.status = 1
  output : outcome.output = ""
  report : ∃ notes, outcome.errors = notes ++ [f.report remarks]

/-- An outcome gives up for one reason. -/
theorem Outcome.GaveUp.report_eq {outcome : Outcome} {remarks : Remarks} {f g : Failure}
    (hf : outcome.GaveUp remarks f) (hg : outcome.GaveUp remarks g) :
    f.report remarks = g.report remarks := by
  obtain ⟨notes, hnotes⟩ := hf.report
  obtain ⟨notes', hnotes'⟩ := hg.report
  exact (List.append_inj' (hnotes.symm.trans hnotes') rfl).2 |> List.cons.inj |>.1

/-- A run leaves the files that its command leaves, and ends well exactly if the command does. -/
theorem run_of_perform (environment : Environment) (files : Files) {args : List String}
    {verbosity : Nat} {action : Action}
    (hparse : Arguments.parse args = .ok ⟨verbosity, action⟩) :
    let done := perform environment files (Settings.load files environment.home) action
    (run environment files args).1 = done.1 ∧
      (∀ out, done.2.2 = .ok out →
        (run environment files args).2.status = 0 ∧ (run environment files args).2.output = out) ∧
      ∀ f, done.2.2 = .error f → (run environment files args).2.GaveUp environment.remarks f := by
  intro done
  rw [run, hparse]
  dsimp only [runRequest]
  refine ⟨rfl, fun out hout => ?_, fun f hf => ?_⟩
  · rw [hout]
    exact ⟨rfl, rfl⟩
  · rw [hf]
    exact ⟨rfl, rfl, _, rfl⟩

/-! ## Reports -/

namespace Failure

/-- A report starts with what was attempted. -/
theorem take_report (remarks : Remarks) {f : Failure} {lead rest : String} {n : Nat}
    (hf : f.attempt = lead ++ rest) (hn : n ≤ lead.toList.length) :
    ((f.report remarks).toList.drop 7).take n = lead.toList.take n := by
  have hlead : "Error: ".toList.length = 7 := rfl
  rw [report, hf, String.toList_append, String.toList_append, String.toList_append,
    List.append_assoc, List.append_assoc, ← hlead, List.drop_left,
    List.take_append_of_le_length hn]

variable {remarks : Remarks}

/-- Reports of attempts that start differently are different. -/
theorem report_ne {f g : Failure} {lead lead' rest rest' : String} {n : Nat}
    (hf : f.attempt = lead ++ rest) (hg : g.attempt = lead' ++ rest')
    (hn : n ≤ lead.toList.length) (hn' : n ≤ lead'.toList.length)
    (hne : lead.toList.take n ≠ lead'.toList.take n) : f.report remarks ≠ g.report remarks := by
  intro h
  have htaken := take_report remarks hf hn
  rw [h, take_report remarks hg hn'] at htaken
  exact hne htaken.symm

theorem attempt_settings (e : Settings.StoreError) :
    (settings e).attempt = "failed to load querytext config" ++ "" := String.append_empty.symm

/-- A document that cannot be used is reported in other words than settings. -/
theorem report_document_ne (e : LoadError) (e' : Settings.StoreError) :
    (document e).report remarks ≠ (settings e').report remarks := by
  have hattempt : (document e).attempt = "failed to load AST from '" ++ (e.path.text ++ "'") :=
    String.append_assoc
  exact report_ne (n := 16) hattempt (attempt_settings e') (by decide) (by decide) (by decide)

/-- An overflow is reported in other words than settings. -/
theorem report_overflow_ne (e : Overflow) (e' : Settings.StoreError) :
    (internal e.message).report remarks ≠ (settings e').report remarks := by
  have hattempt : (internal e.message).attempt = "attempt to add with overflow" ++ "" := by
    cases e
    exact String.append_empty.symm
  exact report_ne (n := 1) hattempt (attempt_settings e') (by decide) (by decide) (by decide)

end Failure

/-- Rendering fails because of the document, or because the text is too long to count its bytes. -/
theorem renderDocument_error {files : Files} {o : RenderOptions} {settings : Settings}
    {paint : Paint} {f : Failure} (h : (renderDocument files o settings paint).2 = .error f) :
    (∃ e, f = .document e) ∨ ∃ e : Overflow, f = .internal e.message := by
  rw [renderDocument] at h
  cases hopen : openDocument files o.path with
  | error fault =>
    rw [hopen] at h
    exact .inl ⟨_, (Except.error.inj h).symm⟩
  | ok document =>
    obtain ⟨format, text⟩ := document
    rw [hopen] at h
    dsimp only at h
    cases hparse : Statement.parse text format with
    | error fault =>
      rw [hparse] at h
      exact .inl ⟨_, (Except.error.inj h).symm⟩
    | ok s =>
      rw [hparse] at h
      dsimp only at h
      rw [renderStatement_eq] at h
      cases hout : renderOutput o.json (o.effective settings) paint s.sql
          (s.spansIn (o.effective settings).tracking) with
      | error e =>
        rw [hout] at h
        exact .inr ⟨e, (Except.error.inj h).symm⟩
      | ok out =>
        rw [hout] at h
        exact absurd h.symm error_ne_ok

/-! ## The content of the file -/

namespace Settings

variable {files : Files} {home : Path} {bytes : ByteArray} {mode : Nat}

/-- Bytes that settings can be read from: text that is blank, which stands for the defaults, or YAML
for settings. -/
def Readable (bytes : ByteArray) : Prop :=
  ∃ text : String, bytes = text.toUTF8 ∧ (isBlankText text = true ∨ ∃ s, ofYaml text = .ok s)

theorem readable_toUTF8_iff {text : String} :
    Readable text.toUTF8 ↔ ∃ s, ofText text = .ok s := by
  have hheld : Readable text.toUTF8 ↔ isBlankText text = true ∨ ∃ s, ofYaml text = .ok s := by
    refine ⟨?_, fun h => ⟨text, rfl, h⟩⟩
    rintro ⟨text', htext, h⟩
    rwa [String.toByteArray_inj.mp htext]
  rw [hheld, ofText]
  cases isBlankText text with
  | true => simp
  | false => simp

theorem has_of_look (hfile : files.look (path home) = .ok (.file bytes mode)) :
    files.has (path home) = true := by
  rw [Files.has, hfile]
  rfl

theorem load_of_not_text {defect : Utf8.Defect}
    (hfile : files.look (path home) = .ok (.file bytes mode))
    (hdecode : Utf8.decode bytes = .error defect) :
    load files home = .error (.file .notText) := by
  have hread : files.read (path home) = .ok bytes := bind_eq_ok.mpr ⟨_, hfile, rfl⟩
  have htext : files.readText (path home) = .error .notText := by
    rw [Files.readText, hread]
    dsimp only [bind, Except.bind]
    rw [hdecode]
    rfl
  rw [load, has_of_look hfile, htext]
  rfl

/-- **A settings file is loaded exactly if settings can be read from its bytes.** -/
theorem exists_load_iff (hfile : files.look (path home) = .ok (.file bytes mode)) :
    (∃ s, load files home = .ok s) ↔ Readable bytes := by
  cases hdecode : Utf8.decode bytes with
  | error defect =>
    rw [load_of_not_text hfile hdecode]
    refine ⟨fun ⟨s, hs⟩ => absurd hs error_ne_ok, ?_⟩
    rintro ⟨text, rfl, -⟩
    exact absurd (hdecode.symm.trans (Utf8.decode_eq_ok_iff.mpr rfl)) error_ne_ok
  | ok text =>
    obtain rfl := Utf8.decode_eq_ok_iff.mp hdecode
    rw [load_of_look hfile, readable_toUTF8_iff]
    cases ofText text with
    | error e => simp [Except.mapError]
    | ok s => simp [Except.mapError]

/-- Where there is a file, to create settings is to load them. -/
theorem init_of_look (hfile : files.look (path home) = .ok (.file bytes mode)) :
    init files home = (files, (load files home).map (·, false)) := by
  rw [init, has_of_look hfile]
  rfl

end Settings

/-! ## Commands -/

section Commands

variable {environment : Environment} {files : Files} {bytes : ByteArray} {mode : Nat}
  {args : List String} {verbosity : Nat} {action : Action}

/-- A command that shows settings or renders gives up for want of settings exactly if they were not
loaded. -/
theorem gaveUp_iff_not_loaded (hparse : Arguments.parse args = .ok ⟨verbosity, action⟩)
    (haction : (∃ json, action = .showSettings json) ∨ ∃ o, action = .render o) :
    (∃ e, (run environment files args).2.GaveUp environment.remarks (.settings e)) ↔
      ¬ ∃ s, Settings.load files environment.home = .ok s := by
  obtain ⟨-, hok, herror⟩ := run_of_perform environment files hparse
  cases hload : Settings.load files environment.home with
  | error e =>
    rw [hload] at herror
    refine ⟨fun _ ⟨s, hs⟩ => absurd hs error_ne_ok, fun _ => ⟨e, herror _ ?_⟩⟩
    obtain ⟨json, rfl⟩ | ⟨o, rfl⟩ := haction <;> rfl
  | ok settings =>
    rw [hload] at hok herror
    refine ⟨fun ⟨e, hgaveUp⟩ => ?_, fun h => absurd ⟨settings, rfl⟩ h⟩
    have hends : ∀ out, _ → False := fun out hout =>
      absurd ((hok out hout).1.symm.trans hgaveUp.status) (by decide)
    obtain ⟨json, rfl⟩ | ⟨o, rfl⟩ := haction
    · exact (hends _ rfl).elim
    · -- what else stops a rendering is reported in other words
      generalize hresult : (renderDocument files o settings
        (if environment.color then Paint.color else Paint.plain)).2 = result
      cases result with
      | ok out => exact (hends out hresult).elim
      | error f =>
        have hreport := (herror f hresult).report_eq hgaveUp
        obtain ⟨e', rfl⟩ | ⟨e', rfl⟩ := renderDocument_error hresult
        · exact absurd hreport (Failure.report_document_ne e' e)
        · exact absurd hreport (Failure.report_overflow_ne e' e)

/-- Where there is a settings file, no command changes any file. -/
theorem perform_files (hfile : files.look (Settings.path environment.home) = .ok (.file bytes mode))
    (loaded : Except Settings.StoreError Settings) (action : Action) :
    (perform environment files loaded action).1 = files := by
  cases action with
  | render o => cases loaded <;> rfl
  | showSettings json => rfl
  | initSettings => rw [perform, Settings.init_of_look hfile]
  | settingsPath => rfl

/-- **What a settings file decides by its content.** Whatever bytes it has, no command changes any
file where it is there. Its path is told in any case; settings are shown and statements are rendered
unless they cannot be read from it, and then exactly the failure to load settings is reported. The
attempt to create settings says that they are there if they can be read, and fails if not. -/
theorem settings_file_stops_commands
    (hfile : files.look (Settings.path environment.home) = .ok (.file bytes mode))
    (hparse : Arguments.parse args = .ok ⟨verbosity, action⟩) :
    let outcome := (run environment files args).2
    (run environment files args).1 = files ∧
    (action = .settingsPath →
      outcome.status = 0 ∧ outcome.output = (Settings.path environment.home).text ++ "\n") ∧
    (action = .initSettings →
      (Settings.Readable bytes → outcome.status = 0 ∧ outcome.output =
        "Config already exists at " ++ (Settings.path environment.home).text ++ "\n") ∧
      (¬ Settings.Readable bytes → ∃ e, outcome.GaveUp environment.remarks (.initSettings e))) ∧
    ((∃ json, action = .showSettings json) ∨ (∃ o, action = .render o) →
      ((∃ e, outcome.GaveUp environment.remarks (.settings e)) ↔ ¬ Settings.Readable bytes)) := by
  intro outcome
  obtain ⟨hfiles, hok, herror⟩ := run_of_perform environment files hparse
  refine ⟨hfiles.trans (perform_files hfile _ action), ?_, ?_, fun haction => ?_⟩
  · rintro rfl
    exact hok _ rfl
  · rintro rfl
    rw [← Settings.exists_load_iff hfile]
    simp only [perform, Settings.init_of_look hfile] at hok herror
    cases hload : Settings.load files environment.home with
    | error e =>
      rw [hload] at herror
      exact ⟨fun ⟨s, hs⟩ => absurd hs error_ne_ok, fun _ => ⟨e, herror _ rfl⟩⟩
    | ok s =>
      rw [hload] at hok
      exact ⟨fun _ => hok _ rfl, fun h => absurd ⟨s, rfl⟩ h⟩
  · rw [← Settings.exists_load_iff hfile]
    exact gaveUp_iff_not_loaded hparse haction

end Commands

/-- A home directory with a settings file. -/
def filesWithSettings (text : String) : Files := ⟨[
  (["home"], .dir newDirMode),
  (["home", ".querytext"], .dir newDirMode),
  (["home", ".querytext", "config.yaml"], .file text.toUTF8 newFileMode)]⟩

theorem look_filesWithSettings (text : String) :
    (filesWithSettings text).look (Settings.path ⟨"home"⟩)
      = .ok (.file text.toUTF8 newFileMode) := rfl

/-- A list holds no settings. -/
theorem not_readable_list : ¬ Settings.Readable "- not a mapping\n".toUTF8 := by
  have hfails : (Settings.ofText "- not a mapping\n").isOk = false := by decide +kernel
  rw [Settings.readable_toUTF8_iff]
  rintro ⟨s, hs⟩
  rw [hs] at hfails
  exact Bool.false_ne_true hfails.symm

/-- A blank file stands for the defaults, and a list stops what needs settings. -/
theorem settings_file_stops_commands_samples :
    (run { home := ⟨"home"⟩ } (filesWithSettings " \n") ["config", "init"]).2.output
      = "Config already exists at home/.querytext/config.yaml\n" ∧
    (run { home := ⟨"home"⟩ } (filesWithSettings "- not a mapping\n")
      ["config", "path"]).2.status = 0 ∧
    ∃ e, (run { home := ⟨"home"⟩ } (filesWithSettings "- not a mapping\n")
      ["config", "show"]).2.GaveUp (fun _ _ => "") (.settings e) := by
  have hinit : Arguments.parse ["config", "init"] = .ok ⟨0, .initSettings⟩ := by decide +kernel
  have hpath : Arguments.parse ["config", "path"] = .ok ⟨0, .settingsPath⟩ := by decide +kernel
  have hshow : Arguments.parse ["config", "show"] = .ok ⟨0, .showSettings false⟩ := by
    decide +kernel
  have hblank : Settings.Readable " \n".toUTF8 := ⟨" \n", rfl, .inl (by decide)⟩
  -- named, so that the runs are compared and not performed
  generalize hhome : ({ home := ⟨"home"⟩ } : Environment) = environment
  have hremarks : environment.remarks = fun _ _ => "" := by rw [← hhome]
  have hlook : ∀ text, (filesWithSettings text).look (Settings.path environment.home)
      = .ok (.file text.toUTF8 newFileMode) := fun text => hhome ▸ look_filesWithSettings text
  obtain ⟨-, -, hcreated, -⟩ := settings_file_stops_commands (hlook " \n") hinit
  obtain ⟨-, htold, -, -⟩ := settings_file_stops_commands (hlook "- not a mapping\n") hpath
  obtain ⟨-, -, -, hshown⟩ := settings_file_stops_commands (hlook "- not a mapping\n") hshow
  refine ⟨?_, (htold rfl).1, hremarks ▸ (hshown (.inl ⟨false, rfl⟩)).mpr not_readable_list⟩
  rw [((hcreated rfl).1 hblank).2, ← hhome]
  decide +kernel

/-- **The attempt to create settings fails where the settings that are there cannot be read.** -/
theorem init_stopped_by_broken_settings :
    let files := filesWithSettings "- not a mapping\n"
    let outcome := (run { home := ⟨"home"⟩ } files ["config", "init"]).2
    files.look (Settings.path ⟨"home"⟩)
      = .ok (.file "- not a mapping\n".toUTF8 newFileMode) ∧
    outcome.status = 1 ∧ outcome.output = "" ∧
    outcome.errors = ["Error: failed to initialize config\n\nCaused by:\n" ++
      "    0: failed to parse config at home/.querytext/config.yaml: " ++
      "invalid type: sequence, expected struct RenderConfig\n" ++
      "    1: invalid type: sequence, expected struct RenderConfig"] := by
  refine ⟨rfl, ?_, ?_, ?_⟩
  · decide +kernel
  · decide +kernel
  · decide +kernel

end SqlRender
