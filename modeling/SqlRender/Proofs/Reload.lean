import SqlRender.Proofs.Strict
import SqlRender.Proofs.Violations
import SqlRender.Proofs.WalkAgreement

/-!
# Proofs/Reload — which loaded statements survive a save

A statement that was loaded from a document, JSON or YAML, is free of violations, so its floats are
finite. Where writing and reading floats are inverse to each other on them, the statement's JSON
text is decoded back as the statement, if it does not nest too deep. So a statement survives exactly
if its JSON stays within the limit, and it does if its document stayed one level below it
(`reload_iff`). At the limit itself there are documents that do not survive
(`negatedDelete_not_reloaded`).
-/

namespace SqlRender

/-! ## Saving and loading again -/

/-- Only finite floats pass the check. -/
theorem Statement.isFinite_of_valid {s : Statement} (h : s.violation? = none) {x : Double}
    (hx : .literal (.float x) ∈ s.leaves) : x.isFinite = true := by
  rw [s.violation?_eq, Site.first?, List.head?_eq_none_iff, List.flatMap_eq_nil_iff] at h
  rw [← s.leaves_sites] at hx
  obtain ⟨site, hsite, hleaf⟩ := List.mem_filterMap.mp hx
  have hnone := h site hsite
  cases site with
  | list kind length => exact absurd hleaf (by simp [Site.leaf?])
  | leaf l =>
    obtain rfl := Option.some.inj hleaf
    by_contra hfinite
    rw [Site.violations, if_neg hfinite] at hnone
    exact absurd hnone (by simp)

/-- How deep the containers of a document nest. -/
def documentDepth (text : String) : DocumentFormat → Nat
  | .json => (Reading.ofText text).reading.depth
  | .yaml => (Yaml.parseJson text).toOption.elim 0 fun v => v.reading.depth

/-- The check changes nothing. -/
theorem Statement.checked_eq_ok {s t : Statement} (h : s.checked = .ok t) :
    t = s ∧ s.violation? = none := by
  rw [Statement.checked] at h
  split at h
  case h_1 hvalid => exact ⟨(Except.ok.inj h).symm, hvalid⟩
  case h_2 => exact absurd h error_ne_ok

theorem mapError_eq_ok {ε ε' α : Type} {x : Except ε α} {f : ε → ε'} {a : α}
    (h : x.mapError f = .ok a) : x = .ok a := by
  cases x with
  | error e => exact absurd h error_ne_ok
  | ok b => exact congrArg Except.ok (Except.ok.inj h)

/-- A text that is loaded is decoded first. -/
theorem Statement.fromText_of_parse {text : String} {s : Statement}
    (h : Statement.parse text .json = .ok s) :
    Statement.decoder.fromText text = .ok s ∧ s.violation? = none := by
  rw [Statement.parse_json_eq] at h
  obtain ⟨t, ht, hchecked⟩ := bind_eq_ok.mp h
  obtain ⟨rfl, hvalid⟩ := Statement.checked_eq_ok hchecked
  exact ⟨mapError_eq_ok ht, hvalid⟩

/-- **A loaded statement is valid, and its JSON nests at most one level deeper than the
document.** -/
theorem Statement.of_parse {text : String} {format : DocumentFormat} {s : Statement}
    (h : Statement.parse text format = .ok s) :
    s.violation? = none ∧ s.json.reading.depth ≤ documentDepth text format + 1 := by
  cases format with
  | json =>
    obtain ⟨htext, hvalid⟩ := Statement.fromText_of_parse h
    obtain ⟨t, ht, hclosed⟩ := bind_eq_ok.mp htext
    obtain ⟨_, _, hts⟩ := bind_eq_ok.mp hclosed
    obtain rfl := Except.ok.inj hts
    exact ⟨hvalid, Statement.yields ht le_rfl⟩
  | yaml =>
    cases hv : Yaml.parseJson text with
    | error e =>
      rw [Statement.parse, Statement.decode, hv] at h
      exact absurd h error_ne_ok
    | ok v =>
      rw [Statement.parse_yaml_eq hv, Statement.ofJson] at h
      obtain ⟨t, ht, hchecked⟩ := bind_eq_ok.mp h
      obtain ⟨rfl, hvalid⟩ := Statement.checked_eq_ok hchecked
      rw [documentDepth, hv]
      exact ⟨hvalid, Statement.yields (mapError_eq_ok ht) le_rfl⟩

/-- The statement survives a save: its JSON text is loaded as the same statement, and is written
with the same bytes and spans. -/
def Statement.Survives (s : Statement) : Prop :=
  Statement.parse s.json.compact .json = .ok s ∧
    ∀ tracking, ((Statement.parse s.json.compact .json).map fun t => t.write tracking)
      = .ok (s.write tracking)

/-- What can be parsed from a statement's own text survives. -/
theorem Statement.Survives.of_parse {s : Statement}
    (h : Statement.parse s.json.compact .json = .ok s) : s.Survives :=
  ⟨h, fun _ => by rw [h]; rfl⟩

/-- A statement that was read comes back from its text, if that is not too deep and its floats are
read back. -/
theorem Statement.parse_compact {s : Statement} (hvalid : s.violation? = none)
    (hinverse : ∀ x, .literal (.float x) ∈ s.leaves → x.isFinite = true → x.ReadsBack)
    (hdepth : s.json.reading.depth ≤ Decoder.maxDepth) :
    Statement.parse s.json.compact .json = .ok s := by
  have hfloats : FloatsReadBack s.leaves :=
    fun x hx => hinverse x hx (Statement.isFinite_of_valid hvalid hx)
  exact Statement.parse_of_fromText ((Statement.reads hfloats).fromText hdepth) hvalid

/-- A text is decoded only if what is written there may nest as deep as it does. -/
theorem Statement.depth_le_of_parse {s t : Statement}
    (h : Statement.parse s.json.compact .json = .ok t) :
    s.json.reading.depth ≤ Decoder.maxDepth := by
  obtain ⟨htext, _⟩ := Statement.fromText_of_parse h
  obtain ⟨u, hu, _⟩ := bind_eq_ok.mp htext
  rw [Reading.ofText_compact] at hu
  rw [← s.json.depth_readBack]
  exact s.strict hu

/-- **A loaded statement survives a save exactly if its JSON nests within the limit**, and so it
does whenever the document nested one level less. Its JSON text is never loaded as another
statement. Writing and reading floats have to be inverse to each other on the finite ones in it. -/
theorem reload_iff {text : String} {format : DocumentFormat} {s : Statement}
    (h : Statement.parse text format = .ok s)
    (hinverse : ∀ x, .literal (.float x) ∈ s.leaves → x.isFinite = true → x.ReadsBack) :
    (s.Survives ↔ s.json.reading.depth ≤ Decoder.maxDepth) ∧
      (documentDepth text format < Decoder.maxDepth → s.Survives) ∧
      ∀ t, Statement.parse s.json.compact .json = .ok t → t = s := by
  obtain ⟨hvalid, hdepth⟩ := Statement.of_parse h
  have hsurvives : s.json.reading.depth ≤ Decoder.maxDepth → s.Survives :=
    fun hle => .of_parse (Statement.parse_compact hvalid hinverse hle)
  refine ⟨⟨fun hs => Statement.depth_le_of_parse hs.1, hsurvives⟩,
    fun hlt => hsurvives (hdepth.trans hlt), fun t ht => ?_⟩
  have hsame := Statement.parse_compact hvalid hinverse (Statement.depth_le_of_parse ht)
  exact Except.ok.inj (ht.symm.trans hsame)

/-! ## At the limit

A call without arguments under `n` negations, its arguments left out. -/

/-- The expression under `n` negations. -/
def negated : Nat → Expr → Expr
  | 0, e => e
  | n + 1, e => .not (negated n e)

/-- The document of an expression under `n` negations. -/
def negatedJson : Nat → Json → Json
  | 0, v => v
  | n + 1, v => .tagged "not" (negatedJson n v)

theorem negated_succ (n : Nat) (e : Expr) : negated (n + 1) e = .not (negated n e) := rfl

theorem negatedJson_succ (n : Nat) (v : Json) :
    negatedJson (n + 1) v = .tagged "not" (negatedJson n v) := rfl

/-- The call `f()`. -/
def bareCall : Expr := .func ⟨⟨"f"⟩, false, []⟩

/-- A document of `f()` that leaves out the flag and the arguments. -/
def bareCallJson : Json := .tagged "func" (.object [("name", .string "f")])

/-- A deletion under a condition that is negated `n` times. -/
def negatedDelete (n : Nat) : Statement := .delete ⟨⟨none, ⟨"t"⟩⟩, some (negated n bareCall)⟩

/-- A document of that deletion. It is one level flatter than what is written of it. -/
def negatedDeleteJson (n : Nat) : Json := .tagged "delete" (.object
  [("table", .object [("name", .string "t")]), ("where", negatedJson n bareCallJson)])

/-- The document that is written has as many negations as the expression. -/
theorem json_negated (n : Nat) (e : Expr) : (negated n e).json = negatedJson n e.json := by
  induction n with
  | zero => rfl
  | succ n ih => rw [negated_succ, Expr.json, ih, negatedJson_succ]

theorem depth_negatedJson (n : Nat) (v : Json) :
    (negatedJson n v).readBack.depth = v.readBack.depth + n := by
  induction n with
  | zero => rfl
  | succ n ih => rw [negatedJson_succ, depth_tagged, ih, Nat.add_assoc]

theorem violation?_negated (n : Nat) (e : Expr) : (negated n e).violation? = e.violation? := by
  induction n with
  | zero => rfl
  | succ n ih => rw [negated_succ, Expr.violation?, ih]

/-- Negation adds no leaf. -/
theorem leaves_negated (n : Nat) (e : Expr) : (negated n e).leaves = e.leaves := by
  induction n with
  | zero => rfl
  | succ n ih => rw [negated_succ, Expr.leaves, ih]

/-- Each negation costs a level of the decoder. -/
theorem reads_negated {v : Json} {e : Expr}
    (h : ∀ levels, v.readBack.depth < levels → (Expr.decoderTo levels).Reads v e) :
    ∀ n levels, v.readBack.depth + n < levels →
      (Expr.decoderTo levels).Reads (negatedJson n v) (negated n e)
  | 0, levels, hlevels => h levels hlevels
  | _ + 1, 0, hlevels => absurd hlevels (Nat.not_lt_zero _)
  | n + 1, levels + 1, hlevels =>
    reads_tagged rfl ((reads_negated h n levels (Nat.lt_of_succ_lt_succ hlevels)).map Expr.not)

/-- The call can be read without its arguments. -/
theorem reads_bareCall : ∀ levels, bareCallJson.readBack.depth < levels →
    (Expr.decoderTo levels).Reads bareCallJson bareCall
  | 0, hlevels => absurd hlevels (Nat.not_lt_zero _)
  | levels + 1, _ => by
      refine reads_tagged rfl (Decoder.Reads.map (reads_record (.map (.and
        (fills_required rfl (Ident.reads ⟨"f"⟩))
        (.and (fills_default false rfl) (fills_default [] rfl) ?_) ?_) _) ?_ _) Expr.func)
      all_goals simp

/-- What is read is four levels and the negations deep. -/
theorem depth_negatedDeleteJson (n : Nat) : (negatedDeleteJson n).reading.depth = n + 4 := by
  have hcall : bareCallJson.readBack.depth = 2 := rfl
  have htable : (Json.object [("name", .string "t")]).readBack.depth = 1 := rfl
  have hwhere := depth_negatedJson n bareCallJson
  rw [← Json.depth_readBack, negatedDeleteJson, depth_tagged, Json.readBack, Reading.depth]
  simp only [Json.readBackMembers, Reading.depthMembers, htable, hwhere, hcall]
  omega

/-- What is written is one level deeper: the arguments are an array, though an empty one. -/
theorem depth_json_negatedDelete (n : Nat) : (negatedDelete n).json.reading.depth = n + 5 := by
  have hcall : bareCall.json.readBack.depth = 3 := by
    rw [bareCall, Expr.json, FuncCall.json, SelectItem.jsons]
    rfl
  have htable : (TableName.json ⟨none, ⟨"t"⟩⟩).readBack.depth = 1 := rfl
  have hwhere := depth_negatedJson n bareCall.json
  have hjson : (negatedDelete n).json = .tagged "delete" (.object
      [("table", TableName.json ⟨none, ⟨"t"⟩⟩), ("where", negatedJson n bareCall.json)]) := by
    rw [← json_negated]
    rfl
  rw [← Json.depth_readBack, hjson, depth_tagged, Json.readBack, Reading.depth]
  simp only [Json.readBackMembers, Reading.depthMembers, htable, hwhere, hcall]
  omega

theorem violation?_negatedDelete (n : Nat) : (negatedDelete n).violation? = none := by
  have hvalid := violation?_negated n bareCall
  rw [bareCall, Expr.violation?, FuncCall.violation?, SelectItem.firstViolation?] at hvalid
  exact hvalid

/-- The document is loaded if it nests within the limit. -/
theorem parse_negatedDelete {n : Nat} (hn : n + 4 ≤ Decoder.maxDepth) :
    Statement.parse (negatedDeleteJson n).compact .json = .ok (negatedDelete n) := by
  have hwhere : Expr.decoder.Reads (negatedJson n bareCallJson) (negated n bareCall) := by
    intro depth hdepth
    refine reads_negated reads_bareCall n (depth + 1) ?_ depth hdepth
    rw [depth_negatedJson] at hdepth
    omega
  have hdelete : Delete.decoder.Reads
      (.object [("table", TableName.json ⟨none, ⟨"t"⟩⟩), ("where", negatedJson n bareCallJson)])
      ⟨⟨none, ⟨"t"⟩⟩, some (negated n bareCall)⟩ := by
    refine reads_record (.map (.and (fills_required rfl (TableName.reads ⟨none, ⟨"t"⟩⟩))
      (fills_defaulted none rfl (hwhere.option ?_)) ?_) _) ?_ _
    · cases n <;> exact Reading.noConfusion
    all_goals simp
  have hreads : Statement.decoder.Reads (negatedDeleteJson n) (negatedDelete n) :=
    reads_tagged rfl (hdelete.map Statement.delete)
  have hdecode := hreads.fromText (by rw [depth_negatedDeleteJson]; exact hn)
  exact Statement.parse_of_fromText hdecode (violation?_negatedDelete n)

/-- A document one level below the limit survives, and so does one that has a float in it and is
laid out over several lines. -/
theorem reload_iff_samples :
    Statement.parse (negatedDeleteJson 122).compact .json = .ok (negatedDelete 122) ∧
    (negatedDelete 122).Survives ∧
    Statement.parse (fragileSelect.json.pretty ++ "\n") .json = .ok fragileSelect ∧
    .literal (.float ⟨0x3FB999999999999A⟩) ∈ fragileSelect.leaves ∧ fragileSelect.Survives := by
  have hdeep : Statement.parse (negatedDeleteJson 122).compact .json = .ok (negatedDelete 122) :=
    parse_negatedDelete (by decide)
  have hbare : (negatedDelete 122).leaves = [] := by
    have hwhere := leaves_negated 122 bareCall
    rw [bareCall, Expr.leaves, SelectItem.listLeaves] at hwhere
    exact hwhere
  have hlaidOut : Statement.parse (fragileSelect.json.pretty ++ "\n") .json = .ok fragileSelect :=
    Statement.parse_of_fromText ((Statement.reads floatsReadBack_fragileSelect).fromReading
      (by decide) (Reading.ofText_pretty _)) violation?_fragileSelect
  refine ⟨hdeep, (reload_iff hdeep ?_).2.1 ?_, hlaidOut, ?_, (reload_iff hlaidOut ?_).2.1 ?_⟩
  · rw [hbare]
    simp
  · rw [documentDepth, Reading.ofText_compact, Json.depth_readBack, depth_negatedDeleteJson]
    decide
  · simp [fragileSelect, Statement.leaves, SelectItem.leaves, Expr.leaves]
  · exact fun x hx _ => floatsReadBack_fragileSelect x hx
  · rw [documentDepth, Reading.ofText_pretty, Json.depth_readBack]
    decide

/-- **A document at the limit is loaded, and the statement's own JSON text is not.** The arguments
that the document left out are written, one level deeper than the call. -/
theorem negatedDelete_not_reloaded :
    Statement.parse (negatedDeleteJson 123).compact .json = .ok (negatedDelete 123) ∧
      ∀ t, Statement.parse (negatedDelete 123).json.compact .json ≠ .ok t := by
  refine ⟨parse_negatedDelete (by decide), fun t ht => ?_⟩
  have hle := Statement.depth_le_of_parse ht
  rw [depth_json_negatedDelete] at hle
  exact absurd hle (by decide)

end SqlRender
