import AcpBridge.Doctor.Agreement
import AcpBridge.Translate

/-! The printed report of the doctor, for people and as JSON. Neither loses anything. -/
namespace AcpBridge

def Status.label : Status → String
  | .pass => "PASS"
  | .warn => "WARN"
  | .fail => "FAIL"
  | .skip => "SKIP"

def Status.json : Status → String
  | .pass => "pass"
  | .warn => "warn"
  | .fail => "fail"
  | .skip => "skip"

/-- Pad with blanks to a width in characters. -/
def padTo (width : ℕ) (s : String) : String :=
  s ++ String.ofList (List.replicate (width - s.length) ' ')

def formatResult (width : ℕ) (r : CheckResult) : String :=
  "  " ++ r.status.label ++ "  " ++ padTo width r.check ++ "  " ++ r.detail ++ "\n"

/-- The longest name of a check, in bytes. -/
def checkWidth (results : List CheckResult) : ℕ :=
  (results.map fun r => Str.len r.check.toList).foldr max 0

def countStatus (results : List CheckResult) (status : Status) : ℕ :=
  results.countP (·.status == status)

def verdict (results : List CheckResult) : String :=
  if 0 < countStatus results .fail then "failed"
  else if 0 < countStatus results .warn then "ok with warnings"
  else "ok"

def tally (results : List CheckResult) : String :=
  [(countStatus results .warn, "warn"), (countStatus results .fail, "fail"),
    (countStatus results .skip, "skip")].foldl
    (fun tally entry =>
      if 0 < entry.1 then tally ++ ", " ++ toString entry.1 ++ " " ++ entry.2 else tally)
    (toString (countStatus results .pass) ++ " pass")

def formatHuman (results : List CheckResult) : String :=
  results.foldl (fun out r => out ++ formatResult (checkWidth results) r) "" ++
    "doctor: " ++ verdict results ++ " (" ++ tally results ++ ")\n"

/-- The report as a JSON value. -/
def reportValue (results : List CheckResult) : Value :=
  .array (results.map fun r => .object [("check", .string r.check),
    ("status", .string r.status.json), ("detail", .string r.detail)])

/-- Machine-readable report, printed by `serde_json::to_string_pretty`. -/
def formatJson (toStringPretty : Value → String) (results : List CheckResult) : String :=
  toStringPretty (reportValue results)

/-- The name and the detail of the check stand on one line, the name without blanks. -/
structure CheckResult.OneLine (r : CheckResult) : Prop where
  check : Str.Inline r.check.toList
  word : ' ' ∉ r.check.toList
  detail : Str.Inline r.detail.toList

/-- Read a status back from its label. -/
def Status.ofLabel (label : Str) : Status :=
  if label = "PASS".toList then .pass
  else if label = "WARN".toList then .warn
  else if label = "FAIL".toList then .fail
  else .skip

@[simp] theorem Status.ofLabel_label (status : Status) :
    Status.ofLabel status.label.toList = status := by
  cases status <;> decide

def rowName (row : Str) : Str := Str.splitFirst (row.drop 8) [' ']

/-- Read a result back from its line. -/
def readResult (width : ℕ) (row : Str) : CheckResult :=
  ⟨String.ofList (rowName row), .ofLabel ((row.drop 2).take 4),
    String.ofList (row.drop (width + 10))⟩

/-- Read the results back from the report; the names give the width of their column. -/
def readReport (report : String) : List CheckResult :=
  let rows := (Str.lines report.toList).dropLast
  rows.map (readResult ((rows.map fun row => Str.len (rowName row)).foldr max 0))

/-- The line of a result, without its end. -/
def resultLine (width : ℕ) (r : CheckResult) : Str :=
  "  ".toList ++ r.status.label.toList ++ "  ".toList ++ (padTo width r.check).toList ++
    "  ".toList ++ r.detail.toList

def summaryLine (results : List CheckResult) : Str :=
  ("doctor: " ++ verdict results ++ " (" ++ tally results ++ ")").toList

section Lines
variable {results : List CheckResult} {r : CheckResult} {width : ℕ}

theorem padTo_toList (width : ℕ) (s : String) : (padTo width s).toList =
    s.toList ++ List.replicate (width - s.toList.length) ' ' := by
  rw [padTo, String.toList_append, String.toList_ofList, String.length_toList]

theorem inline_resultLine (h : r.OneLine) : Str.Inline (resultLine width r) := by
  have hlabel : Str.Inline r.status.label.toList := by
    cases r.status <;> decide
  have hpad : Str.Inline (List.replicate (width - r.check.toList.length) ' ') := by
    intro c hc
    rw [List.eq_of_mem_replicate hc]
    decide
  have hblank : Str.Inline "  ".toList := by decide
  simp only [resultLine, padTo_toList, Str.inline_append]
  exact ⟨⟨⟨⟨⟨hblank, hlabel⟩, hblank⟩, h.check, hpad⟩, hblank⟩, h.detail⟩

theorem inline_tally (results : List CheckResult) : Str.Inline (tally results).toList := by
  have hstep : ∀ (entries : List (ℕ × String)) (start : String),
      (∀ e ∈ entries, Str.Inline e.2.toList) → Str.Inline start.toList →
      Str.Inline (entries.foldl (fun tally entry =>
        if 0 < entry.1 then tally ++ ", " ++ toString entry.1 ++ " " ++ entry.2
        else tally) start).toList := by
    intro entries
    induction entries with
    | nil => exact fun _ _ h => h
    | cons e entries ih =>
      intro start he hstart
      obtain ⟨hlabel, hrest⟩ := List.forall_mem_cons.mp he
      apply ih _ hrest
      dsimp only
      split_ifs
      · simp only [String.toList_append, Str.inline_append]
        exact ⟨⟨⟨⟨hstart, by decide⟩, Str.inline_toString e.1⟩, by decide⟩, hlabel⟩
      · exact hstart
  have hlabels : Str.Inline "warn".toList ∧ Str.Inline "fail".toList ∧
      Str.Inline "skip".toList ∧ Str.Inline " pass".toList := by decide
  obtain ⟨hwarn, hfail, hskip, hpass⟩ := hlabels
  apply hstep
  · simp only [List.forall_mem_cons]
    exact ⟨hwarn, hfail, hskip, by simp⟩
  · rw [String.toList_append, Str.inline_append]
    exact ⟨Str.inline_toString _, hpass⟩

theorem inline_summaryLine (results : List CheckResult) : Str.Inline (summaryLine results) := by
  have hverdict : Str.Inline (verdict results).toList := by
    unfold verdict
    split_ifs <;> decide
  have hframe : Str.Inline "doctor: ".toList ∧ Str.Inline " (".toList ∧ Str.Inline ")".toList := by
    decide
  obtain ⟨hdoctor, hopen, hclose⟩ := hframe
  simp only [summaryLine, String.toList_append, Str.inline_append]
  exact ⟨⟨⟨⟨hdoctor, hverdict⟩, hopen⟩, inline_tally results⟩, hclose⟩

theorem formatHuman_toList (results : List CheckResult) : (formatHuman results).toList =
    (results.map (resultLine (checkWidth results)) ++ [summaryLine results]).flatMap
      (· ++ ['\n']) := by
  have hfold : ∀ (width : ℕ) (rs : List CheckResult) (start : String),
      (rs.foldl (fun out r => out ++ formatResult width r) start).toList =
        start.toList ++ (rs.map (resultLine width)).flatMap (· ++ ['\n']) := by
    intro width rs
    induction rs with
    | nil => simp
    | cons r rs ih =>
      intro start
      rw [List.foldl_cons, ih]
      simp [formatResult, resultLine, List.append_assoc]
  simp only [formatHuman, String.toList_append, hfold]
  simp [summaryLine, List.append_assoc]

theorem lines_formatHuman (h : ∀ r ∈ results, r.OneLine) :
    Str.lines (formatHuman results).toList =
      results.map (resultLine (checkWidth results)) ++ [summaryLine results] := by
  rw [formatHuman_toList]
  apply Str.lines_terminated
  rw [List.forall_mem_append, List.forall_mem_map, List.forall_mem_singleton]
  exact ⟨fun r hr => inline_resultLine (h r hr), inline_summaryLine results⟩

theorem drop_resultLine (width : ℕ) (r : CheckResult) : (resultLine width r).drop 8 =
    (padTo width r.check).toList ++ ("  ".toList ++ r.detail.toList) := by
  cases hs : r.status <;> simp [resultLine, hs, Status.label]

theorem rowName_resultLine (h : r.OneLine) : rowName (resultLine width r) = r.check.toList := by
  rw [rowName, drop_resultLine, padTo_toList, List.append_assoc]
  apply Str.splitFirst_append
  · intro c hc hblank
    exact h.word (List.mem_singleton.mp hblank ▸ hc)
  · intro c hc
    rw [List.mem_singleton]
    cases hn : width - r.check.toList.length <;> simp_all [List.replicate_succ, eq_comm]

theorem readResult_resultLine (h : r.OneLine) (hw : r.check.toList.length ≤ width) :
    readResult width (resultLine width r) = r := by
  have hlabel : ((resultLine width r).drop 2).take 4 = r.status.label.toList := by
    cases hs : r.status <;> simp [resultLine, hs, Status.label]
  have hdetail : (resultLine width r).drop (width + 10) = r.detail.toList := by
    have hlength : (padTo width r.check).toList.length = width := by
      rw [padTo_toList, List.length_append, List.length_replicate]
      omega
    rw [show width + 10 = 8 + (width + 2) by omega, ← List.drop_drop, drop_resultLine,
      ← List.append_assoc]
    apply List.drop_left'
    rw [List.length_append, hlength]
    rfl
  rw [readResult, rowName_resultLine h, hlabel, hdetail, Status.ofLabel_label,
    String.ofList_toList, String.ofList_toList]

theorem length_le_checkWidth (hr : r ∈ results) :
    r.check.toList.length ≤ checkWidth results := by
  apply (Str.length_le_len r.check.toList).trans
  unfold checkWidth
  induction results with
  | nil => simp at hr
  | cons x results ih =>
    rw [List.map_cons, List.foldr_cons]
    obtain rfl | hr := List.mem_cons.mp hr
    · exact le_max_left _ _
    · exact (ih hr).trans (le_max_right _ _)

theorem readReport_formatHuman (h : ∀ r ∈ results, r.OneLine) :
    readReport (formatHuman results) = results := by
  have hnames : (results.map (resultLine (checkWidth results))).map
      (fun row => Str.len (rowName row)) = results.map fun r => Str.len r.check.toList := by
    rw [List.map_map]
    exact List.map_congr_left fun r hr => congrArg Str.len (rowName_resultLine (h r hr))
  simp only [readReport, lines_formatHuman h, List.dropLast_concat, hnames]
  have hread : ∀ r ∈ results,
      readResult (checkWidth results) (resultLine (checkWidth results) r) = id r :=
    fun r hr => readResult_resultLine (h r hr) (length_le_checkWidth hr)
  rw [List.map_map]
  exact (List.map_congr_left hread).trans (List.map_id results)

theorem summaryLine_failed : Str.startsWith (summaryLine results) "doctor: failed (".toList = true ↔
    exitCode results = 1 := by
  have hcount : 0 < countStatus results .fail ↔ exitCode results = 1 := by
    rw [countStatus, List.countP_pos_iff, exitCode]
    simp
  rw [← hcount, summaryLine, verdict]
  split_ifs with hfail hwarn
  · refine iff_of_true ?_ hfail
    rw [Str.startsWith_iff]
    exact ⟨(tally results ++ ")").toList, by simp⟩
  · refine iff_of_false ?_ hfail
    simp [Str.startsWith, List.isPrefixOf]
  · refine iff_of_false ?_ hfail
    simp [Str.startsWith, List.isPrefixOf]

end Lines

def Status.ofJson (text : String) : Status :=
  if text = "pass" then .pass
  else if text = "warn" then .warn
  else if text = "fail" then .fail
  else .skip

def readEntry (v : Value) : Option CheckResult :=
  match v.get "check", v.get "status", v.get "detail" with
  | some (.string check), some (.string status), some (.string detail) =>
    some ⟨check, .ofJson status, detail⟩
  | _, _, _ => none

/-- Read the results back from the JSON report. -/
def readValue : Value → Option (List CheckResult)
  | .array entries => entries.mapM readEntry
  | _ => none

theorem readEntry_of_result (r : CheckResult) : readEntry (.object [("check", .string r.check),
    ("status", .string r.status.json), ("detail", .string r.detail)]) = some r := by
  obtain ⟨check, status, detail⟩ := r
  cases status <;> rfl

theorem readValue_reportValue (results : List CheckResult) :
    readValue (reportValue results) = some results := by
  rw [reportValue, readValue]
  induction results with
  | nil => rfl
  | cons r results ih => rw [List.map_cons, List.mapM_cons, readEntry_of_result, ih]; rfl

/-- Arrays of objects with the same fields, in whatever order a map keeps its keys. -/
def Value.SameEntries (v v' : Value) : Prop := ∃ entries entries', v = .array entries ∧
  v' = .array entries' ∧ List.Forall₂ (fun e e' => ∀ key, e.get key = e'.get key) entries entries'

/-- What the serializer prints of a value is parsed back to it. -/
def RoundTrips (toStringPretty : Value → String) (fromStr : String → Option Value) (v : Value) :
    Prop := ∃ v', fromStr (toStringPretty v) = some v' ∧ v'.SameEntries v

theorem readValue_congr {v v' : Value} (h : v.SameEntries v') : readValue v = readValue v' := by
  obtain ⟨entries, entries', rfl, rfl, hentries⟩ := h
  simp only [readValue]
  induction hentries with
  | nil => rfl
  | cons hkeys _ ih =>
    rw [List.mapM_cons, List.mapM_cons, ih, readEntry, readEntry, hkeys, hkeys, hkeys]

/-- Both forms of the doctor's report say all there is: when no detail breaks its line, the
results are read back from the aligned report as from the JSON text, whose printer and parser
undo one another, and the last line of the former tells the exit code. -/
theorem Probes.report_readable {Client Addr : Type} (probes : Probes Client Addr) (path : String)
    (flag userId : Option String) {toStringPretty : Value → String}
    {fromStr : String → Option Value}
    (hround : RoundTrips toStringPretty fromStr (reportValue (probes.collect path flag userId)))
    (h : ∀ r ∈ probes.collect path flag userId, Str.Inline r.detail.toList) :
    readReport (formatHuman (probes.collect path flag userId)) =
      probes.collect path flag userId ∧
    (fromStr (formatJson toStringPretty (probes.collect path flag userId))).bind readValue =
      some (probes.collect path flag userId) ∧
    ∃ rows summary, Str.lines (formatHuman (probes.collect path flag userId)).toList =
      rows ++ [summary] ∧ (Str.startsWith summary "doctor: failed (".toList = true ↔
        exitCode (probes.collect path flag userId) = 1) := by
  have hnames : ∀ name ∈ (probes.collect path flag userId).map (·.check),
      Str.Inline name.toList ∧ ' ' ∉ name.toList := by
    rw [probes.collect_checks path flag userId]
    decide
  have hline : ∀ r ∈ probes.collect path flag userId, r.OneLine := by
    intro r hr
    obtain ⟨hinline, hword⟩ := hnames r.check (List.mem_map_of_mem hr)
    exact ⟨hinline, hword, h r hr⟩
  have hjson : (fromStr (formatJson toStringPretty (probes.collect path flag userId))).bind
      readValue = some (probes.collect path flag userId) := by
    obtain ⟨v, hv, hsame⟩ := hround
    rw [formatJson, hv, Option.bind_some, readValue_congr hsame, readValue_reportValue]
  exact ⟨readReport_formatHuman hline, hjson, _, _, lines_formatHuman hline, summaryLine_failed⟩

/-- A machine without the config file. -/
def offline : Probes String Unit where
  readToString _ := .error "No such file or directory"
  fromToml _ := .ok {}
  resolveSecret _ := .error .missingClientKey
  newClient c := match c with
    | .withBaseUrl _ clientKey _ | .new _ _ clientKey _ => .ok clientKey
  lookupHost _ _ := .ok []
  showAddr _ := ""
  connect _ := none
  health _ := .ok ()
  getSessions _ _ _ := .ok ()
  cancelRequest _ _ _ := .ok ()

/-- The pretty printer on arrays of flat objects without characters to escape. -/
def prettyReport : Value → String
  | .array entries => "[\n" ++ ",\n".intercalate (entries.map prettyEntry) ++ "\n]"
  | _ => ""
where
  prettyEntry : Value → String
    | .object fields => "  \x7b\n" ++ ",\n".intercalate (fields.map fun field =>
        "    \"" ++ field.1 ++ "\": \"" ++ field.2.asStr.getD "" ++ "\"") ++ "\n  \x7d"
    | _ => ""

/-- The parser on the text of one report. -/
def parseReport (results : List CheckResult) (text : String) : Option Value :=
  if text = prettyReport (reportValue results) then some (reportValue results) else none

theorem parseReport_roundTrips (results : List CheckResult) :
    RoundTrips prettyReport (parseReport results) (reportValue results) :=
  ⟨_, if_pos rfl, _, _, rfl, rfl, List.forall₂_same.mpr fun _ _ _ => rfl⟩

theorem report_readable_offline :
    readReport (formatHuman (offline.collect "c.toml" none none)) =
      offline.collect "c.toml" none none ∧
    (parseReport (offline.collect "c.toml" none none)
      (formatJson prettyReport (offline.collect "c.toml" none none))).bind readValue =
      some (offline.collect "c.toml" none none) ∧
    ∃ rows summary, Str.lines (formatHuman (offline.collect "c.toml" none none)).toList =
      rows ++ [summary] ∧ (Str.startsWith summary "doctor: failed (".toList = true ↔
        exitCode (offline.collect "c.toml" none none) = 1) :=
  offline.report_readable "c.toml" none none (parseReport_roundTrips _) (by decide +kernel)

end AcpBridge
