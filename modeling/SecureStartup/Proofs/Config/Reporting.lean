import SecureStartup.Config.Report
import SecureStartup.Proofs.Config.Loaded
import SecureStartup.Proofs.Json.Refused

/-!
  What the configuration tool prints for programs.

  1. **Program** — with `--json` the tool (`_cli_main`) loads the configuration, reads its document once
     more, and prints the sections that were asked for (`_build_validation_output`,
     `_build_merged_config_output`).  `_handle_cli_error` prints a file that is not there and a
     wrong value as a document of their own.

  2. **Loading** goes on as it would without the tool, whose log is on the error stream
     (`report_json_on`), so nothing but the sections is on standard output.

  3. **What is printed** is read as the sections, with what comes back of the document (`shows_of_write`).
     That a configuration loads says little about its document: only one section of it was looked at, and
     it may hold anything that a document can.

  4. **What is not printed** — a document with something that JSON has no type for, such as a date.  The
     tool has no words for that failure, so it ESCAPES (`runReport_json_date`); for a number that is too
     long it has (`printJson_outcome`).

  `runReport_json` puts them together.
-/

namespace SecureStartup.Config

open SecureStartup.Text
open Json (HasOwnForm AllFinite Outcome Refused IsBrief IsTyped Written)
open Value (Throughout throughout_of_isAtom throughout_ofFields)

/-! ## The sections -/

/-- What is said of the validation. -/
def passedSection : Value := .ofFields [("passed", .bool true), ("errors", .list [])]

/-- The fields of the sections that are asked for. -/
def sectionFields (r : ReportRequest) (doc : Value) : List (String × Value) :=
  (if r.validate then [("validation", passedSection)] else [])
    ++ if r.showMerged then [("merged_config", doc)] else []

theorem jsonSections_eq (r : ReportRequest) (doc : Value) :
    jsonSections r doc = .ofFields (sectionFields r doc) := rfl

/-- What is asked of all sections is asked of the document, if that is shown. -/
theorem forall_sectionFields (r : ReportRequest) (doc : Value) {P : Value → Prop}
    (hpassed : P passedSection) :
    (∀ f ∈ sectionFields r doc, P f.2) ↔ (r.showMerged = true → P doc) := by
  unfold sectionFields
  cases r.validate <;> cases r.showMerged <;> simp [hpassed]

theorem hasOwnForm_passed : HasOwnForm passedSection := by
  refine Json.hasOwnForm_ofFields.mpr (List.forall_mem_cons.mpr ⟨?_, List.forall_mem_singleton.mpr ?_⟩)
  · exact (throughout_of_isAtom rfl).mpr trivial
  · exact .intro trivial nofun

theorem allFinite_passed : AllFinite passedSection := by
  refine Json.allFinite_ofFields.mpr (List.forall_mem_cons.mpr ⟨?_, List.forall_mem_singleton.mpr ?_⟩)
  · exact (throughout_of_isAtom rfl).mpr trivial
  · exact .intro trivial nofun

theorem image_passed : Json.image true passedSection = passedSection := by
  have husual : ∀ f ∈ [("passed", Value.bool true), ("errors", .list [])],
      ∀ c ∈ f.1.toList, IsUsual c :=
    List.forall_mem_cons.mpr ⟨usual_of_all rfl, List.forall_mem_singleton.mpr (usual_of_all rfl)⟩
  exact Json.image_ofFields true husual (by simp)

/-- **The sections come back** with what comes back of the document. -/
theorem image_sections (r : ReportRequest) (doc : Value) :
    Json.image true (jsonSections r doc) = jsonSections r (Json.image true doc) := by
  have husual : ∀ f ∈ sectionFields r doc, ∀ c ∈ f.1.toList, IsUsual c := by
    intro f hf
    unfold sectionFields at hf
    rcases List.mem_append.mp hf with h | h <;> split at h
    · rw [List.mem_singleton.mp h]
      exact (usual_of_all rfl : ∀ c ∈ "validation".toList, IsUsual c)
    · exact nomatch h
    · rw [List.mem_singleton.mp h]
      exact (usual_of_all rfl : ∀ c ∈ "merged_config".toList, IsUsual c)
    · exact nomatch h
  have hnodup : ((sectionFields r doc).map (·.1)).Nodup := by
    unfold sectionFields
    cases r.validate <;> cases r.showMerged <;> simp
  rw [jsonSections_eq, jsonSections_eq, Json.image_ofFields true husual hnodup]
  congr 1
  unfold sectionFields
  cases r.validate <;> cases r.showMerged <;> simp [image_passed]

/-- **A text shows the sections** of a document. -/
structure Shows (r : ReportRequest) (doc : Value) (text : String) : Prop where
  /-- Readers that accept infinite numbers read it, and others if none are to be shown. -/
  isSome : ∀ words, (Json.decode? words text).isSome = true ↔
    words = true ∨ (r.showMerged = true → AllFinite doc)
  /-- They read these sections and no others, with what comes back of the document. -/
  sections : ∀ words v, Json.decode? words text = some v →
    v = jsonSections r (Json.image true doc)

/-- A document that JSON has itself is shown as it is. -/
theorem Shows.plain {r : ReportRequest} {doc : Value} {text : String} (a : Shows r doc text)
    (hdoc : Json.IsPlain doc) (hpairs : Json.Unpaired doc) (words : Bool) :
    Json.decode? words text = some (jsonSections r doc) := by
  have hsome := (a.isSome words).mpr (.inr fun _ => hdoc.allFinite)
  obtain ⟨v, hv⟩ := Option.isSome_iff_exists.mp hsome
  rw [hv, a.sections words v hv, hdoc.image_eq fun _ => hpairs]

/-- A printed line is read as what was written. -/
theorem readIn_line {st : Json.Style} {v : Value} {text : String}
    (h : Written st v text.toList) (words : Bool) :
    Json.ReadIn st.ascii words v (Json.decode? words (text ++ "\n")) := by
  have hbreak : Json.Blank ['\n'] := List.forall_mem_singleton.mpr rfl
  have hdecode := h.decode? hbreak words
  rwa [String.ofList_append, String.ofList_toList] at hdecode

theorem shows_of_write {r : ReportRequest} {doc : Value} {text : String}
    (hwritten : Written Json.pretty (jsonSections r doc) text.toList)
    (hown : r.showMerged = true → HasOwnForm doc) : Shows r doc (text ++ "\n") := by
  have hread := readIn_line hwritten
  have hfinite : AllFinite (jsonSections r doc) ↔ (r.showMerged = true → AllFinite doc) :=
    Json.allFinite_ofFields.trans (forall_sectionFields r doc allFinite_passed)
  have hform : HasOwnForm (jsonSections r doc) :=
    Json.hasOwnForm_ofFields.mpr ((forall_sectionFields r doc hasOwnForm_passed).mpr hown)
  constructor
  · intro words
    rw [(hread words).isSome, hfinite]
  · intro words v hv
    exact ((hread words).image hform v hv).trans (image_sections r doc)

/-- A cause in the sections is one in the document. -/
theorem refused_of_sections {r : ReportRequest} {doc : Value} {e : Failure}
    (h : Refused (jsonSections r doc) e) : Refused doc e := by
  rw [jsonSections_eq] at h
  cases h with
  | tooLong h =>
    refine .tooLong fun hdoc => h (Json.isBrief_ofFields.mpr ?_)
    exact (forall_sectionFields r doc hasOwnForm_passed.isBrief).mpr fun _ => hdoc
  | untyped h =>
    refine .untyped fun hdoc => h (Json.isTyped_ofFields.mpr ?_)
    exact (forall_sectionFields r doc hasOwnForm_passed.isTyped).mpr fun _ => hdoc

/-! ## Printing -/

theorem printJson_on (st : Json.Style) (v : Value) (h : Host) :
    (printJson st v).on h = match Json.write st v with
      | .ok text => (.ok (), h.print (text ++ "\n"))
      | .error f => (.error f, h) := by
  unfold printJson
  cases Json.write st v <;> rfl

/-- **Printing the sections** shows them, or fails with a cause in the document. -/
theorem printJson_outcome (r : ReportRequest) (doc : Value) (g : Host) :
    ((r.showMerged = true → HasOwnForm doc) ∧ ∃ text, Shows r doc text ∧
      (printJson Json.pretty (jsonSections r doc)).on g = (.ok (), g.print text)) ∨
    (¬ (r.showMerged = true → HasOwnForm doc) ∧ ∃ e, Refused doc e ∧
      (printJson Json.pretty (jsonSections r doc)).on g = (.error e, g)) := by
  have hform : HasOwnForm (jsonSections r doc) ↔ (r.showMerged = true → HasOwnForm doc) :=
    Json.hasOwnForm_ofFields.trans (forall_sectionFields r doc hasOwnForm_passed)
  have hstyle : Json.pretty.fallback = .refuse := rfl
  have hwrite := Json.write_refusing hstyle (jsonSections r doc)
  rw [printJson_on]
  rcases hresult : Json.write Json.pretty (jsonSections r doc) with e | text <;> rw [hresult] at hwrite
  · cases hwrite with
    | error hnot _ =>
      have hcause := refused_of_sections (Json.refused_of_write hstyle hresult)
      exact .inr ⟨fun hown => hnot (hform.mpr hown), e, hcause, rfl⟩
  · cases hwrite with
    | ok hown hwritten =>
      exact .inl ⟨hform.mp hown, _, shows_of_write hwritten (hform.mp hown), rfl⟩

/-! ## A run of the tool -/

/-- The host on which the tool works: its log goes to the error stream. -/
def toolHost (verbose : Bool) (h : Host) : Host := ((useToolSink verbose).on h).2

theorem untouched_toolHost {h : Host} (hs : h.log.sinks = []) (verbose : Bool) :
    Untouched h (toolHost verbose h) := by
  have hsinks : (toolHost verbose h).log.sinks = [.tool] := by
    show (if h.log.sinks.isEmpty then [.tool] else h.log.sinks) = _
    rw [hs]
    rfl
  refine ⟨rfl, rfl, rfl, rfl, ?_⟩
  unfold Host.Quiet
  rw [hsinks]
  exact List.forall_mem_singleton.mpr rfl

/-- A configuration was read from a document. -/
theorem configurationAt_eq_ok {h : Host} {path : String} {c : AppConfig}
    (hc : configurationAt h path = .ok c) :
    existsAt h path = .ok true ∧ ∃ doc, documentAt h path = .ok doc := by
  unfold configurationAt at hc
  obtain ⟨there, hex, hc⟩ := Except.bind_eq_ok hc
  cases there with
  | false => exact nomatch hc
  | true =>
    obtain ⟨doc, hdoc, -⟩ := Except.bind_eq_ok hc
    exact ⟨hex, doc, hdoc⟩

/-- Where the file is does not depend on the log. -/
theorem resolvePath_of_logged {g g' : Host} (hq : g.Quiet) (hl : Host.Logged g g') (given : Value) :
    resolvePath given g' = resolvePath given g := by
  obtain ⟨err, made, rfl⟩ := hl.frame_of_quiet hq
  rfl

/-- A configuration that loads is the one that is found. -/
theorem configurationAt_of_load {h h' : Host} (hs : h.log.sinks = []) {given : Value} {c : AppConfig}
    (hload : (load given .none).on h = (.ok c, h')) :
    ∃ path, resolvePath given h = .ok path ∧ configurationAt h path = .ok c := by
  rcases hpath : resolvePath given h with f | path
  · have hfails : (load given .none).on h = (.error f, h) := by
      unfold load
      rw [Act.on_bind_ok (Act.on_get h), hpath]
      rfl
    exact nomatch hfails.symm.trans hload
  · obtain ⟨_, _, hfound⟩ := load_logs hs hpath
    exact ⟨path, rfl, congrArg Prod.fst (hfound.symm.trans hload)⟩

/-- **The tool's work**: it loads, and prints the sections on a host with some more log. -/
theorem report_json_on {h g : Host} (a : Untouched h g) {r : ReportRequest} {path : String}
    {c : AppConfig} (hpath : resolvePath r.config g = .ok path)
    (hc : configurationAt h path = .ok c) (hjson : r.json = true) :
    ∃ doc g₁, documentAt h path = .ok doc ∧ Host.Logged g g₁ ∧
      (report r).on g = (printJson Json.pretty (jsonSections r doc)).on g₁ := by
  obtain ⟨hex, doc, hdoc⟩ := configurationAt_eq_ok hc
  obtain ⟨g₁, hlogged, hload⟩ := load_logs_of_untouched a hpath
  have a₁ := a.logged hlogged
  rw [hc] at hload
  rw [← resolvePath_of_logged a.quiet hlogged] at hpath
  obtain ⟨⟨written, sharing⟩, hshared, hexpanded⟩ := Except.bind_eq_ok hdoc
  have hread : (readShared path).on g₁ = (.ok (written, sharing), g₁) := by
    rw [readShared_on (by rw [a₁.existsAt, hex]), a₁.sharedAt, hshared]
  have hresolved : (Act.ofExcept (resolvePath r.config g₁)).on g₁ = (.ok path, g₁) := by
    rw [Act.on_ofExcept, hpath]
  have hexpand : (Act.ofExcept (expandDocument g₁.env? written)).on g₁ = (.ok doc, g₁) := by
    rw [Act.on_ofExcept, a₁.env?]
    exact congrArg (·, g₁) hexpanded
  refine ⟨doc, g₁, hdoc, hlogged, ?_⟩
  unfold report
  rw [Act.on_bind_ok hload, Act.on_bind_ok (Act.on_get g₁), Act.on_bind_ok hresolved,
    Act.on_bind_ok hread, Act.on_bind_ok (Act.on_get g₁), Act.on_bind_ok hexpand]
  simp only [if_pos hjson]

/-- A document with nothing but what is wrong. -/
def errorDocument (text : String) : Value := .ofFields [("error", .str text)]

/-- An error is printed as a document, if its text has usual characters. -/
theorem printJson_error {text : String} (htext : ∀ c ∈ text.toList, IsUsual c) (g : Host) :
    ∃ line, (printJson Json.plain (errorDocument text)).on g = (.ok (), g.print line) ∧
      Json.decode? false line = some (errorDocument text) := by
  have hown : HasOwnForm (errorDocument text) := Json.hasOwnForm_ofFields.mpr
    (List.forall_mem_singleton.mpr ((throughout_of_isAtom rfl).mpr trivial))
  have hfinite : AllFinite (errorDocument text) := Json.allFinite_ofFields.mpr
    (List.forall_mem_singleton.mpr ((throughout_of_isAtom rfl).mpr trivial))
  have himage : Json.image true (errorDocument text) = errorDocument text := by
    have hname : ∀ f ∈ [("error", Value.str text)], ∀ c ∈ f.1.toList, IsUsual c :=
      List.forall_mem_singleton.mpr (usual_of_all rfl : ∀ c ∈ "error".toList, IsUsual c)
    rw [errorDocument, Json.image_ofFields true hname (by simp)]
    show Value.ofFields [("error", Json.respelled true text.toList)] = _
    rw [Json.respelled_of_usual true htext]
  have hstyle : Json.plain.fallback = .refuse := rfl
  have hwrite := Json.write_refusing hstyle (errorDocument text)
  rw [printJson_on]
  revert hwrite
  generalize Json.write Json.plain (errorDocument text) = written
  rintro (⟨-, hwritten⟩ | ⟨hnot, -⟩)
  · have hread := readIn_line hwritten false
    obtain ⟨v, hv⟩ := Option.isSome_iff_exists.mp (hread.isSome.mpr (.inr hfinite))
    obtain rfl : v = errorDocument text := (hread.image hown v hv).trans himage
    exact ⟨_, rfl, hv⟩
  · exact absurd hown hnot

/-- What is said of a number that is too long. -/
def tooLongText : String := s!"Validation error: {Invalid.numberTooLong.message}"

/-- **The tool has words for a number that is too long**: it prints them as a document. -/
theorem printFailure_tooLong {r : ReportRequest} (hjson : r.json = true) (g : Host) :
    ∃ line, (printFailure r "Validation error" (.invalid .numberTooLong)).on g =
      (.ok (), g.print line) ∧ Json.decode? false line = some (errorDocument tooLongText) := by
  have husual : ∀ c ∈ tooLongText.toList, IsUsual c := usual_of_all (by decide +kernel)
  have hprint : (printFailure r "Validation error" (.invalid .numberTooLong)).on g =
      (printJson Json.plain (errorDocument tooLongText)).on g := by
    have hlabel : ("Validation error" == "Error") = false := by decide
    have htext : (Act.ofExcept (Failure.text g.words (.invalid .numberTooLong))).on g =
        (.ok Invalid.numberTooLong.message, g) := rfl
    unfold printFailure
    rw [Act.on_bind_ok (Act.on_get g), Act.on_bind_ok htext]
    simp only [if_pos hjson, hlabel]
    rfl
  rw [hprint]
  exact printJson_error husual g

/-- What the tool makes of a failure. -/
def handleFailure (r : ReportRequest) (f : Failure) : Act Nat :=
  if f.isMissingFile then do
    printFailure r "Error" f
    return 1
  else if f.isInvalid then do
    printFailure r "Validation error" f
    return 1
  else throw f

theorem runReport_on {argv : List String} {h : Host} {r : ReportRequest}
    (hargs : (readReportRequest argv).on h = (.ok r, h))
    (hasked : r.validate = true ∨ r.showMerged = true) :
    (runReport argv).on h =
      match (report r).on (toolHost r.verbose h) with
      | (.ok _, g) => (.ok 0, g)
      | (.error f, g) => (handleFailure r f).on g := by
  have htool : (useToolSink r.verbose).on h = (.ok (), toolHost r.verbose h) := rfl
  have hnot : ¬ (!r.validate && !r.showMerged) = true := by
    rcases hasked with h | h <;> simp [h]
  unfold runReport
  rw [Act.on_bind_ok hargs, Act.on_bind_ok htool]
  simp only [if_neg hnot]
  rw [Act.on_tryCatch, Act.on_bind]
  rcases (report r).on (toolHost r.verbose h) with ⟨f | _, g⟩ <;> rfl

/-- A number that is too long is said to be, with status 1. -/
theorem handleFailure_tooLong {r : ReportRequest} (hjson : r.json = true) (g : Host) :
    ∃ line, (handleFailure r (.invalid .numberTooLong)).on g = (.ok 1, g.print line) ∧
      Json.decode? false line = some (errorDocument tooLongText) := by
  obtain ⟨line, hprinted, hread⟩ := printFailure_tooLong hjson g
  refine ⟨line, ?_, hread⟩
  show (printFailure r "Validation error" (.invalid .numberTooLong) >>= fun _ => pure 1 :
    Act Nat).on g = _
  rw [Act.on_bind_ok hprinted]
  rfl

/-- **What the tool prints as JSON**, of every document and in every environment in which the
    configuration loads.  If the sections that are asked for have a form in JSON, it ends well, and
    standard output is one document with these sections; readers of JSON proper can read it unless it
    has infinite numbers to show.  Else it is refused: what JSON has no type for lets a failure ESCAPE
    and nothing is printed, and a number that is too long gives status 1 and a document that says so. -/
theorem runReport_json {argv : List String} {h h' : Host} {r : ReportRequest} {c : AppConfig}
    (hs : h.log.sinks = []) (hargs : (readReportRequest argv).on h = (.ok r, h))
    (hjson : r.json = true) (hasked : r.validate = true ∨ r.showMerged = true)
    (hload : (load r.config .none).on h = (.ok c, h')) :
    ∃ path doc g, resolvePath r.config h = .ok path ∧ documentAt h path = .ok doc ∧
      ((r.showMerged = true → HasOwnForm doc) → ∃ text, (runReport argv).on h = (.ok 0, g) ∧
        g.out = h.out ++ text ∧ Shows r doc text) ∧
      (r.showMerged = true → ¬ HasOwnForm doc →
        (¬ Throughout IsTyped doc ∧ (runReport argv).on h = (.error (.mismatch .wrongType), g) ∧
          g.out = h.out) ∨
        (¬ Throughout IsBrief doc ∧ ∃ text, (runReport argv).on h = (.ok 1, g) ∧
          g.out = h.out ++ text ∧ Json.decode? false text = some (errorDocument tooLongText))) := by
  have a := untouched_toolHost hs r.verbose
  obtain ⟨path, hpath, hc⟩ := configurationAt_of_load hs hload
  obtain ⟨doc, g, hdoc, hlogged, hreport⟩ := report_json_on a hpath hc hjson
  -- The log goes to the error stream, so nothing has come to standard output before the sections do.
  have hout : g.out = h.out := by
    obtain ⟨err, made, rfl⟩ := hlogged.frame_of_quiet a.quiet
    rfl
  have hprints : ∀ text, (g.print text).out = h.out ++ text := by
    intro text
    rw [← hout]
    rfl
  rw [runReport_on hargs hasked, hreport]
  refine ⟨path, doc, ?_⟩
  -- From here on there is one question: has what is printed a form of its own?
  rcases printJson_outcome r doc g with ⟨hown, text, hshows, hprinted⟩ | ⟨hown, e, hcause, hfailed⟩
  · rw [hprinted]
    exact ⟨g.print text, hpath, hdoc, fun _ => ⟨text, rfl, hprints text, hshows⟩,
      fun hshown hnot => absurd (hown hshown) hnot⟩
  · rw [hfailed]
    cases hcause with
    | untyped hcause =>
      exact ⟨g, hpath, hdoc, fun h => absurd h hown, fun _ _ => .inl ⟨hcause, rfl, hout⟩⟩
    | tooLong hcause =>
      obtain ⟨line, hended, hread⟩ := handleFailure_tooLong hjson g
      exact ⟨g.print line, hpath, hdoc, fun h => absurd h hown, fun _ _ =>
        .inr ⟨hcause, line, hended, hprints line, hread⟩⟩

/-! ### A date -/

/-- A configuration, and a date that the loader never looks at. -/
def dayText : String := "appmaster:\n  cluster_name: analytics\nday: 2026-01-05\n"

/-- The command line that asks for the whole document as JSON. -/
def mergedArgv : List String := ["--config", "/c.yaml", "--show-merged", "--json"]

/-- What it asks for. -/
def mergedRequest : ReportRequest := ⟨false, true, .path "/c.yaml", true, false⟩

/-- What is in the file. -/
def dayDocument : Value :=
  .ofFields [("appmaster", .ofFields [("cluster_name", .str "analytics")]), ("day", .date ⟨2026, 1, 5⟩)]

/-- The date has no form of its own. -/
theorem not_hasOwnForm_day : ¬ HasOwnForm dayDocument := by
  intro h
  have hday := Json.hasOwnForm_ofFields.mp h ("day", .date ⟨2026, 1, 5⟩) (by simp)
  exact hday.own

/-- There is no number in the document. -/
theorem isBrief_day : Throughout IsBrief dayDocument := by
  have hatom : ∀ {v : Value}, v.isAtom = true → IsBrief v → Throughout IsBrief v := fun hv =>
    (throughout_of_isAtom hv).mpr
  have hname : Throughout IsBrief (.ofFields [("cluster_name", .str "analytics")]) :=
    Json.isBrief_ofFields.mpr (List.forall_mem_singleton.mpr (hatom rfl trivial))
  exact Json.isBrief_ofFields.mpr (List.forall_mem_cons.mpr
    ⟨hname, List.forall_mem_singleton.mpr (hatom rfl trivial)⟩)

/-- A document with a name in one section and a date beside it: its keys and values.  These can be
    compared by evaluation, where documents cannot. -/
def dayParts : Value → Option (String × String × String × String × Date)
  | .map [(.str a, .map [(.str b, .str c)]), (.str d, .date t)] => some (a, b, c, d, t)
  | _ => none

theorem eq_of_dayParts {v : Value} {a b c d : String} {t : Date}
    (h : dayParts v = some (a, b, c, d, t)) :
    v = .ofFields [(a, .ofFields [(b, .str c)]), (d, .date t)] := by
  unfold dayParts at h
  split at h
  · cases h
    rfl
  · exact nomatch h

theorem day_documentAt : documentAt (hostWith [] dayText) "/c.yaml" = .ok dayDocument := by
  have hparts : (documentAt (hostWith [] dayText) "/c.yaml").toOption.bind dayParts =
      some ("appmaster", "cluster_name", "analytics", "day", ⟨2026, 1, 5⟩) := by
    unfold documentAt
    rw [hostWith_sharedAt]
    decide +kernel
  rcases hdoc : documentAt (hostWith [] dayText) "/c.yaml" with f | doc <;> rw [hdoc] at hparts
  · exact nomatch hparts
  · exact congrArg Except.ok (eq_of_dayParts hparts)

theorem day_loads :
    ∃ c h', (load mergedRequest.config .none).on (hostWith [] dayText) = (.ok c, h') := by
  have hpath : resolvePath mergedRequest.config (hostWith [] dayText) = .ok "/c.yaml" :=
    hostWith_file [] dayText
  obtain ⟨g, _, hload⟩ := load_logs (h := hostWith [] dayText) rfl hpath
  have hok : (configurationAt (hostWith [] dayText) "/c.yaml").isOk = true := by
    unfold configurationAt
    rw [hostWith_exists, day_documentAt]
    decide +kernel
  rcases hc : configurationAt (hostWith [] dayText) "/c.yaml" with f | c <;> rw [hc] at hok hload
  · exact nomatch hok
  · exact ⟨c, g, hload⟩

/-- The configuration loads, and the tool ends without a status and without a word. -/
theorem runReport_json_date : (readReportRequest mergedArgv).on (hostWith [] dayText) =
      (.ok mergedRequest, hostWith [] dayText) ∧
    (∃ c h', (load mergedRequest.config .none).on (hostWith [] dayText) = (.ok c, h')) ∧
    ∃ g, (runReport mergedArgv).on (hostWith [] dayText) = (.error (.mismatch .wrongType), g) ∧
      g.out = "" := by
  have hargs : (readReportRequest mergedArgv).on (hostWith [] dayText) =
      (.ok mergedRequest, hostWith [] dayText) := rfl
  obtain ⟨c, h', hload⟩ := day_loads
  obtain ⟨path, doc, g, hpath, hdoc, -, hrefused⟩ :=
    runReport_json rfl hargs rfl (.inr rfl) hload
  have hfile : resolvePath mergedRequest.config (hostWith [] dayText) = .ok "/c.yaml" :=
    hostWith_file [] dayText
  obtain rfl : "/c.yaml" = path := Except.ok.inj (hfile.symm.trans hpath)
  obtain rfl : dayDocument = doc := Except.ok.inj (day_documentAt.symm.trans hdoc)
  rcases hrefused rfl not_hasOwnForm_day with ⟨-, hrun, hout⟩ | ⟨hlong, -⟩
  · exact ⟨hargs, ⟨c, h', hload⟩, g, hrun, hout⟩
  · exact absurd isBrief_day hlong

end SecureStartup.Config
