import SecureStartup.Proofs.Failure.Reason
import SecureStartup.Proofs.Host.Logging
import SecureStartup.Proofs.Log.Line
import SecureStartup.Proofs.Log.Redaction
import SecureStartup.Startup.Run

/-!
  Credentials in the address of a store in HDFS, and the lines of the log.

  Program: `WebHdfsFileSystem.copy_to_local` logs the address under `shared_fs_url`, and makes an `OSError`
  of every error of its client (`HdfsError`), with the address in its text; `log_exception` and `JSONFormatter` write
  the lines.

  Two runs of a copy are compared, by stores whose addresses differ in the value of one sensitive
  parameter and whose clients give the same answers.  `HdfsStore.copy_lines` says what the log tells
  apart:

  1. The records of the copy itself have the same lines.  The address is in one field only, and that
     field is redacted (`jsonLine_downloadRecord`).
  2. A failure has the address in its TEXT, as it is (`unable`).  The line that the program logs for
     it holds the text twice, in `error_message` and in `exception`, and neither is redacted; all
     other members are the same (`entry_setupRecord`).  So these lines agree for equal values alone.
-/

namespace SecureStartup

open SecureStartup.Log

namespace Store

/-! ## The record of a download -/

/-- The record of a download. -/
def downloadRecord (remote target url : String) : Record :=
  { logger := "core.storage.webhdfs", level := Log.debug, message := "Downloaded file from WebHDFS"
    file := "core.storage.webhdfs"
    extras := [(.str "remote_path", .str remote), (.str "keytab_path", .str target),
      (.str "shared_fs", .str "webhdfs"), (.str "shared_fs_url", .str url)] }

theorem writtenFields_downloadRecord (remote target url : String) :
    writtenFields (downloadRecord remote target url) = .ok
      [("keytab_path", .str target), ("remote_path", .str (redactUrl remote)),
       ("shared_fs", .str "webhdfs"), ("shared_fs_url", .str (redactUrl url))] := by
  have hfields : (downloadRecord remote target url).fields =
      [("keytab_path", .str target), ("remote_path", .str remote), ("shared_fs", .str "webhdfs"),
       ("shared_fs_url", .str url)] := by
    unfold Record.fields fieldNames downloadRecord
    -- name by name, before a field is looked up
    simp only [List.filterMap_cons, List.filterMap_nil]
    simp [Entries.field_cons_str, Entries.field_nil]
  unfold writtenFields
  rw [hfields]
  rfl

/-- **The line of a download** is the same for all values of a sensitive parameter. -/
theorem jsonLine_downloadRecord (now : DateTime) (c : Context) (remote target : String)
    (p : Parameter) {v w : List Char} (hv : '&' ∉ v) (hw : '&' ∉ w) :
    jsonLine now c (downloadRecord remote target (p.url v)) =
      jsonLine now c (downloadRecord remote target (p.url w)) := by
  have hentry : entry now c (downloadRecord remote target (p.url v)) =
      entry now c (downloadRecord remote target (p.url w)) := by
    have htold : ∀ url, (downloadRecord remote target url).trouble.IsTold := fun _ => trivial
    rw [entry_eq now c (writtenFields_downloadRecord remote target (p.url v)) (htold _),
      entry_eq now c (writtenFields_downloadRecord remote target (p.url w)) (htold _),
      redactUrl_url p hv hw]
    rfl
  unfold jsonLine
  rw [hentry]

/-! ## The record of a failure -/

/-- The text for a failure of the client: it has the address, and why. -/
def unableText (what remote url why : String) : String :=
  s!"Unable to {what} {remote} from {url}: {why}"

/-- **What a failure of the client becomes**: a system failure with the address in its text. -/
def unable (what remote url why : String) : Failure :=
  .systemText "OSError" (unableText what remote url why)

/-- The record that the program logs of a system failure with a text of its own. -/
def setupRecord (text : String) : Record :=
  { logger := Startup.logger, level := Log.error, message := "Security setup failed"
    file := Startup.logger, trouble := .failure (.systemText "OSError" text) (.ok text)
    extras := Call.permitted
      (Call.withText (.systemText "OSError" text) text [(.str "exit_code", .int 74)]) }

/-- **The program reports a failure** with its exit code, by logging this record. -/
def ReportedBy (f : Failure) (r : Record) : Prop :=
  ∃ code, Startup.codeOf? f = some code ∧ ∀ g,
    (Startup.logFailure f "Security setup failed" true [(.str "exit_code", .int code)]).on g =
      (.ok ⟨⟩, g.logRecord r)

theorem unable_reported (what remote url why : String) :
    ReportedBy (unable what remote url why) (setupRecord (unableText what remote url why)) := by
  refine ⟨74, rfl, fun g => ?_⟩
  let text := unableText what remote url why
  have hcategory : Call.withCategory (.systemText "OSError" text) [(.str "exit_code", .int 74)] =
      .ok [(.str "exit_code", .int 74)] := by
    unfold Call.withCategory
    rw [Entries.field_cons_str, if_neg (by decide), Entries.field_nil]
    rfl
  have hcall : Call.ofFailure g.words (.systemText "OSError" text) (.str "Security setup failed")
      (.int Log.error) true [(.str "exit_code", .int 74)] =
        .ok ⟨.int Log.error, .str "Security setup failed", (setupRecord text).extras,
          .failure (.systemText "OSError" text) text⟩ := by
    unfold Call.ofFailure
    rw [hcategory, Failure.text_systemText]
    rfl
  unfold Startup.logFailure
  rw [Act.on_bind_ok (Act.on_get g)]
  show (perform ((Call.ofFailure g.words (.systemText "OSError" text) (.str "Security setup failed")
    (.int Log.error) true [(.str "exit_code", .int 74)]).bind (·.record Startup.logger))).on g = _
  rw [hcall]
  rfl

/-- What a line has of a system failure with a text of its own. -/
def toldFields (text : String) : List (String × Value) :=
  [("error_message", .str (Call.cutText text)), ("error_type", .str "OSError"),
   ("exit_code", .int 74),
   ("exception", .ofFields [("type", .str "OSError"), ("message", .str text),
     ("stacktrace", .str traceback)])]

/-- The same as members of the line. -/
def told (text : String) : Entries := (toldFields text).map fun f => (.str f.1, f.2)

theorem setupRecord_extras (text : String) :
    (setupRecord text).extras =
      [(.str "exit_code", .int 74), (.str "error_message", .str (Call.cutText text)),
       (.str "error_type", .str "OSError")] := by
  have hname : (Failure.systemText "OSError" text).name = "OSError" := rfl
  simp [setupRecord, Call.permitted, Call.withText, isReserved, reservedNames, hname,
    Value.same_str, Entries.insert]

theorem writtenFields_setupRecord (text : String) :
    writtenFields (setupRecord text) = .ok
      [("error_message", .str (Call.cutText text)), ("error_type", .str "OSError"),
       ("exit_code", .int 74)] := by
  have hfields : (setupRecord text).fields =
      [("error_message", .str (Call.cutText text)), ("error_type", .str "OSError"),
       ("exit_code", .int 74)] := by
    unfold Record.fields
    rw [setupRecord_extras]
    simp [fieldNames, Entries.field_cons_str, Entries.field_nil]
  unfold writtenFields
  rw [hfields]
  rfl

/-- **The line of a failure** has its text as it is: the start is the same whatever the text is, and
    what is told of the failure follows. -/
theorem entry_setupRecord (now : DateTime) (c : Context) (text : String) :
    entry now c (setupRecord text) =
      .ok (lineStart now c (setupRecord "") ++ told text) := by
  rw [entry_eq now c (writtenFields_setupRecord text) ⟨text, rfl⟩]
  refine congrArg Except.ok ((lineStart_within now c _).foldl_insert (toldFields text) ?_ ?_)
  · simp [toldFields, startNames]
  · simp [toldFields]

/-! ## One run -/

/-- **A client's part in a copy**: its answer to the download, and to the deletion whatever has been
    logged by then.  It logs nothing itself, and its failures are its own. -/
structure HdfsClient.Answers (client : HdfsClient) (remote target : String) (h : Host)
    (download delete : Except Failure Unit) : Prop where
  answers : ∃ h₁, (client.download remote target).on h = (download, h₁) ∧ h₁.log = h.log ∧
    ∀ g, Host.Logged h₁ g → ∃ g', (client.delete remote).on g = (delete, g') ∧ g'.log = g.log
  own : ∀ f, download = .error f ∨ delete = .error f → isClientFailure f = true

/-- What is reported of a failure of the client: that it happened and why, or else why that cannot be
    said. -/
def reportedAs (what remote url : String) (f : Failure) : Failure :=
  match f.text Failure.name with
  | .ok why => unable what remote url why
  | .error g => g

/-- The outcome of a copy by the answers of the client. -/
def copyOutcome (remote url : String) (deleteSource : Bool) (download delete : Except Failure Unit) :
    Except Failure Unit :=
  match download with
  | .error f => .error (reportedAs "copy" remote url f)
  | .ok _ => if deleteSource then delete.mapError (reportedAs "delete" remote url) else .ok ⟨⟩

/-- The records of a copy: a download that went well. -/
def copyRecords (remote target url : String) (download : Except Failure Unit) : List Record :=
  match download with
  | .error _ => []
  | .ok _ => [downloadRecord remote target url]

/-- The text of a failure of the client is its own. -/
theorem text_of_client {f : Failure} (hf : isClientFailure f = true) (words words' : Failure → String) :
    f.text words = f.text words' := by
  unfold isClientFailure at hf
  split at hf
  · rfl
  · rfl
  · exact nomatch hf

theorem reported_answer (what remote url : String) {act : Act Unit} {h h' : Host}
    {r : Except Failure Unit} (ha : act.on h = (r, h'))
    (hown : ∀ f, r = .error f → isClientFailure f = true) :
    (reported what remote (.str url) act).on h = (r.mapError (reportedAs what remote url), h') := by
  unfold reported
  rw [Act.on_tryCatch, ha]
  cases r with
  | ok _ => rfl
  | error f =>
    have hplace : (Act.ofExcept (Value.str url).written).on h' = (.ok url, h') := by
      rw [Act.on_ofExcept, Value.written_ok rfl]
      rfl
    show (if isClientFailure f then _ else _ : Act Unit).on h' = (.error (reportedAs what remote url f), h')
    rw [if_pos (hown f rfl), Act.on_bind_ok hplace, Act.on_bind_ok (Act.on_get h'), Act.on_bind,
      Act.on_ofExcept, text_of_client (hown f rfl) h'.words Failure.name]
    unfold reportedAs
    rcases f.text Failure.name with g | why <;> rfl

theorem records_logRecord (h : Host) (r : Record) : (h.logRecord r).records = h.records ++ [r] := by
  obtain ⟨_, _, _, hr⟩ := h.logRecord_frame r
  rw [hr]
  simp [Host.records]

/-- **A copy** ends and logs as the client's answers say. -/
theorem HdfsStore.copy_run {s : HdfsStore} {url remote target : String} {h : Host}
    {download delete : Except Failure Unit} (hurl : s.url = .str url)
    (ha : s.client.Answers remote target h download delete) (deleteSource : Bool) :
    ((s.copy remote target deleteSource).on h).1 =
        copyOutcome remote url deleteSource download delete ∧
      ((s.copy remote target deleteSource).on h).2.records =
        h.records ++ copyRecords remote target url download := by
  obtain ⟨h₁, hdown, hlog, hdel⟩ := ha.answers
  have hrecords : h₁.records = h.records := by rw [Host.records, hlog, Host.records]
  have hfirst := reported_answer "copy" remote url hdown fun f hf => ha.own f (.inl hf)
  unfold HdfsStore.copy
  rw [hurl]
  cases download with
  | error f =>
    rw [Act.on_bind_error hfirst]
    exact ⟨rfl, by simp [copyRecords, hrecords]⟩
  | ok _ =>
    rw [Act.on_bind_ok hfirst]
    have hmade : ∀ k : Unit → Act Unit, (Act.log "core.storage.webhdfs" Log.debug
        "Downloaded file from WebHDFS" [("remote_path", .str remote), ("keytab_path", .str target),
          ("shared_fs", .str "webhdfs"), ("shared_fs_url", .str url)] >>= k).on h₁ =
        (k ⟨⟩).on (h₁.logRecord (downloadRecord remote target url)) := fun k => rfl
    rw [hmade]
    -- The source is deleted after the download is logged, so what the deletion answers comes last.
    cases deleteSource with
    | false =>
      refine ⟨rfl, ?_⟩
      show (h₁.logRecord _).records = _
      rw [records_logRecord, hrecords]
      rfl
    | true =>
      obtain ⟨g, hg, hglog⟩ := hdel (h₁.logRecord (downloadRecord remote target url)) ⟨[_], rfl⟩
      show ((reported "delete" remote (.str url) (s.client.delete remote)).on _).1 = _ ∧
        ((reported "delete" remote (.str url) (s.client.delete remote)).on _).2.records = _
      rw [reported_answer "delete" remote url hg fun f hf => ha.own f (.inr hf)]
      refine ⟨rfl, ?_⟩
      show g.records = _
      have hsame : g.records = (h₁.logRecord (downloadRecord remote target url)).records := by
        rw [Host.records, hglog, Host.records]
      rw [hsame, records_logRecord, hrecords]
      rfl

/-- A copy ends well for every address, or fails for every address in the same way: since the client's
    failure has no text, or with a report. -/
theorem copyOutcome_cases (remote : String) (deleteSource : Bool)
    (download delete : Except Failure Unit) :
    (∀ url, copyOutcome remote url deleteSource download delete = .ok ⟨⟩) ∨
      (∃ f g, (download = .error f ∨ delete = .error f) ∧ f.text Failure.name = .error g ∧
        ∀ url, copyOutcome remote url deleteSource download delete = .error g) ∨
      ∃ what why, ∀ url,
        copyOutcome remote url deleteSource download delete = .error (unable what remote url why) := by
  have hreport : ∀ what f,
      (∃ g, f.text Failure.name = .error g ∧ ∀ url, reportedAs what remote url f = g) ∨
        ∃ why, ∀ url, reportedAs what remote url f = unable what remote url why := by
    intro what f
    unfold reportedAs
    rcases f.text Failure.name with g | why
    · exact .inl ⟨g, rfl, fun _ => rfl⟩
    · exact .inr ⟨why, fun _ => rfl⟩
  cases download with
  | error f =>
    rcases hreport "copy" f with ⟨g, htext, hg⟩ | ⟨why, hwhy⟩
    · exact .inr (.inl ⟨f, g, .inl rfl, htext, fun url => congrArg Except.error (hg url)⟩)
    · exact .inr (.inr ⟨"copy", why, fun url => congrArg Except.error (hwhy url)⟩)
  | ok _ =>
    cases deleteSource with
    | false => exact .inl fun _ => rfl
    | true =>
      cases delete with
      | ok _ => exact .inl fun _ => rfl
      | error f =>
        rcases hreport "delete" f with ⟨g, htext, hg⟩ | ⟨why, hwhy⟩
        · exact .inr (.inl ⟨f, g, .inr rfl, htext, fun url => congrArg Except.error (hg url)⟩)
        · exact .inr (.inr ⟨"delete", why, fun url => congrArg Except.error (hwhy url)⟩)

/-! ## Two runs -/

/-- The texts of two failures are the same for the same address only. -/
theorem unableText_inj {what remote url other why : String}
    (h : unableText what remote url why = unableText what remote other why) : url = other := by
  have hlist := congrArg String.toList h
  unfold unableText at hlist
  simp only [String.toList_append] at hlist
  -- what stands before and behind the address is the same
  have haddress := List.append_cancel_right (List.append_cancel_right hlist)
  exact String.toList_inj.mp (List.append_cancel_left haddress)

/-- What is told of two failures is the same for the same text only. -/
theorem told_inj {text text' : String} (h : told text = told text') : text = text' := by
  simp [told, toldFields, Value.ofFields] at h
  exact h.2

/-- **What the log tells apart.**  The stores' addresses differ in the value of one sensitive
    parameter, and their clients give the same answers.  Then the records of the copies have the same
    lines, and both copies go well or both fail, with one failure that does not know the addresses or
    with a report each.  The program logs the two reports with records whose lines begin alike and go on
    with what is told of the failure, the address as it is; so these lines are the same for the same
    value only. -/
theorem HdfsStore.copy_lines (p : Parameter) (store : List Char → HdfsStore)
    (hurl : ∀ v, (store v).url = .str (p.url v)) {remote target : String} {h : Host}
    {download delete : Except Failure Unit}
    (ha : ∀ v, (store v).client.Answers remote target h download delete) (deleteSource : Bool)
    (now : DateTime) (c : Context) {v w : List Char} (hv : '&' ∉ v) (hw : '&' ∉ w) :
    (∃ rs rs', (((store v).copy remote target deleteSource).on h).2.records = h.records ++ rs ∧
      (((store w).copy remote target deleteSource).on h).2.records = h.records ++ rs' ∧
      rs.map (jsonLine now c) = rs'.map (jsonLine now c)) ∧
    ((((store v).copy remote target deleteSource).on h).1 = .ok ⟨⟩ ∧
        (((store w).copy remote target deleteSource).on h).1 = .ok ⟨⟩ ∨
      (∃ f g, (download = .error f ∨ delete = .error f) ∧ f.text Failure.name = .error g ∧
        (((store v).copy remote target deleteSource).on h).1 = .error g ∧
        (((store w).copy remote target deleteSource).on h).1 = .error g) ∨
      ∃ what why r r' start,
        (((store v).copy remote target deleteSource).on h).1 =
          .error (unable what remote (p.url v) why) ∧
        (((store w).copy remote target deleteSource).on h).1 =
          .error (unable what remote (p.url w) why) ∧
        ReportedBy (unable what remote (p.url v) why) r ∧
        ReportedBy (unable what remote (p.url w) why) r' ∧
        entry now c r = .ok (start ++ told (unableText what remote (p.url v) why)) ∧
        entry now c r' = .ok (start ++ told (unableText what remote (p.url w) why)) ∧
        (entry now c r = entry now c r' ↔ v = w)) := by
  obtain ⟨hv₁, hv₂⟩ := HdfsStore.copy_run (hurl v) (ha v) deleteSource
  obtain ⟨hw₁, hw₂⟩ := HdfsStore.copy_run (hurl w) (ha w) deleteSource
  rw [hv₁, hw₁]
  constructor
  · refine ⟨_, _, hv₂, hw₂, ?_⟩
    cases download with
    | error f => rfl
    | ok _ =>
      -- the line of the download passes the URL through the redaction, which erases the parameter
      show [jsonLine now c (downloadRecord remote target (p.url v))] = [jsonLine now c _]
      rw [jsonLine_downloadRecord now c remote target p hv hw]
  · rcases copyOutcome_cases remote deleteSource download delete with
      hok | ⟨f, g, hfrom, htext, herror⟩ | ⟨what, why, herror⟩
    · exact .inl ⟨hok _, hok _⟩
    · exact .inr (.inl ⟨f, g, hfrom, htext, herror _, herror _⟩)
    -- the message of the failure is written as it stands, with the URL in it
    · have hline : ∀ url, entry now c (setupRecord (unableText what remote url why)) =
          .ok (lineStart now c (setupRecord "") ++ told (unableText what remote url why)) :=
        fun url => entry_setupRecord now c _
      refine .inr (.inr ⟨what, why, _, _, _, herror _, herror _,
        unable_reported what remote (p.url v) why, unable_reported what remote (p.url w) why,
        hline _, hline _, ?_⟩)
      rw [hline, hline]
      constructor
      · intro h
        have htold := List.append_cancel_left (Except.ok.inj h)
        exact p.url_inj.mp (unableText_inj (told_inj htold))
      · rintro rfl
        rfl

/-- A client that gives prepared answers. -/
def HdfsClient.prepared (download delete : Except Failure Unit) : HdfsClient where
  name := "PreparedClient"
  download _ _ := Act.ofExcept download
  delete _ := Act.ofExcept delete

theorem HdfsClient.prepared_answers {download delete : Except Failure Unit}
    (hown : ∀ f, download = .error f ∨ delete = .error f → isClientFailure f = true)
    (remote target : String) (h : Host) :
    (HdfsClient.prepared download delete).Answers remote target h download delete :=
  ⟨⟨h, Act.on_ofExcept download h, rfl, fun g _ => ⟨g, Act.on_ofExcept delete g, rfl⟩⟩, hown⟩

/-- The parameter of `http://nn:9870/?token=VALUE`. -/
def tokenParameter : Parameter where
  before := "http://nn:9870/".toList
  delimiter := '?'
  name := "token".toList
  after := []
  delimits := .inl rfl
  sensitive := ⟨"token".toList, by decide, by decide⟩
  ends := .inl rfl

/-- The failure of a client that is refused. -/
def denied : Failure := .foreign "HdfsError" [.str "denied"] none none

/-- A store with a token in its address and a client that is refused. -/
def deniedStore (token : List Char) : HdfsStore :=
  ⟨.str (tokenParameter.url token), .none, .str "/r", .prepared (.error denied) (.ok ⟨⟩)⟩

/-- **Two tokens, two lines**: a download that the service refuses is logged with the token. -/
theorem HdfsStore.copy_lines_denied :
    '&' ∉ "abc".toList ∧ '&' ∉ "xyz".toList ∧ ∃ f f' r r',
      (((deniedStore "abc".toList).copy "/r/k" "/t/k" false).on {}).1 = .error f ∧
      (((deniedStore "xyz".toList).copy "/r/k" "/t/k" false).on {}).1 = .error f' ∧
      ReportedBy f r ∧ ReportedBy f' r' ∧
      entry ⟨⟨2026, 1, 5⟩, 14, 30, 7, 123456, none⟩ {} r ≠
        entry ⟨⟨2026, 1, 5⟩, 14, 30, 7, 123456, none⟩ {} r' := by
  have hv : '&' ∉ "abc".toList := by decide
  have hw : '&' ∉ "xyz".toList := by decide
  have hown : ∀ f, (.error denied : Except Failure Unit) = .error f ∨ (.ok ⟨⟩ : Except Failure Unit) =
      .error f → isClientFailure f = true := by
    rintro f (hf | hf)
    · cases hf
      rfl
    · cases hf
  obtain ⟨-, hok | ⟨f, g, hfrom, htext, -⟩ | ⟨what, why, r, r', start, hf, hf', hr, hr', -, -, hiff⟩⟩ :=
    HdfsStore.copy_lines tokenParameter deniedStore (fun _ => rfl)
      (fun _ => HdfsClient.prepared_answers hown "/r/k" "/t/k" {}) false
      ⟨⟨2026, 1, 5⟩, 14, 30, 7, 123456, none⟩ {} hv hw
  · exact nomatch hok.1
  · rcases hfrom with hfrom | hfrom
    · cases hfrom
      exact nomatch htext
    · exact nomatch hfrom
  · exact ⟨hv, hw, _, _, r, r', hf, hf', hr, hr', fun h => absurd (hiff.mp h) (by decide)⟩

end Store

end SecureStartup
