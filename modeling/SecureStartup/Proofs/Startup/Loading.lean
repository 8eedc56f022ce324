import SecureStartup.Proofs.CommandLine.Fields
import SecureStartup.Proofs.Config.Loading
import SecureStartup.Proofs.Disk.Walk
import SecureStartup.Proofs.Failure.Reason
import SecureStartup.Proofs.Store.Copying
import SecureStartup.Proofs.Startup.Ending

/-!
  How start-up ends without a configuration.

  1. **Program** — `main` loads the configuration first.  When loading fails, it has words for two kinds of
     failures: a file that is not there (`FileNotFoundError`), and a value that was said to be wrong
     (`ValueError`).  It reports these and ends with the code of a bad configuration; every other failure
     ESCAPES.

  2. **Which files are reported** depends on how loading fails (`run_load_failure`).  A missing file is, and
     so is whatever is wrong with a document that has mappings where mappings are asked for.  A directory
     in the file's place, a file that may not be read, text that is no document, and a section that is no
     mapping are not (`run_load_failure_directory`).

  3. **A place for the report** — to report takes a place for the record: on the console there always is
     one, whatever the command line says (`setUpLogging_console`), and a log file that cannot be opened is
     the one way in which a report can still be lost.
-/

namespace SecureStartup.Startup

open SecureStartup.CommandLine SecureStartup.Config

/-! ## Reporting -/

/-- **The failures to load that are reported**: a file that was looked for and not found, and a value
    that was said to be wrong. -/
def IsReported (f : Failure) : Prop := (f.isMissingFile || f.isInvalid) = true

/-- A failure that has nothing to say but its text: no category and no context of its own. -/
structure Says (f : Failure) (text : String) : Prop where
  text : ∀ words, f.text words = .ok text
  noCategory : f.categoryWord? = .ok none
  noContext : f.context? = none

theorem says_invalid (why : Invalid) : Says (.invalid why) why.message := ⟨fun _ => rfl, rfl, rfl⟩

theorem says_noFile (path : String) : ∃ text, Says (noFile path) text := by
  exact ⟨_, fun words => Failure.text_systemText words _ _, rfl, rfl⟩

/-- The message of the record of a failure to load. -/
def loadMessage : String := "Unable to load application master configuration"

/-- **The record of a failure to load**, with its text. -/
def loadRecord (f : Failure) (text : String) : Log.Record :=
  { logger := logger, level := Log.error, message := loadMessage, file := logger
    extras := Log.Call.permitted (Log.Call.withText f text []) }

/-- What is printed of a failure to load, when JSON is asked for. -/
def failureFields (f : Failure) (text : String) : Value :=
  .ofFields [("error", .str text), ("error_type", .str f.name), ("exit_code", .int badConfiguration)]

/-- A failure was printed: as JSON, or for people on the error stream. -/
def Printed (r : Request) (f : Failure) (text : String) (g g' : Host) : Prop :=
  if r.json then
    ∃ line, Json.write Json.lenient (failureFields f text) = .ok line ∧ g' = g.print (line ++ "\n")
  else g' = g.printError (s!"{badSign} {text}" ++ "\n")

/-- Exit codes can be written. -/
theorem isWritable_code : (Value.int badConfiguration).isWritable = true := by
  have hbound : ∀ d, 2 ≤ d → badConfiguration < Nat.pow 10 d := fun d hd =>
    Nat.lt_of_lt_of_le (show _ < 10 ^ 2 by decide) (Nat.pow_le_pow_right (by decide) hd)
  unfold Value.isWritable Value.numberBound
  exact decide_eq_true (hbound Number.maxDigits (by decide))

/-- Exit codes have a text. -/
theorem intText_code : Json.intText badConfiguration = .ok (toString (badConfiguration : Int)) := by
  have h := isWritable_code
  unfold Value.isWritable at h
  exact if_pos (of_decide_eq_true h)

theorem failureFields_written (f : Failure) (text : String) :
    ∃ line, Json.write Json.lenient (failureFields f text) = .ok line := by
  unfold failureFields Value.ofFields Json.write
  simp only [List.map, Json.writeAt, Json.writeMembers, Json.memberText, Json.keyText, Json.atomText,
    intText_code]
  exact ⟨_, rfl⟩

theorem printFailure_on {f : Failure} {text : String} (a : Says f text) (r : Request) (g : Host) :
    ∃ g', Printed r f text g g' ∧ (printFailure f badConfiguration r.json).on g = (.ok ⟨⟩, g') := by
  have htext : (Act.ofExcept (f.text g.words)).on g = (.ok text, g) := by
    rw [Act.on_ofExcept, a.text]
  unfold Printed printFailure
  rw [Act.on_bind_ok (Act.on_get g), Act.on_bind_ok htext]
  by_cases hj : r.json = true
  · obtain ⟨line, hline⟩ := failureFields_written f text
    simp only [if_pos hj, a.noContext]
    refine ⟨_, ⟨line, hline, rfl⟩, ?_⟩
    show (printJson Json.lenient (failureFields f text)).on g = _
    unfold printJson
    rw [hline]
    rfl
  · simp only [if_neg hj]
    exact ⟨_, rfl, rfl⟩

theorem logFailure_on {f : Failure} {text : String} (a : Says f text) (g : Host) :
    (logFailure f loadMessage false []).on g = (.ok ⟨⟩, g.logRecord (loadRecord f text)) := by
  have hcategory : Log.Call.withCategory f [] = .ok [] := by
    unfold Log.Call.withCategory
    rw [Entries.field_nil, a.noCategory]
    rfl
  have hcontext : Log.Call.withContext f [] = [] := by
    unfold Log.Call.withContext
    rw [a.noContext]
  have hcall : Log.Call.ofFailure g.words f (.str loadMessage) (.int Log.error) false [] =
      .ok ⟨.int Log.error, .str loadMessage, Log.Call.permitted (Log.Call.withText f text []),
        .unasked⟩ := by
    unfold Log.Call.ofFailure
    rw [hcategory, a.text]
    show Except.ok (Log.Call.mk _ _ (Log.Call.permitted (Log.Call.withText f text
      (Log.Call.withContext f []))) _) = _
    rw [hcontext]
    rfl
  unfold logFailure
  rw [Act.on_bind_ok (Act.on_get g), hcall]
  rfl

/-- **What a reported failure leads to**, once logging is set up: a record, a message, and the code of
    a bad configuration. -/
theorem report_on {f : Failure} {text : String} (a : Says f text) (r : Request) (g : Host) :
    ∃ g', Printed r f text (g.logRecord (loadRecord f text)) g' ∧ (do
      logFailure f loadMessage false []
      printFailure f badConfiguration r.json
      return badConfiguration : Act Nat).on g = (.ok 78, g') := by
  obtain ⟨g', hprinted, hon⟩ := printFailure_on a r (g.logRecord (loadRecord f text))
  refine ⟨g', hprinted, ?_⟩
  rw [Act.on_bind_ok (logFailure_on a g), Act.on_bind_ok hon]
  rfl

/-! ## Before loading -/

theorem warn_logs (lines : List Nat) (h : Host) : (EnvFile.warn lines).Logs h (.ok ⟨⟩) := by
  induction lines generalizing h with
  | nil => exact Act.logs_of_on rfl
  | cons line lines ih => exact (Act.logs_log ..).bind_ok fun h₁ _ => ih h₁

/-- Taking over the environment file opens no place for records. -/
theorem apply_sinks {h h' : Host} (ha : EnvFile.apply.on h = (.ok ⟨⟩, h')) :
    h'.log.sinks = h.log.sinks := by
  unfold EnvFile.apply at ha
  rw [Act.on_bind_ok (Act.on_get h)] at ha
  simp only at ha
  split at ha
  · obtain ⟨text, h₁, hread, ha⟩ := Act.on_bind_eq_ok ha
    rw [Act.on_onDisk] at hread
    obtain rfl : h = h₁ := congrArg Prod.snd hread
    obtain ⟨_, h₂, hwarn, ha⟩ := Act.on_bind_eq_ok ha
    obtain ⟨h₃, hlogged, hwarned⟩ := warn_logs _ h
    rw [hwarned] at hwarn
    obtain rfl : h₃ = h₂ := congrArg Prod.snd hwarn
    obtain ⟨_, h₄, hset, ha⟩ := Act.on_bind_eq_ok ha
    have hsinks : h₃.log.sinks = h.log.sinks := by
      obtain ⟨_, _, _, _, rfl⟩ := hlogged.frame
      rfl
    obtain rfl : _ = h₄ := congrArg Prod.snd hset
    split at ha
    · exact nomatch ha
    · obtain rfl : _ = h' := congrArg Prod.snd ha
      exact hsinks
  · obtain rfl : h = h' := congrArg Prod.snd ha
    rfl

/-! ## Requests -/

/-- What a command line can ask for. -/
structure Request.IsValid (r : Request) : Prop where
  config : r.config = .none ∨ ∃ p, r.config = .path p
  logLevel : ∃ s, r.logLevel = .str s
  logDir : r.logDir = .none ∨ ∃ s, r.logDir = .str s

/-- **A command line that is read** makes a valid request, and leaves the host alone. -/
theorem readRequest_valid {argv : List String} {r : Request} {h h' : Host}
    (hr : (readRequest argv).on h = (.ok r, h')) : r.IsValid ∧ h' = h := by
  unfold readRequest at hr
  obtain ⟨fields, h₁, hread, hr⟩ := Act.on_bind_eq_ok hr
  unfold readOn at hread
  split at hread
  · rename_i fields' hfields
    obtain ⟨rfl, rfl⟩ : fields' = fields ∧ h = h₁ :=
      ⟨Except.ok.inj (congrArg Prod.fst hread), congrArg Prod.snd hread⟩
    have hset : SetBy specs fields' := read_setBy hfields
    have hconfig : _ ∨ Takes.Allows .path (field fields' "config") := hset.field rfl
    have hdir : _ ∨ Takes.Allows .text (field fields' "log_dir") := hset.field rfl
    have hlevel : _ ∨ Takes.Allows (.oneOf _) (field fields' "log_level") := hset.field rfl
    cases hr
    refine ⟨⟨hconfig, ?_, hdir⟩, rfl⟩
    rcases hlevel with hnone | ⟨s, _, hs⟩
    · exact ⟨"INFO", by simp only [hnone]⟩
    · exact ⟨s, by simp only [hs]⟩
  · exact nomatch hread
  · exact nomatch hread

/-- There is a path to look at. -/
theorem Request.IsValid.path {r : Request} (a : r.IsValid) (h : Host) :
    ∃ path, resolvePath r.config h = .ok path := by
  rcases a.config with hnone | ⟨p, hp⟩
  · rw [hnone]
    exact ⟨_, rfl⟩
  · rw [hp]
    exact ⟨_, rfl⟩

/-- A log file is asked for, by the command line or the environment. -/
def Request.WantsLogFile (r : Request) (h : Host) : Prop :=
  r.logDir.truthy = true ∨ ∃ dir, h.env? "LOG_DIR" = some dir ∧ dir ≠ ""

/-- **Without a log file** logging can always be set up. -/
theorem setUpLogging_console {r : Request} (a : r.IsValid) {h : Host} (hfile : ¬ r.WantsLogFile h) :
    ∃ g, (setUpLogging r none).on h = (.ok ⟨⟩, g) := by
  obtain ⟨level, hlevel⟩ := a.logLevel
  obtain ⟨hgiven, hnamed⟩ := not_or.mp hfile
  have hvariable : (((h.env? "LOG_DIR").elim Value.none Value.str).orElse .none).truthy = false := by
    rcases hdir : h.env? "LOG_DIR" with _ | dir
    · rfl
    · obtain rfl : dir = "" := Classical.not_not.mp fun hne => hnamed ⟨dir, hdir, hne⟩
      rfl
  have hnone : (r.logDir.orElse
      (((h.env? "LOG_DIR").elim Value.none Value.str).orElse .none)).truthy = false := by
    rw [Value.orElse, if_neg hgiven]
    exact hvariable
  unfold setUpLogging
  rw [Act.on_bind_ok (Act.on_get h)]
  simp only [Option.map_none, Option.getD_none, hnone, hlevel]
  exact ⟨_, rfl⟩

/-! ## Which failures are reported -/

section Ends

variable {argv : List String} {provider : Option IdentityProvider} {clients : Store.Clients}
  {h₀ h₁ h h' : Host} {r : Request} {f : Failure} {text : String}

theorem run_of_load (henv : EnvFile.apply.on h₀ = (.ok ⟨⟩, h₁))
    (hargs : (readRequest argv).on h₁ = (.ok r, h))
    (hload : (load r.config .none).on h = (.error f, h')) :
    (run argv provider clients).on h₀ = (if f.isMissingFile || f.isInvalid then (do
      setUpLogging r none
      logFailure f loadMessage false []
      printFailure f badConfiguration r.json
      return badConfiguration) else throw f : Act Nat).on h' := by
  have hattempt : (attempt (load r.config .none)).on h = (.ok (.error f), h') := by
    rw [on_attempt, hload]
  unfold run
  rw [Act.on_bind_ok henv, Act.on_bind_ok hargs, Act.on_bind_ok hattempt]
  rfl

theorem run_reports (henv : EnvFile.apply.on h₀ = (.ok ⟨⟩, h₁))
    (hargs : (readRequest argv).on h₁ = (.ok r, h))
    (hload : (load r.config .none).on h = (.error f, h')) (hf : IsReported f) (a : Says f text)
    {g : Host} (hset : (setUpLogging r none).on h' = (.ok ⟨⟩, g)) :
    ∃ g', Printed r f text (g.logRecord (loadRecord f text)) g' ∧
      (run argv provider clients).on h₀ = (.ok 78, g') := by
  obtain ⟨g', hprinted, hon⟩ := report_on a r g
  refine ⟨g', hprinted, ?_⟩
  rw [run_of_load henv hargs hload, if_pos (show _ = true from hf), Act.on_bind_ok hset]
  exact hon

/-- A failure to set up logging takes the place of the one that was to be reported. -/
theorem run_unlogged (henv : EnvFile.apply.on h₀ = (.ok ⟨⟩, h₁))
    (hargs : (readRequest argv).on h₁ = (.ok r, h))
    (hload : (load r.config .none).on h = (.error f, h')) (hf : IsReported f) {f' : Failure}
    {g : Host} (hset : (setUpLogging r none).on h' = (.error f', g)) :
    (run argv provider clients).on h₀ = (.error f', g) := by
  rw [run_of_load henv hargs hload, if_pos (show _ = true from hf), Act.on_bind_error hset]

/-- A report is lost only to a log file. -/
theorem run_reports_or_unlogged (henv : EnvFile.apply.on h₀ = (.ok ⟨⟩, h₁))
    (hargs : (readRequest argv).on h₁ = (.ok r, h))
    (hload : (load r.config .none).on h = (.error f, h')) (hf : IsReported f) (a : Says f text)
    (hvalid : r.IsValid) (hrest : Untouched h h') :
    (∃ g g', (setUpLogging r none).on h' = (.ok ⟨⟩, g) ∧
      Printed r f text (g.logRecord (loadRecord f text)) g' ∧
      (run argv provider clients).on h₀ = (.ok 78, g')) ∨
    (r.WantsLogFile h ∧ ∃ f' g, (setUpLogging r none).on h' = (.error f', g) ∧
      (run argv provider clients).on h₀ = (.error f', g)) := by
  rcases hset : (setUpLogging r none).on h' with ⟨f' | _, g⟩
  · refine .inr ⟨?_, f', g, rfl, run_unlogged henv hargs hload hf hset⟩
    refine Classical.byContradiction fun hfile => ?_
    have hconsole : ¬ r.WantsLogFile h' := by
      unfold Request.WantsLogFile at hfile ⊢
      rwa [hrest.env?]
    obtain ⟨_, hok⟩ := setUpLogging_console hvalid hconsole
    exact nomatch hset.symm.trans hok
  · obtain ⟨g', hprinted, hrun⟩ := run_reports henv hargs hload hf a hset
    exact .inl ⟨g, g', rfl, hprinted, hrun⟩

/-- **Whatever is not reported escapes.** -/
theorem run_escapes (henv : EnvFile.apply.on h₀ = (.ok ⟨⟩, h₁))
    (hargs : (readRequest argv).on h₁ = (.ok r, h))
    (hload : (load r.config .none).on h = (.error f, h')) (hf : ¬ IsReported f) :
    (run argv provider clients).on h₀ = (.error f, h') := by
  rw [run_of_load henv hargs hload, if_neg (show ¬ _ = true from hf)]
  rfl

end Ends

/-- **How start-up ends when loading fails**, for every command line that is read.  A failure that the
    program has words for is reported, and ends it with the code 78, unless a log file is asked for
    that cannot be opened; every other failure ends it as it is.  Reported are a file that is missing,
    and whatever is wrong with a well-shaped document.  But a file that cannot be read, text that the
    reader of YAML refuses otherwise than as a wrong value, and a section that is no mapping let a
    failure escape. -/
theorem run_load_failure (argv : List String) (provider : Option IdentityProvider)
    (clients : Store.Clients) {h₀ h₁ h h' : Host} {r : Request} {f : Failure}
    (hs : h₀.log.sinks = []) (henv : EnvFile.apply.on h₀ = (.ok ⟨⟩, h₁))
    (hargs : (readRequest argv).on h₁ = (.ok r, h))
    (hload : (load r.config .none).on h = (.error f, h')) :
    -- what is reported, and what is not
    (∀ text, IsReported f → Says f text →
      (∃ g g', (setUpLogging r none).on h' = (.ok ⟨⟩, g) ∧
        Printed r f text (g.logRecord (loadRecord f text)) g' ∧
        (run argv provider clients).on h₀ = (.ok 78, g')) ∨
      (r.WantsLogFile h ∧ ∃ f' g, (setUpLogging r none).on h' = (.error f', g) ∧
        (run argv provider clients).on h₀ = (.error f', g))) ∧
    (¬ IsReported f → (run argv provider clients).on h₀ = (.error f, h')) ∧
    ∃ path, resolvePath r.config h = .ok path ∧
      -- failures that are reported
      (existsAt h path = .ok false → IsReported f ∧ ∃ text, Says f text) ∧
      (∀ doc sec, existsAt h path = .ok true → documentAt h path = .ok doc →
        WellShaped h doc sec → IsReported f ∧ ∃ text, Says f text) ∧
      -- failures that escape
      (∀ why, existsAt h path = .ok true → h.disk.read h.workDir path = .error why →
        why ≠ .noEntry → (run argv provider clients).on h₀ = (.error (.refused why path), h')) ∧
      (∀ text g, existsAt h path = .ok true → h.disk.read h.workDir path = .ok text →
        h.yaml (String.ofList (unifyBreaks text.toList)) = .error g → ¬ IsReported g →
        (run argv provider clients).on h₀ = (.error g, h')) ∧
      (∀ es : Entries, existsAt h path = .ok true → documentAt h path = .ok (.map es) →
        (es.field "appmaster").truthy = true → (∀ m, es.field "appmaster" ≠ .map m) →
        (run argv provider clients).on h₀ = (.error (.mismatch .noPart), h')) := by
  obtain ⟨hvalid, rfl⟩ := readRequest_valid hargs
  obtain ⟨path, hpath⟩ := hvalid.path h
  have hquiet : h.log.sinks = [] := (apply_sinks henv).trans hs
  have hfound : configurationAt h path = .error f := load_error hquiet hpath hload
  -- what is known to be the outcome of loading is the failure, and escapes unless it is reported
  have hsame : ∀ {f'}, configurationAt h path = .error f' → f = f' := fun hf' =>
    Except.error.inj (hfound.symm.trans hf')
  have hescapes : ∀ {f'}, configurationAt h path = .error f' → ¬ IsReported f' →
      (run argv provider clients).on h₀ = (.error f', h') := by
    intro f' hf' hnot
    obtain rfl := hsame hf'
    exact run_escapes henv hargs hload hnot
  refine ⟨fun text hf a => ?_, run_escapes henv hargs hload, path, hpath, fun hex => ?_,
    fun doc sec hex hdoc hshape => ?_, fun why hex hread hne => ?_, fun text g hex hread hparse => ?_,
    fun es hex hdoc hgiven hmap => ?_⟩
  · obtain ⟨g, hlogged, hon⟩ := load_logs hquiet hpath
    obtain rfl : g = h' := congrArg Prod.snd (hon.symm.trans hload)
    exact run_reports_or_unlogged henv hargs hload hf a hvalid
      ((Untouched.refl hquiet).logged hlogged)
  · rw [hsame (configurationAt_missing hex)]
    exact ⟨rfl, says_noFile path⟩
  · have hyields := ofDocument_yields hshape
    rw [← configurationAt_document hex hdoc, hfound] at hyields
    obtain ⟨why, rfl⟩ := hyields
    exact ⟨Bool.or_true _, _, says_invalid why⟩
  · refine hescapes (configurationAt_unreadable hex hread) fun hf => hne ?_
    cases why with
    | noEntry => rfl
    | _ => exact nomatch hf
  · exact hescapes (configurationAt_unparsed hex hread hparse)
  · have hf : configurationAt h path = .error (.mismatch .noPart) := by
      rw [configurationAt_document hex hdoc, ofDocument_section hgiven hmap]
    exact hescapes hf nofun

/-! ## A directory in the file's place -/

/-- A host on which the variable of the configuration file names the root directory. -/
def rootHost : Host := { env := [("AMSECURITY_CONFIG", "/")] }

theorem rootHost_walk (aim : Aim) :
    rootHost.disk.walk rootHost.workDir "/" aim = .ok (.found [] (.directory Disk.rootMode)) := by
  have hnames : pathNames "/" = [""] := by decide +kernel
  have hroot : rootHost.disk.entryAt? [] = some (.directory Disk.rootMode) := rfl
  rw [Disk.walk_eq aim (by decide), if_neg (by decide), hnames]
  show rootHost.disk.walkFrom aim maxLinks [] [""] = _
  rw [Disk.walkFrom, hroot]
  show rootHost.disk.walkFrom aim maxLinks [] [] = _
  rw [Disk.walkFrom, hroot]

theorem rootHost_apply : EnvFile.apply.on rootHost = (.ok ⟨⟩, rootHost) := by
  have hpath : rootHost.envFile = "//.env" := by decide +kernel
  have hnames : pathNames "//.env" = [".env"] := by decide +kernel
  have hroot : rootHost.disk.entryAt? [] = some (.directory Disk.rootMode) := rfl
  have hwalk : rootHost.disk.walk rootHost.workDir "//.env" .target = .ok (.free [] ".env") := by
    rw [Disk.walk_eq .target (by decide), if_neg (by decide), hnames]
    exact Disk.walkFrom_absent hroot (by decide) ⟨by decide, by decide, by decide⟩ rfl .target maxLinks
  have hfile : rootHost.disk.isFile rootHost.workDir rootHost.envFile = false := by
    unfold Disk.isFile Disk.stat
    rw [hpath, hwalk]
  unfold EnvFile.apply
  rw [Act.on_bind_ok (Act.on_get rootHost)]
  simp only [hfile]
  rfl

/-- The directory is not read, and start-up ends without an exit code. -/
theorem run_load_failure_directory : ∃ h',
    (run [] none Store.noClients).on rootHost = (.error (.refused .isDirectory "/"), h') := by
  have hpath : resolvePath .none rootHost = .ok "/" := by
    have hname : normalPath "/" = "/" := by decide +kernel
    show Except.ok (normalPath "/") = _
    rw [hname]
  have hstat : rootHost.disk.stat rootHost.workDir "/" = .ok ([], .directory Disk.rootMode) :=
    Disk.stat_eq_ok.mpr (rootHost_walk .target)
  have hexists : existsAt rootHost "/" = .ok true := by
    have hsystem : Invalid.forSystem? "/" = none := by decide +kernel
    unfold existsAt Disk.exists?
    rw [hsystem, hstat]
    rfl
  have hread : rootHost.disk.read rootHost.workDir "/" = .error .isDirectory := by
    unfold Disk.read
    rw [Disk.readOut_of_stat hstat]
    rfl
  obtain ⟨h', _, hload⟩ := load_logs (h := rootHost) rfl hpath
  rw [configurationAt_unreadable hexists hread] at hload
  obtain ⟨_, _, path, hgiven, _, _, hescapes, _⟩ :=
    run_load_failure [] none Store.noClients rfl rootHost_apply rfl hload
  obtain rfl : "/" = path := Except.ok.inj (hpath.symm.trans hgiven)
  exact ⟨h', hescapes .isDirectory hexists hread nofun⟩

end SecureStartup.Startup
