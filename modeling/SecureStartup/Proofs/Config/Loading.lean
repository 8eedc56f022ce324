import SecureStartup.Config.Load
import SecureStartup.Proofs.Config.Validated
import SecureStartup.Proofs.Disk.Files
import SecureStartup.Proofs.Host.Logging
import SecureStartup.Proofs.Value.Fields

/-!
  How loading the configuration can fail.

  1. **Program** — `load_config` asks the disk whether there is a file, logs that it reads it, asks the
     disk for its text, and computes from there on: the document, its section, the overrides, the
     fields, the rules of `AppMasterConfig.validate`.

  2. **One computation** — while log records go to the error stream at most, as when the program starts,
     all of this is one computation on the host as it was found (`configurationAt`): is there a file, what
     is its document, and what configuration does that describe.  `load_logs_of_untouched` is the
     equation; `Untouched` is what the records in between leave alone.

  3. **Documents of any shape** — the computation takes any document, and a step that asks something of a
     value that is not there fails in its own way.  `WellShaped` says which documents have mappings where
     mappings are asked for: whatever else is wrong with such a document, loading can say what it is
     (`ofDocument_yields`), and the rules of `validate` are only the last that it may break.  `Yields` is
     what is kept from step to step: a good answer, or a value that is said to be wrong.
-/

namespace SecureStartup.Config

open SecureStartup.Text

/-! ## Loading as a computation -/

/-- Whether there is something at a path, when the system does not refuse to look. -/
def existsAt (h : Host) (path : String) : Except Failure Bool :=
  if (Invalid.forSystem? path).isSome then .ok false
  else (h.disk.exists? h.workDir path).mapError (Failure.refused · path)

/-- The document in a text, as the host's library reads it, and which of its places hold one thing. -/
def parsed (h : Host) (text : String) : Except Failure (Value × Yaml.Sharing) := do
  let (doc, sharing) ← h.yaml (String.ofList (unifyBreaks text.toList))
  return (doc.orElse (.map []), sharing)

/-- The document in the file at a path. -/
def sharedAt (h : Host) (path : String) : Except Failure (Value × Yaml.Sharing) :=
  match h.disk.read h.workDir path with
  | .ok text => parsed h text
  | .error why => .error (.refused why path)

/-- **The document in the file at a path**, with its references expanded. -/
def documentAt (h : Host) (path : String) : Except Failure Value := do
  let (doc, _) ← sharedAt h path
  expandDocument h.env? doc

/-- The kind of shared store that a configuration is said to have. -/
def reportedKind (c : AppConfig) : Value :=
  ((c.sharedStore.asEntries?.getD []).get? (.str "type")).getD (.str "none")

/-- **The configuration that a document describes**, if start-up can work with it. -/
def ofDocument (h : Host) (doc : Value) : Except Failure AppConfig := do
  let c ← ofSection h (← sectionOf doc)
  let _ ← (reportedKind c).written
  c.validate h.disk h.workDir
  return c

/-- The failure for a configuration file that is not there. -/
def noFile (path : String) : Failure :=
  .systemText "FileNotFoundError"
    s!"Configuration file not found: {path}\nExpected file: config/config.yaml"

/-- **The configuration in the file at a path.** -/
def configurationAt (h : Host) (path : String) : Except Failure AppConfig := do
  if !(← existsAt h path) then throw (noFile path)
  ofDocument h (← documentAt h path)

theorem pathExists_on (path : String) (h : Host) : (pathExists path).on h = (existsAt h path, h) := by
  unfold pathExists existsAt
  by_cases hp : (Invalid.forSystem? path).isSome = true
  · rw [if_pos hp, if_pos hp]
    rfl
  · rw [if_neg hp, if_neg hp]
    have hnone : Invalid.forSystem? path = none := by simpa using hp
    show (Act.onDisk path _).on h = _
    rw [Act.on_onDisk, hnone]
    rcases h.disk.exists? h.workDir path with _ | _ <;> rfl

theorem readShared_on {path : String} {h : Host} (hex : existsAt h path = .ok true) :
    (readShared path).on h = (sharedAt h path, h) := by
  have hpath : Invalid.forSystem? path = none := by
    rcases hp : Invalid.forSystem? path with _ | why
    · rfl
    · rw [existsAt, hp] at hex
      exact nomatch hex
  have hexists : (pathExists path).on h = (.ok true, h) := by rw [pathExists_on, hex]
  unfold readShared sharedAt
  rw [Act.on_bind_ok hexists]
  show (Act.onDisk path _ >>= _ : Act _).on h = _
  rw [Act.on_bind, Act.on_onDisk, hpath]
  rcases h.disk.read h.workDir path with _ | text
  · rfl
  · show (Act.ofExcept (h.yaml (String.ofList (unifyBreaks text.toList))) >>= _ : Act _).on h =
      (parsed h text, h)
    unfold parsed
    rw [Act.on_bind, Act.on_ofExcept]
    rcases h.yaml (String.ofList (unifyBreaks text.toList)) with _ | ⟨doc, sharing⟩ <;> rfl

theorem reportLoaded_logs (c : AppConfig) (h : Host) :
    (reportLoaded c).Logs h ((reportedKind c).written.map fun _ => ()) := by
  unfold reportLoaded
  refine (Act.logs_log ..).bind_ok fun _ _ => (Act.logs_log ..).bind_ok fun _ _ =>
    (Act.logs_log ..).bind_ok fun h₃ _ => ?_
  show (Act.ofExcept (reportedKind c).written >>= _ : Act _).Logs h₃ _
  rcases (reportedKind c).written with f | kind
  · exact Act.logs_of_on rfl
  · exact Act.logs_bind_ok rfl (Act.logs_log ..)

/-- Of a host, filling the fields asks the environment only. -/
theorem ofSection_of_env {g h : Host} (he : g.env = h.env) (sec : Value) :
    ofSection g sec = ofSection h sec := by
  unfold ofSection setting Host.env?
  rw [he]

/-- **A host on which loading goes on** as on the one that was found: only records were made, and
    these went to the error stream at most. -/
structure Untouched (h g : Host) : Prop where
  env : g.env = h.env
  disk : g.disk = h.disk
  workDir : g.workDir = h.workDir
  yaml : g.yaml = h.yaml
  quiet : g.Quiet

namespace Untouched

variable {h g : Host}

theorem refl (hs : h.log.sinks = []) : Untouched h h :=
  ⟨rfl, rfl, rfl, rfl, Host.quiet_of_no_sinks hs⟩

theorem logged {k : Host} (a : Untouched h g) (hl : Host.Logged g k) : Untouched h k := by
  obtain ⟨err, made, rfl⟩ := hl.frame_of_quiet a.quiet
  exact ⟨a.env, a.disk, a.workDir, a.yaml, a.quiet⟩

theorem env? (a : Untouched h g) : g.env? = h.env? := by
  unfold Host.env?
  rw [a.env]

theorem existsAt (a : Untouched h g) (path : String) : existsAt g path = existsAt h path := by
  unfold Config.existsAt
  rw [a.disk, a.workDir]

theorem sharedAt (a : Untouched h g) (path : String) : sharedAt g path = sharedAt h path := by
  unfold Config.sharedAt parsed
  rw [a.disk, a.workDir, a.yaml]

theorem ofSection (a : Untouched h g) (sec : Value) : ofSection g sec = ofSection h sec :=
  ofSection_of_env a.env sec

end Untouched

/-- Loading from the document on. -/
def loadDocument (doc overrides : Value) : Act AppConfig := do
  let sec ← override (← Act.ofExcept (sectionOf doc)) overrides
  let c ← Act.ofExcept (ofSection (← get) sec)
  reportLoaded c
  Act.log logger Log.debug "Validating configuration..." []
  let h ← get
  Act.ofExcept (c.validate h.disk h.workDir)
  Act.log logger Log.debug "Configuration validation passed" []
  return c

theorem loadDocument_logs {h g : Host} (a : Untouched h g) (doc : Value) :
    (loadDocument doc .none).Logs g (ofDocument h doc) := by
  unfold loadDocument ofDocument
  refine Act.logs_ofExcept_bind fun sec => ?_
  refine Act.logs_bind_ok (Act.on_pure sec g) (Act.logs_bind_ok (Act.on_get g) ?_)
  rw [a.ofSection]
  refine Act.logs_ofExcept_bind fun c => ?_
  have hreport := reportLoaded_logs c g
  rcases hkind : (reportedKind c).written with f | kind <;> rw [hkind] at hreport
  · exact hreport.bind_error
  refine hreport.bind_ok fun g₁ hl₁ => (Act.logs_log ..).bind_ok fun g₂ hl₂ => ?_
  have a₂ := (a.logged hl₁).logged hl₂
  refine Act.logs_bind_ok (Act.on_get g₂) ?_
  rw [a₂.disk, a₂.workDir]
  refine Act.logs_ofExcept_bind fun _ => ?_
  exact (Act.logs_log ..).bind_ok fun g₃ _ => Act.logs_of_on (Act.on_pure c g₃)

/-- **Loading is a computation** on the host as it was found. -/
theorem load_logs_of_untouched {h g : Host} (a : Untouched h g) {given : Value} {path : String}
    (hp : resolvePath given g = .ok path) : (load given .none).Logs g (configurationAt h path) := by
  have hpath : (Act.ofExcept (resolvePath given g)).on g = (.ok path, g) := by
    rw [Act.on_ofExcept, hp]
  have hexists := pathExists_on path g
  unfold load configurationAt
  refine Act.logs_bind_ok (Act.on_get g) (Act.logs_bind_ok hpath ?_)
  -- Every question to the disk is answered as by the host that was found, since only records came between.
  rw [a.existsAt] at hexists
  rcases hex : existsAt h path with f | there <;> rw [hex] at hexists
  · exact (Act.logs_of_on hexists).bind_error
  refine Act.logs_bind_ok hexists ?_
  cases there with
  | false => exact Act.logs_of_on rfl
  | true =>
    -- the record that the file is read
    refine (Act.logs_log ..).bind_ok fun g₁ hl => ?_
    have a₁ := a.logged hl
    have hread : (readDocument path).on g₁ = ((sharedAt h path).map (·.1), g₁) := by
      unfold readDocument
      rw [Act.on_map, readShared_on (by rw [a₁.existsAt, hex]), a₁.sharedAt]
    refine Act.logs_bind_ok (Act.on_get g₁) ?_
    show (readDocument path >>= _ : Act _).Logs g₁ (documentAt h path >>= fun doc => ofDocument h doc)
    unfold documentAt
    rcases hshared : sharedAt h path with f | ⟨written, sharing⟩ <;> rw [hshared] at hread
    · exact (Act.logs_of_on hread).bind_error
    refine Act.logs_bind_ok hread ?_
    show (Act.ofExcept (expandDocument g₁.env? written) >>= _ : Act _).Logs g₁
      (expandDocument h.env? written >>= fun doc => ofDocument h doc)
    rw [a₁.env?]
    exact Act.logs_ofExcept_bind fun doc => loadDocument_logs a₁ doc

/-- Loading while records go nowhere, as when the program starts. -/
theorem load_logs {h : Host} (hs : h.log.sinks = []) {given : Value} {path : String}
    (hp : resolvePath given h = .ok path) : (load given .none).Logs h (configurationAt h path) :=
  load_logs_of_untouched (Untouched.refl hs) hp

theorem load_error {h h' : Host} (hs : h.log.sinks = []) {given : Value} {path : String} {f : Failure}
    (hp : resolvePath given h = .ok path) (hl : (load given .none).on h = (.error f, h')) :
    configurationAt h path = .error f := by
  obtain ⟨g, _, hon⟩ := load_logs hs hp
  rw [hl] at hon
  exact (congrArg Prod.fst hon).symm

/-! ## Files without a document -/

section Failing

variable {h : Host} {path : String}

theorem configurationAt_missing (hex : existsAt h path = .ok false) :
    configurationAt h path = .error (noFile path) := by
  unfold configurationAt
  rw [hex]
  rfl

theorem configurationAt_unreadable (hex : existsAt h path = .ok true) {why : Refusal}
    (hread : h.disk.read h.workDir path = .error why) :
    configurationAt h path = .error (.refused why path) := by
  unfold configurationAt documentAt sharedAt
  rw [hex, hread]
  rfl

theorem configurationAt_unparsed (hex : existsAt h path = .ok true) {text : String} {f : Failure}
    (hread : h.disk.read h.workDir path = .ok text)
    (hparse : h.yaml (String.ofList (unifyBreaks text.toList)) = .error f) :
    configurationAt h path = .error f := by
  have hparsed : parsed h text = .error f := by
    unfold parsed
    rw [hparse]
    rfl
  have hshared : sharedAt h path = .error f := by
    unfold sharedAt
    rw [hread, ← hparsed]
  unfold configurationAt documentAt
  rw [hex, hshared]
  rfl

theorem configurationAt_document (hex : existsAt h path = .ok true) {doc : Value}
    (hdoc : documentAt h path = .ok doc) : configurationAt h path = ofDocument h doc := by
  unfold configurationAt
  rw [hex, hdoc]
  rfl

/-- A section that is given and is no mapping cannot be asked for anything. -/
theorem ofDocument_section {es : Entries} (hgiven : (es.field "appmaster").truthy = true)
    (hmap : ∀ m, es.field "appmaster" ≠ .map m) :
    ofDocument h (.map es) = .error (.mismatch .noPart) := by
  have hhas : Entries.has es (.str "appmaster") = true := by
    unfold Entries.field at hgiven
    unfold Entries.has
    rcases hget : Entries.get? es (.str "appmaster") with _ | v
    · rw [hget] at hgiven
      exact nomatch hgiven
    · rfl
  have hsection : sectionOf (.map es) = .ok (es.field "appmaster") := by
    show (if (!Entries.has es (.str "appmaster")) = true then _ else _ : Except Failure Value) = _
    rw [hhas]
    show Except.ok ((es.field "appmaster").orElse (.map [])) = _
    rw [Value.orElse, if_pos hgiven]
  have hentries : entriesOf (es.field "appmaster") = .error (.mismatch .noPart) := by
    unfold entriesOf
    split
    · exact absurd ‹_› (hmap _)
    · rfl
  unfold ofDocument
  rw [hsection]
  show (ofSection h (es.field "appmaster") >>= _ : Except Failure AppConfig) = _
  unfold ofSection fieldOf
  rw [hentries]
  rfl

end Failing

/-! ## Saying what is wrong -/

/-- **A good answer, or a value that is said to be wrong.** -/
def Yields {α : Type} (q : α → Prop) : Except Failure α → Prop
  | .ok a => q a
  | .error f => ∃ why, f = .invalid why

namespace Yields

variable {α β : Type} {p : α → Prop} {q : β → Prop}

/-- Step after step. -/
theorem bind {x : Except Failure α} {k : α → Except Failure β} (hx : Yields p x)
    (hk : ∀ a, p a → Yields q (k a)) : Yields q (x >>= k) := by
  rcases x with f | a
  · exact hx
  · exact hk a hx

theorem mapM {k : α → Except Failure β} (hk : ∀ a, Yields q (k a)) (xs : List α) :
    Yields (fun _ => True) (xs.mapM k) := by
  induction xs with
  | nil => exact trivial
  | cons x xs ih =>
    rw [List.mapM_cons]
    exact (hk x).bind fun _ _ => ih.bind fun _ _ => trivial

theorem written (v : Value) : Yields (fun _ => True) v.written := by
  unfold Value.written
  split
  · exact trivial
  · exact ⟨_, rfl⟩

theorem refusedAs (v : Value) (why : Invalid) : Yields p (v.refusedAs why : Except Failure α) := by
  unfold Value.refusedAs
  split <;> exact ⟨_, rfl⟩

theorem throw (why : Invalid) : Yields p (throw (.invalid why) : Except Failure α) := ⟨why, rfl⟩

/-- A check that refuses with words, and what follows it. -/
theorem check {cond : Prop} [Decidable cond] {x : Except Failure α} {y : Except Failure β}
    (hx : Yields p x) (hy : Yields q y) : Yields q (if cond then x >>= fun _ => y else y) := by
  split
  · exact hx.bind fun _ _ => hy
  · exact hy

end Yields

/-! ## Documents of a good shape -/

/-- A mapping, if anything is given. -/
def IsSection (v : Value) : Prop := v.truthy = true → ∃ es, v = .map es

theorem IsSection.orElse {v : Value} (a : IsSection v) : ∃ es, v.orElse (.map []) = .map es := by
  unfold Value.orElse
  split
  · exact a ‹_›
  · exact ⟨[], rfl⟩

/-- A path, and one that the system does not refuse to look at. -/
def IsPlace (h : Host) (v : Value) : Prop :=
  ∃ p : PurePath, v.asPath = .ok p ∧
    (Invalid.forSystem? p.text = none → ∃ b, h.disk.isDirectory? h.workDir p.text = .ok b)

/-- **A well-shaped document**: mappings, and a path, where they are asked for. -/
structure WellShaped (h : Host) (doc : Value) (sec : Entries) : Prop where
  document : ∃ es : Entries, doc = .map es ∧ (es.field "appmaster").orElse (.map []) = .map sec
  components : IsSection (sec.field "components")
  store : IsSection (sec.field "shared_fs")
  logging : IsSection (sec.field "logging")
  staging : ∃ es : Entries, (sec.field "staging").orElse (.map []) = .map es ∧
    ((es.field "root").truthy = true → IsPlace h (es.field "root"))

/-- What `validate` goes through. -/
structure Checkable (h : Host) (c : AppConfig) : Prop where
  components : ∃ es, c.components = .map es
  store : ∃ es, c.sharedStore = .map es
  root : c.stagingRoot = .none ∨ IsPlace h c.stagingRoot

theorem stringKeys_yields (v : Value) : Yields (fun _ => True) (stringKeys v) := by
  unfold stringKeys
  split
  · exact trivial
  · rename_i es
    refine Yields.bind (Yields.mapM (q := fun _ => True) (fun e => ?_) es) fun _ _ => trivial
    exact (Yields.written e.1).bind fun _ _ => trivial
  · exact trivial

theorem componentsOf_yields {v : Value} (a : IsSection v) :
    Yields (fun c => ∃ es, c = .map es) (componentsOf v) := by
  obtain ⟨es, hes⟩ := a.orElse
  unfold componentsOf
  rw [hes]
  show Yields _ (es.mapM _ >>= _)
  refine Yields.bind (Yields.mapM (q := fun _ => True) (fun e => ?_) es) fun _ _ => ⟨_, rfl⟩
  refine (Yields.written e.1).bind fun _ _ => ?_
  exact (stringKeys_yields e.2).bind fun _ _ => trivial

theorem toEntriesOrEmpty_section {v : Value} (a : IsSection v) :
    ∃ es, toEntriesOrEmpty v = .ok es := by
  unfold toEntriesOrEmpty
  split
  · obtain ⟨es, rfl⟩ := a ‹_›
    exact ⟨es, rfl⟩
  · exact ⟨[], rfl⟩

theorem ofSection_yields {h : Host} {doc : Value} {sec : Entries} (a : WellShaped h doc sec) :
    Yields (Checkable h) (ofSection h (.map sec)) := by
  obtain ⟨staging, hstaging, hroot⟩ := a.staging
  obtain ⟨logging, hlogging⟩ := a.logging.orElse
  obtain ⟨store, hstore⟩ := toEntriesOrEmpty_section a.store
  unfold ofSection
  simp only [fieldOf_map_bind, hstaging, hlogging, hstore, entriesOf_map_bind]
  refine (componentsOf_yields a.components).bind fun components hcomponents => ?_
  refine (Yields.written _).bind fun name _ => (stringKeys_yields _).bind fun cluster _ => ?_
  refine ⟨hcomponents, ⟨store, rfl⟩, ?_⟩
  show Value.orElse (staging.field "root") .none = .none ∨ IsPlace h (Value.orElse _ _)
  unfold Value.orElse
  split
  · exact .inr (hroot ‹_›)
  · exact .inl rfl

theorem checkComponents_yields (es : List (Value × Value)) :
    Yields (fun _ => True) (AppConfig.checkComponents es) := by
  induction es with
  | nil => exact trivial
  | cons e es ih =>
    unfold AppConfig.checkComponents
    split
    · exact ih
    · exact ih
    · exact Yields.refusedAs _ _

theorem checkStore_yields (es : Entries) :
    Yields (fun _ => True) (AppConfig.checkStore (.map es)) := by
  unfold AppConfig.checkStore
  simp only [entriesOf_map_bind]
  split
  · have hurl : Yields (fun _ => True)
        (if ((AppConfig.storeKind es).same (.str "webhdfs") && !(es.field "url").truthy) = true then
          throw (.invalid .storeUrlSetting) else pure () : Except Failure Unit) := by
      split
      · exact Yields.throw _
      · exact trivial
    refine Yields.check (p := fun _ => True) (Yields.refusedAs _ _) ?_
    exact Yields.check (p := fun (_ : Unit) => True) (Yields.throw _) hurl
  · exact trivial

theorem checkStagingRoot_yields {h : Host} {root : Value} (a : root = .none ∨ IsPlace h root) :
    Yields (fun _ => True) (AppConfig.checkStagingRoot root h.disk h.workDir) := by
  rcases a with rfl | ⟨p, hp, hlook⟩
  · exact trivial
  have hverdict : ∀ b : Bool, Yields (fun _ => True)
      (if (!b) = true then throw (.invalid (.stagingRootSetting root)) else pure () :
        Except Failure Unit) := by
    intro b
    cases b
    · exact Yields.throw _
    · exact trivial
  unfold AppConfig.checkStagingRoot
  rw [hp]
  split
  · exact trivial
  · show Yields _ (if (Invalid.forSystem? p.text).isSome = true then _ else _)
    split
    · exact hverdict false
    · rename_i hsome
      obtain ⟨b, hb⟩ := hlook (by simpa using hsome)
      rw [hb]
      exact hverdict b

theorem validate_yields {h : Host} {c : AppConfig} (a : Checkable h c) :
    Yields (fun _ => True) (c.validate h.disk h.workDir) := by
  obtain ⟨es, hes⟩ := a.components
  obtain ⟨store, hstore⟩ := a.store
  unfold AppConfig.validate
  simp only [hes, hstore, entriesOf_map_bind]
  have hrest : Yields (fun _ => True) (do
      AppConfig.checkComponents es
      AppConfig.checkStore (.map store)
      AppConfig.checkStagingRoot c.stagingRoot h.disk h.workDir : Except Failure Unit) :=
    (checkComponents_yields es).bind fun _ _ => (checkStore_yields store).bind fun _ _ =>
      checkStagingRoot_yields a.root
  refine Yields.check (p := fun (_ : Unit) => True) (Yields.throw _) ?_
  exact Yields.check (p := fun (_ : Unit) => True) (Yields.refusedAs _ _) hrest

/-- **Whatever is wrong with a well-shaped document** can be said. -/
theorem ofDocument_yields {h : Host} {doc : Value} {sec : Entries} (a : WellShaped h doc sec) :
    Yields (fun _ => True) (ofDocument h doc) := by
  obtain ⟨es, rfl, hsec⟩ := a.document
  have hsection : Yields (· = .map sec) (sectionOf (.map es)) := by
    show Yields _ (if (!Entries.has es (.str "appmaster")) = true then _ else _)
    split
    · exact Yields.throw _
    · exact hsec
  unfold ofDocument
  refine hsection.bind fun _ hs => ?_
  subst hs
  refine (ofSection_yields a).bind fun c hc => ?_
  refine (Yields.written _).bind fun _ _ => ?_
  exact (validate_yields hc).bind fun _ _ => trivial

/-! ## A host with one file -/

/-- A host with an environment, and a configuration in a file of its root; its directory for temporary
    files is known. -/
def hostWith (env : List (String × String)) (text : String) : Host where
  env := env
  tempDir := some "/tmp"
  disk := {
    entries := [(["c.yaml"], .file 0)]
    files := [(0, ⟨0o600, text⟩)]
    nextId := 1 }

section HostWith

variable (env : List (String × String)) (text : String)

theorem hostWith_stat :
    (hostWith env text).disk.stat (hostWith env text).workDir "/c.yaml" =
      .ok (["c.yaml"], .file 0) := by
  have hnames : pathNames "/c.yaml" = ["c.yaml"] := by decide +kernel
  have hroot : (hostWith env text).disk.entryAt? [] = some (.directory Disk.rootMode) := rfl
  refine Disk.stat_eq_ok.mpr ?_
  rw [Disk.walk_eq .target (by decide), if_neg (by decide), hnames]
  exact Disk.walkFrom_file hroot (by decide) ⟨by decide, by decide, by decide⟩ rfl .target maxLinks

theorem hostWith_file : resolvePath (.str "/c.yaml") (hostWith env text) = .ok "/c.yaml" := by
  have hname : normalPath "/c.yaml" = "/c.yaml" := by decide +kernel
  show Except.ok (normalPath "/c.yaml") = _
  rw [hname]

theorem hostWith_exists : existsAt (hostWith env text) "/c.yaml" = .ok true := by
  have hsystem : Invalid.forSystem? "/c.yaml" = none := by decide +kernel
  unfold existsAt Disk.exists?
  rw [hsystem, hostWith_stat]
  rfl

/-- Its document is what the text describes. -/
theorem hostWith_sharedAt :
    sharedAt (hostWith env text) "/c.yaml" = parsed (hostWith env text) text := by
  have hread : (hostWith env text).disk.read (hostWith env text).workDir "/c.yaml" = .ok text := by
    have hmay : Disk.mayRead 0o600 = true := by decide
    unfold Disk.read
    rw [Disk.readOut_of_stat (hostWith_stat env text)]
    exact congrArg (· >>= _) (if_pos hmay)
  unfold sharedAt
  rw [hread]

end HostWith

end SecureStartup.Config
