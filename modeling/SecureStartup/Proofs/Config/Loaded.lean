import SecureStartup.Proofs.Config.Loading
import SecureStartup.Proofs.Config.Merging

/-!
  Where a loaded configuration comes from, and what it has.

  1. **Program** — `load_config` reads a document (`load_yaml`, `_expand_env_vars`), lays overrides over
     its section (`_deep_merge`), fills in the fields, each from the environment first
     (`get_config_value`), and validates them (`AppMasterConfig.validate`).

  2. **Taken apart** — `load_origin` takes a load that succeeds apart into these steps: on any host, with
     any log files, environment and overrides.  It is an inversion lemma: later proofs go from a loaded
     configuration back to the document and the overrides without opening `load` again.

  3. **What it has** — whatever they were, a configuration that comes out of it was validated, its name is
     a text, its store is a mapping, and its source of the login identity is known (`loaded_of_ok`).  Of
     the cluster's own settings nothing is known but that they are there.
-/

namespace SecureStartup

/-- A computation in two parts succeeds only through both. -/
theorem Except.bind_eq_ok {ε α β : Type} {x : Except ε α} {k : α → Except ε β} {b : β}
    (h : x >>= k = .ok b) : ∃ a, x = .ok a ∧ k a = .ok b := by
  rcases x with f | a
  · exact nomatch h
  · exact ⟨a, rfl, h⟩

namespace Config

/-- **What a loaded configuration has.** -/
structure Loaded (c : AppConfig) : Prop where
  validated : c.Validated
  named : ∃ name, c.clusterName = .str name
  store : ∃ es, c.sharedStore = .map es
  cluster : c.cluster ≠ .none
  identity : c.loginIdentity.isOneOf identitySources = true

/-! ## Field by field -/

theorem stringKeys_ne_none {v w : Value} (h : stringKeys v = .ok w) : w ≠ .none := by
  cases v with
  | none =>
    cases h
    exact nofun
  | map es =>
    obtain ⟨pairs, _, hw⟩ := Except.bind_eq_ok h
    cases hw
    exact nofun
  | _ =>
    cases h
    exact nofun

/-- **The fields that a section fills.** -/
structure Fills (h : Host) (sec : Entries) (c : AppConfig) : Prop where
  /-- The environment's name of the cluster comes before the section's. -/
  name : ∃ name, c.clusterName = .str name ∧
    (setting h "CLUSTER_NAME" (sec.field "cluster_name") (.str "")).written = .ok name
  cluster : stringKeys (sec.field "cluster") = .ok c.cluster
  components : componentsOf (sec.field "components") = .ok c.components
  store : ∃ es, c.sharedStore = .map es ∧ toEntriesOrEmpty (sec.field "shared_fs") = .ok es

theorem fieldOf_eq_ok {v w : Value} {name : String} (h : fieldOf v name = .ok w) :
    ∃ es : Entries, v = .map es ∧ w = es.field name := by
  obtain ⟨es, hes, hw⟩ := Except.bind_eq_ok h
  cases hw
  exact ⟨es, AppConfig.entriesOf_ok hes, rfl⟩

/-- Only a mapping fills the fields. -/
theorem ofSection_fills {h : Host} {v : Value} {c : AppConfig} (hc : ofSection h v = .ok c) :
    ∃ sec, v = .map sec ∧ Fills h sec c := by
  unfold ofSection at hc
  obtain ⟨_, hfirst, hc⟩ := Except.bind_eq_ok hc
  obtain ⟨sec, rfl, rfl⟩ := fieldOf_eq_ok hfirst
  simp only [fieldOf_map_bind] at hc
  obtain ⟨components, hcomponents, hc⟩ := Except.bind_eq_ok hc
  obtain ⟨name, hname, hc⟩ := Except.bind_eq_ok hc
  obtain ⟨cluster, hcluster, hc⟩ := Except.bind_eq_ok hc
  obtain ⟨store, hstore, hc⟩ := Except.bind_eq_ok hc
  obtain ⟨_, _, hc⟩ := Except.bind_eq_ok hc
  obtain ⟨_, _, hc⟩ := Except.bind_eq_ok hc
  obtain ⟨_, _, hc⟩ := Except.bind_eq_ok hc
  cases hc
  exact ⟨sec, rfl, ⟨name, rfl, hname⟩, hcluster, hcomponents, ⟨store, rfl, hstore⟩⟩

/-- A source of the login identity that was validated is known. -/
theorem identity_of_validate {c : AppConfig} {d : Disk} {cwd : Location}
    (h : c.validate d cwd = .ok ()) : c.loginIdentity.isOneOf identitySources = true := by
  unfold AppConfig.validate at h
  by_cases hnone : (!c.clusterName.truthy) = true
  · rw [if_pos hnone] at h
    exact nomatch h
  rw [if_neg hnone] at h
  by_cases hsource : (!c.loginIdentity.isOneOf identitySources) = true
  · simp only [if_pos hsource] at h
    rcases hr : (c.loginIdentity.refusedAs (.identitySourceSetting c.loginIdentity) :
      Except Failure Unit) with f | _ <;> rw [hr] at h
    · exact nomatch h
    · exact absurd hr (AppConfig.refusedAs_ne_ok _ _)
  · simpa using hsource

/-! ## Step by step -/

/-- The pairs of overrides; when none are given there are none. -/
def overriding (overrides : Value) : Entries := overrides.asEntries?.getD []

/-- The host on which the file is read: that it is going to be was logged before. -/
def readingHost (h : Host) (path : String) : Host :=
  ((Act.log logger Log.info s!"Loading configuration from file: {path}" []).on h).2

theorem readingHost_on (h : Host) (path : String) :
    (Act.log logger Log.info s!"Loading configuration from file: {path}" []).on h =
      (.ok (), readingHost h path) := rfl

theorem readingHost_env (h : Host) (path : String) : (readingHost h path).env = h.env := by
  obtain ⟨_, _, _, _, hk⟩ := (Host.Logged.of_log logger Log.info _ [] h).frame
  unfold readingHost
  rw [hk]

/-- **Where a configuration comes from**: the section of the document in its file, with overrides laid
    over it. -/
structure Origin (given overrides : Value) (h : Host) (path : String) (sec : Entries)
    (c : AppConfig) : Prop where
  file : resolvePath given h = .ok path
  /-- References to the environment are expanded before the section is looked up. -/
  written : documentAt (readingHost h path) path >>= sectionOf = .ok (.map sec)
  fills : Fills h (merge sec (overriding overrides)) c
  valid : ∃ d cwd, c.validate d cwd = .ok ()

/-- The section that was found is that of the document in the file: without a file there is none. -/
theorem section_of_readDocument {path : String} {h h' : Host} {written doc sec : Value}
    (hread : (readDocument path).on h = (.ok written, h'))
    (hdoc : expandDocument h.env? written = .ok doc) (hsec : sectionOf doc = .ok sec) :
    h' = h ∧ documentAt h path >>= sectionOf = .ok sec := by
  have hexists := pathExists_on path h
  unfold readDocument at hread
  rw [Act.on_map] at hread
  rcases hex : existsAt h path with f | there <;> rw [hex] at hexists
  · have hfails : (readShared path).on h = (.error f, h) := Act.on_bind_error hexists
    rw [hfails] at hread
    exact nomatch hread
  cases there with
  | false =>
    -- A document that is empty has no section, so the section was not found there.
    have hempty : (readShared path).on h = (.ok (.map [], .plain), h) := Act.on_bind_ok hexists
    rw [hempty] at hread
    cases hread
    cases hdoc
    exact nomatch hsec
  | true =>
    rw [readShared_on hex] at hread
    rcases hshared : sharedAt h path with f | ⟨v, sharing⟩ <;> rw [hshared] at hread
    · exact nomatch hread
    · cases hread
      refine ⟨rfl, ?_⟩
      unfold documentAt
      rw [hshared]
      show (expandDocument h.env? v >>= sectionOf) = .ok sec
      rw [hdoc]
      exact hsec

theorem overriding_of_not_truthy {overrides : Value} (ht : ¬ overrides.truthy = true) :
    overriding overrides = [] := by
  cases overrides with
  | map es =>
    cases es with
    | nil => rfl
    | cons e es => exact absurd rfl ht
  | _ => rfl

/-- What the overrides give, if it is a mapping, is a section with their pairs laid over it. -/
theorem override_eq_ok {sec overrides v : Value} {h h' : Host}
    (hv : (override sec overrides).on h = (.ok v, h')) :
    h'.env = h.env ∧ ∀ es, v = .map es →
      ∃ b, sec = .map b ∧ es = merge b (overriding overrides) := by
  unfold override at hv
  split at hv
  · obtain ⟨o, ho, hv⟩ := Act.on_ofExcept_bind_eq_ok hv
    cases AppConfig.entriesOf_ok ho
    obtain ⟨_, g, hlog, hv⟩ := Act.on_bind_eq_ok hv
    rw [Act.on_ofExcept] at hv
    obtain ⟨_, _, _, _, hk⟩ := (Host.Logged.of_log _ _ _ _ h).frame
    rw [hlog] at hk
    cases hk
    cases congrArg Prod.snd hv
    refine ⟨rfl, ?_⟩
    rintro es rfl
    obtain ⟨b, _, rfl, hover, rfl⟩ := mergeValues_eq_map (congrArg Prod.fst hv)
    cases hover
    exact ⟨b, rfl, rfl⟩
  · cases hv
    refine ⟨rfl, ?_⟩
    rintro es rfl
    exact ⟨es, rfl, by rw [overriding_of_not_truthy ‹_›, merge_nil]⟩

/-- **A load that succeeds**, step by step, on any host. -/
theorem load_origin {given overrides : Value} {c : AppConfig} {h h' : Host}
    (hc : (load given overrides).on h = (.ok c, h')) :
    ∃ path sec, Origin given overrides h path sec c := by
  unfold load at hc
  rw [Act.on_bind_ok (Act.on_get h)] at hc
  -- the file
  obtain ⟨path, hpath, hc⟩ := Act.on_ofExcept_bind_eq_ok hc
  obtain ⟨there, _, hthere, hc⟩ := Act.on_bind_eq_ok hc
  rw [pathExists_on] at hthere
  cases congrArg Prod.snd hthere
  cases there with
  | false => exact nomatch hc
  | true =>
    -- its section, read on a host with one record more
    obtain ⟨_, g, hlog, hc⟩ := Act.on_bind_eq_ok hc
    cases (readingHost_on h path).symm.trans hlog
    rw [Act.on_bind_ok (Act.on_get _)] at hc
    obtain ⟨written, _, hread, hc⟩ := Act.on_bind_eq_ok hc
    obtain ⟨doc, hdoc, hc⟩ := Act.on_ofExcept_bind_eq_ok hc
    obtain ⟨v, hv, hc⟩ := Act.on_ofExcept_bind_eq_ok hc
    obtain ⟨rfl, hsec⟩ := section_of_readDocument hread hdoc hv
    -- what is laid over it, and the fields
    obtain ⟨laid, g, hlaid, hc⟩ := Act.on_bind_eq_ok hc
    obtain ⟨henv, hmap⟩ := override_eq_ok hlaid
    rw [Act.on_bind_ok (Act.on_get g), ofSection_of_env (henv.trans (readingHost_env h path))] at hc
    obtain ⟨c', hfilled, hc⟩ := Act.on_ofExcept_bind_eq_ok hc
    -- said, and validated on the host as it is then
    obtain ⟨_, _, _, hc⟩ := Act.on_bind_eq_ok hc
    obtain ⟨_, m, _, hc⟩ := Act.on_bind_eq_ok hc
    rw [Act.on_bind_ok (Act.on_get m)] at hc
    obtain ⟨_, hvalid, hc⟩ := Act.on_ofExcept_bind_eq_ok hc
    obtain ⟨_, _, _, hc⟩ := Act.on_bind_eq_ok hc
    cases hc
    obtain ⟨es, rfl, hfills⟩ := ofSection_fills hfilled
    obtain ⟨sec, rfl, rfl⟩ := hmap es rfl
    exact ⟨path, sec, hpath, hsec, hfills, _, _, hvalid⟩

/-- **A configuration that was loaded**, from any document, with any environment and overrides. -/
theorem loaded_of_ok {given overrides : Value} {c : AppConfig} {h h' : Host}
    (hc : (load given overrides).on h = (.ok c, h')) : Loaded c := by
  obtain ⟨_, _, a⟩ := load_origin hc
  obtain ⟨_, _, hvalid⟩ := a.valid
  obtain ⟨name, hname, _⟩ := a.fills.name
  obtain ⟨es, hes, _⟩ := a.fills.store
  exact ⟨AppConfig.validated_of_ok hvalid, ⟨name, hname⟩, ⟨es, hes⟩,
    stringKeys_ne_none a.fills.cluster, identity_of_validate hvalid⟩

/-! ## Loading from the only file -/

section HostWith

variable (env : List (String × String)) (text : String)

theorem hostWith_resolvePath :
    (Act.ofExcept (resolvePath (.str "/c.yaml") (hostWith env text))).on (hostWith env text) =
      (.ok "/c.yaml", hostWith env text) := by
  rw [Act.on_ofExcept, hostWith_file]

theorem hostWith_pathExists :
    (pathExists "/c.yaml").on (hostWith env text) = (.ok true, hostWith env text) := by
  rw [pathExists_on, hostWith_exists]

/-- Loading has not changed what is in the file. -/
theorem hostWith_sharedAt_reading :
    sharedAt (readingHost (hostWith env text) "/c.yaml") "/c.yaml" =
      parsed (hostWith env text) text := by
  have a : Untouched (hostWith env text) (readingHost (hostWith env text) "/c.yaml") :=
    (Untouched.refl rfl).logged (.of_log ..)
  rw [a.sharedAt, hostWith_sharedAt]

theorem hostWith_readDocument :
    (readDocument "/c.yaml").on (readingHost (hostWith env text) "/c.yaml") =
      ((parsed (hostWith env text) text).map (·.1), readingHost (hostWith env text) "/c.yaml") := by
  have a : Untouched (hostWith env text) (readingHost (hostWith env text) "/c.yaml") :=
    (Untouched.refl rfl).logged (.of_log ..)
  unfold readDocument
  rw [Act.on_map, readShared_on ((a.existsAt "/c.yaml").trans (hostWith_exists _ _)),
    hostWith_sharedAt_reading]

/-- **Loading on such a host**, down to the document. -/
theorem hostWith_load (overrides : Value) :
    (load (.str "/c.yaml") overrides).on (hostWith env text) =
      (Act.ofExcept ((parsed (hostWith env text) text).map (·.1) >>=
          expandDocument (readingHost (hostWith env text) "/c.yaml").env?) >>=
        fun doc => loadDocument doc overrides).on (readingHost (hostWith env text) "/c.yaml") := by
  unfold load
  rw [Act.on_bind_ok (Act.on_get _), Act.on_bind_ok (hostWith_resolvePath _ _),
    Act.on_bind_ok (hostWith_pathExists _ _)]
  show ((Act.log logger Log.info _ [] >>= _ : Act AppConfig).on (hostWith _ _)) = _
  rw [Act.on_bind_ok (readingHost_on _ "/c.yaml"), Act.on_bind_ok (Act.on_get _), Act.on_bind,
    hostWith_readDocument, Act.on_bind, Act.on_ofExcept]
  rcases parsed (hostWith env text) text with f | ⟨doc, _⟩
  · rfl
  · show (Act.ofExcept (expandDocument _ doc) >>= _ : Act AppConfig).on _ = _
    rw [Act.on_bind, Act.on_ofExcept]
    rfl

end HostWith

end Config

end SecureStartup
