import SecureStartup.Proofs.Config.Loaded
import SecureStartup.Proofs.Startup.ExitCode
import SecureStartup.Proofs.Store.Moving

/-!
  Start-up with security off.

  1. **Program** — `resolve_security` makes the set-up, with everything that a configuration asks for:
     the components, the provider of the identity (`create_identity_provider`), the stager
     (`SecureKeytabFetcher`).  Then it asks whether the cluster is secure (`is_cluster_secure`), and if
     it is not, that is all.

  2. **The idea** — on a cluster that is not secure there is nobody to log in as, and so nothing of what
     a configuration says about logging in should matter.  `resolve_off` is about one run: of a
     configuration that was validated it uses the name of the cluster, and of its host the log.  The
     settings of the components are looked at by nobody, the provider is made and not asked, and there
     is no store.  What one run does not use, two runs may differ in: `resolve_off_noninterference`.

  3. **What is left over** — the stager is made with its root, so the directory for temporary files may
     be looked for; there has to be one (`HasRoot`).  And log lines come to log files
     (`resolve_off_noninterference_limits`).
-/

namespace SecureStartup.Startup

open SecureStartup.Act SecureStartup.Config SecureStartup.Security SecureStartup.Store
  SecureStartup.KeytabStager

/-! ## One run -/

/-- A set-up that is off is valid, whatever else there is in it. -/
theorem logs_validate_off {s : Setup} (hoff : s.isEnabled = .ok false) (h : Host) :
    s.validate.Logs h (.ok ()) := by
  unfold Setup.validate
  rw [hoff]
  exact logs_bind_ok rfl (logs_log ..)

/-- **The set-up of a validated configuration** can be made when it is off, with a root for its
    stager. -/
theorem setupOf_off {c : AppConfig} (a : c.Validated) (hoff : isSecure c.cluster = .ok false)
    (provider : IdentityProvider) {h : Host} (hr : HasRoot c.stagingRoot h) :
    ∃ s h₀ g, s.isEnabled = .ok false ∧ h.Sought h₀ ∧ Host.Logged h₀ g ∧
      (setupOf c (.ok provider)).on h = (.ok s, g) := by
  obtain ⟨components, _, hdef, _⟩ := a.settings
  obtain ⟨stager, h₀, hroot, hsought⟩ := ofRoot_ok a.root hr
  obtain ⟨cluster, hcluster⟩ : ∃ es, c.cluster = .map es := by
    obtain ⟨_, hfield, _⟩ := Except.bind_eq_ok hoff
    obtain ⟨es, hes, _⟩ := fieldOf_eq_ok hfield
    exact ⟨es, hes⟩
  have hgiven : c.cluster ≠ .none := by
    rw [hcluster]
    exact nofun
  let s : Setup := ⟨c.cluster, components, c.clusterName, provider, stager⟩
  obtain ⟨g, hlogged, hvalid⟩ := logs_validate_off (s := s) hoff h₀
  refine ⟨s, h₀, g, hoff, hsought, hlogged, ?_⟩
  rw [setupOf_make hdef provider hroot, make_eq hgiven a.clusterName_ne_none, on_bind_ok hvalid]
  rfl

/-- **With security off**, resolving it looks for the root of the stager, logs, and does nothing
    else. -/
theorem resolve_off_on {c : AppConfig} (a : c.Validated) (hoff : isSecure c.cluster = .ok false)
    (stage : Bool) (provider : IdentityProvider) (clients : Clients) {h : Host}
    (hr : HasRoot c.stagingRoot h) :
    ∃ h₀ g, h.Sought h₀ ∧ Host.Logged h₀ g ∧
      (resolve c stage (.ok provider) clients).on h = (.ok (.disabled c.clusterName), g) := by
  obtain ⟨s, h₀, g, hs, hsought, hlogged, hsetup⟩ := setupOf_off a hoff provider hr
  have hrest : (Act.log logger Log.info "Cluster security is disabled; no Kerberos login required" []
      >>= fun _ => (pure (.disabled c.clusterName) : Act Outcome)).Logs g
        (.ok (.disabled c.clusterName)) :=
    (logs_log ..).bind_ok fun g' _ => logs_of_on (on_pure _ g')
  obtain ⟨g', hlogged', hon⟩ := hrest
  refine ⟨h₀, g', hsought, hlogged.trans hlogged', ?_⟩
  unfold resolve
  rw [on_bind_ok hsetup, hs]
  exact hon

/-- The provider that is given is there, and so is the one that a configuration asks for. -/
theorem provider_ok {c : AppConfig} (hsource : c.loginIdentity.isOneOf identitySources = true)
    (given : Option IdentityProvider) :
    ∃ p, given.elim (providerOf c) .ok = .ok p := by
  cases given with
  | none => exact providerOf_ok hsource
  | some p => exact ⟨p, rfl⟩

/-- **A run that found security off**: it answered so.  On its host the directory for temporary files
    was looked for, if it had to be, and then came log lines; nobody was asked for an identity, and
    there was no request. -/
structure PassedOver (name : Value) (h : Host) (run : Except Failure Outcome × Host) : Prop where
  outcome : run.1 = .ok (.disabled name)
  course : ∃ h₀, h.Sought h₀ ∧ Host.Logged h₀ run.2
  /-- What was asked is whether a directory may be written. -/
  events : ∃ es, run.2.events = h.events ++ es ∧ ∀ e ∈ es, ∃ path, e = .probe path
  answers : run.2.answers = h.answers
  /-- The disk is as it was, if no log lines go there. -/
  disk : h.log.sinks = [] → run.2.disk = h.disk
  logs : ∀ logs, h.LogsTo logs → Disk.LogsOnly logs h.disk run.2.disk

theorem passedOver_of_logged {name : Value} {h h₀ g : Host} (hsought : h.Sought h₀)
    (hlogged : Host.Logged h₀ g) : PassedOver name h (.ok (.disabled name), g) where
  outcome := rfl
  course := ⟨h₀, hsought, hlogged⟩
  events := by
    have hevents : g.events = h₀.events := congrArg List.reverse hlogged.trace
    rw [hevents]
    exact hsought.events
  answers := by
    have hsame : h₀.answers = h.answers := by rw [hsought.rest]
    obtain ⟨_, _, _, _, rfl⟩ := hlogged.frame
    exact hsame
  disk hs := by
    have hsame : h₀.disk = h.disk ∧ h₀.log.sinks = h.log.sinks := by
      rw [hsought.rest]
      exact ⟨rfl, rfl⟩
    obtain ⟨_, _, rfl⟩ := hlogged.frame_of_no_sinks (hsame.2.trans hs)
    exact hsame.1
  logs logs hl := by
    have hlater := hsought.later logs
    exact hlater.disk.trans (hlogged.logsOnly (hlater.logsTo hl)).1

/-- **One run** of a validated configuration, with the provider that it asks for or with another. -/
theorem resolve_off {c : AppConfig} {d : Disk} {cwd : Location} (hvalid : c.validate d cwd = .ok ())
    (hoff : isSecure c.cluster = .ok false) (stage : Bool) (given : Option IdentityProvider)
    (clients : Clients) {h : Host} (hr : HasRoot c.stagingRoot h) :
    PassedOver c.clusterName h ((resolve c stage (given.elim (providerOf c) .ok) clients).on h) := by
  obtain ⟨p, hp⟩ := provider_ok (identity_of_validate hvalid) given
  obtain ⟨h₀, g, hsought, hlogged, hon⟩ :=
    resolve_off_on (AppConfig.validated_of_ok hvalid) hoff stage p clients hr
  rw [hp, hon]
  exact passedOver_of_logged hsought hlogged

/-! ## Two runs -/

/-- **With security off nothing else matters.**  Two configurations that were validated, on any disks,
    have the same name and clusters that are not secure, and differ in anything else.  Whether or not
    the keytab is wanted, with the providers that they ask for or with any others, and on any two hosts
    with any services where their stagers have roots, they are resolved with one outcome, and no more
    is done than to look for a root and to log it. -/
theorem resolve_off_noninterference {c c' : AppConfig} {d d' : Disk} {cwd cwd' : Location}
    (hvalid : c.validate d cwd = .ok ()) (hvalid' : c'.validate d' cwd' = .ok ())
    (hname : c'.clusterName = c.clusterName) (hoff : isSecure c.cluster = .ok false)
    (hoff' : isSecure c'.cluster = .ok false) (stage stage' : Bool)
    (given given' : Option IdentityProvider) (clients clients' : Clients) {h h' : Host}
    (hr : HasRoot c.stagingRoot h) (hr' : HasRoot c'.stagingRoot h') :
    let run := (resolve c stage (given.elim (providerOf c) .ok) clients).on h
    let run' := (resolve c' stage' (given'.elim (providerOf c') .ok) clients').on h'
    run'.1 = run.1 ∧ PassedOver c.clusterName h run ∧ PassedOver c.clusterName h' run' := by
  intro run run'
  have hfirst : PassedOver c.clusterName h run := resolve_off hvalid hoff stage given clients hr
  have hsecond : PassedOver c'.clusterName h' run' :=
    resolve_off hvalid' hoff' stage' given' clients' hr'
  rw [hname] at hsecond
  exact ⟨hsecond.outcome.trans hfirst.outcome.symm, hfirst, hsecond⟩

/-- A cluster without Kerberos, and settings that would be refused with it: two ways to the keytab, and
    nobody to log in as. -/
def conflictingConfig : AppConfig where
  clusterName := .str "c"
  cluster := .map [(.str authenticationKey, .str "simple")]
  components := .map [(.str masterComponent, .map [(.str localKeytabKey, .str "/k"),
    (.str sharedKeytabKey, .str "am.keytab")])]
  loginIdentity := .str "ticket_cache"
  sharedStore := .map [(.str "base_path", .str "/mnt")]

/-- The name of a cluster, and no settings. -/
def nameConfig : AppConfig where
  clusterName := .str "c"

/-- Both can be found fit, and neither is secure. -/
theorem configs_off :
    conflictingConfig.validate Disk.empty [] = .ok () ∧ nameConfig.validate Disk.empty [] = .ok () ∧
      isSecure conflictingConfig.cluster = .ok false ∧ isSecure nameConfig.cluster = .ok false := by
  refine ⟨Ending.ok_of_of? (by decide +kernel), Ending.ok_of_of? (by decide +kernel), ?_,
    isSecure_map []⟩
  have hsimple : isOn [(.str authenticationKey, .str "simple")] = false := by decide +kernel
  rw [← hsimple]
  exact isSecure_map _

/-- One asks a cache that cannot be listed and the other nobody, and both are passed over. -/
theorem resolve_off_noninterference_conflicting :
    let failing : Host :=
      { answers := [.error (.systemText "OSError" "no identity")], tempDir := some "/t" }
    let run := (resolve conflictingConfig true (providerOf conflictingConfig) noClients).on failing
    let run' := (resolve nameConfig false (.ok .prepared) noClients).on failing
    conflictingConfig.validate Disk.empty [] = .ok () ∧ nameConfig.validate Disk.empty [] = .ok () ∧
      isSecure conflictingConfig.cluster = .ok false ∧ isSecure nameConfig.cluster = .ok false ∧
      HasRoot conflictingConfig.stagingRoot failing ∧ HasRoot nameConfig.stagingRoot failing ∧
      run'.1 = run.1 ∧ PassedOver (.str "c") failing run ∧ PassedOver (.str "c") failing run' := by
  intro failing run run'
  obtain ⟨hvalid, hvalid', hoff, hoff'⟩ := configs_off
  have hr : HasRoot conflictingConfig.stagingRoot failing := .inr (.inl rfl)
  have hr' : HasRoot nameConfig.stagingRoot failing := .inr (.inl rfl)
  exact ⟨hvalid, hvalid', hoff, hoff', hr, hr', resolve_off_noninterference hvalid hvalid' rfl hoff
    hoff' true false none (some .prepared) noClients noClients hr hr'⟩

/-- **What a log does to the disk**: where the log goes to a file, a run with security off changes this
    file. -/
theorem resolve_off_noninterference_limits :
    nameConfig.validate loggingHost.disk loggingHost.workDir = .ok () ∧
      isSecure nameConfig.cluster = .ok false ∧
      ((resolve nameConfig true (.ok .prepared) noClients).on loggingHost).2.disk ≠
        loggingHost.disk := by
  refine ⟨Ending.ok_of_of? (by decide +kernel), isSecure_map [], ?_⟩
  have hplain : loggingHost.LogsPlain "/l" 1 ⟨0o644, "line"⟩ := loggingHost_logsPlain (fun _ => rfl) rfl
  -- two records are made, one by the validation
  obtain ⟨r, r', hlevel, hrun⟩ : ∃ r r', Log.debug ≤ r.level ∧
      ((resolve nameConfig true (.ok .prepared) noClients).on loggingHost).2 =
        (loggingHost.logRecord r).logRecord r' := ⟨_, _, Int.le_refl _, rfl⟩
  rw [hrun]
  exact hplain.disk_ne (by decide) hlevel ⟨[r'], rfl⟩

end SecureStartup.Startup
