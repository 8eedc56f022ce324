import SecureStartup.Proofs.Config.Loaded
import SecureStartup.Proofs.Config.Loading
import SecureStartup.Proofs.Disk.Entries
import SecureStartup.Proofs.Startup.ExitCode

/-!
  How resolving the security of a loaded configuration can fail.

  1. **Program** — `load_config`, and `resolve_security` of what it has loaded, which is documented to fail
     with an issue of the set-up or a failure of the system.

  2. **Specification** — validation finds most of what start-up cannot work with, and what is found later
     still has an exit code, since it is an issue of the set-up, the system's, or a wrong value.
     `resolve_loaded` says for which loaded configurations this is so, and names the values that get
     through:

     * settings of the cluster that are no mapping, which nothing can be asked of;
     * the place of a mounted store, if it is no text, or leads into a loop of symbolic links.

  3. **The proof** follows the steps of `resolve`.  `resolve_reaches` says how far every run gets: security
     is off, or a failure with a code ends it, or it comes to the store, whether the keytab is wanted or
     not.  From there `course_fails` goes over the requests of a staging.
-/

namespace SecureStartup.Startup

open SecureStartup.Config SecureStartup.Security SecureStartup.Store SecureStartup.KeytabStager

/-! ## Failures with a code -/

/-- **A failure with an exit code**: an issue of the set-up, the system's, or a wrong value. -/
def HasCode (f : Failure) : Prop := (codeOf? f).isSome = true

section HasCode

variable {f : Failure}

theorem hasCode_of_ending (hf : Ending.of (.error f : Except Failure Unit) ≠ .escapes) :
    HasCode f := by
  unfold HasCode
  rcases hcode : codeOf? f with _ | code
  · refine absurd ?_ hf
    show (codeOf? f).elim Ending.escapes Ending.exits = _
    rw [hcode]
    rfl
  · rfl

theorem hasCode_of_plain (hf : f.Plain) : HasCode f := by
  have hends : Ending.of (.error f : Except Failure Unit) = _ := Ending.of_plain hf
  refine hasCode_of_ending ?_
  rw [hends]
  exact nofun

theorem hasCode_asIssue (words : Failure → String) (issue : (reason : String) → SetupIssue)
    (hf : f.Plain) (ht : f.isTold = true) : HasCode (asIssue words issue f) := by
  by_cases hs : f.isSystem = true
  · obtain ⟨reason, hissue⟩ := asIssue_system words issue hs ht
    rw [hissue]
    rfl
  · unfold asIssue
    rw [if_neg hs]
    exact hasCode_of_plain hf

/-- What is wrong with a set-up has a code. -/
theorem hasCode_of_problem {cluster settings : Entries}
    {found : Except Failure (Option LoginIdentity)}
    (hfound : ∀ g, found = .error g → g.isSystem = true)
    (hf : problem? cluster settings found = some f) : HasCode f := by
  have hon : isOn cluster = true := by
    unfold problem? at hf
    split at hf
    · assumption
    · exact nomatch hf
  have hends := @validation_ends cluster settings hon found hfound
  rw [hf] at hends
  refine hasCode_of_ending fun hescapes => ?_
  rw [Option.map_some, hescapes] at hends
  exact validationEnding?_ne_escapes settings found hends

/-- That there is no principal has a code. -/
theorem hasCode_of_principal {α : Type} {settings : Entries}
    {found : Except Failure (Option LoginIdentity)}
    (hf : Ending.of? (.error f : Except Failure α) = principalEnding? settings found) :
    HasCode f := by
  refine hasCode_of_ending fun hescapes => ?_
  change some (Ending.of (.error f : Except Failure Unit)) = _ at hf
  rw [hescapes] at hf
  exact principalEnding?_ne_escapes settings found hf.symm

end HasCode

/-! ## The way to the store -/

/-- **A host on which questions were asked**: nothing has happened but a search for the directory for
    temporary files, lookups of the identity and log lines. -/
structure Asked (h g : Host) : Prop where
  rest : ∃ d log out err trace answers tempDir, g =
    { h with
      disk := d, log := log, out := out, err := err, trace := trace, answers := answers
      tempDir := tempDir }
  later : ∀ logs, h.LogsTo logs → Host.Later logs h g

namespace Asked

variable {h g k : Host}

theorem trans (a : Asked h g) (b : Asked g k) : Asked h k := by
  refine ⟨?_, fun logs hl => ?_⟩
  · obtain ⟨_, _, _, _, _, _, _, rfl⟩ := a.rest
    obtain ⟨_, _, _, _, _, _, _, rfl⟩ := b.rest
    exact ⟨_, _, _, _, _, _, _, rfl⟩
  · have hg := a.later logs hl
    exact hg.trans (b.later logs (hg.logsTo hl))

theorem of_logged (a : Host.Logged h g) : Asked h g := by
  refine ⟨?_, fun logs hl => Host.Later.of_logged hl a⟩
  obtain ⟨_, _, _, _, rfl⟩ := a.frame
  exact ⟨_, _, _, _, _, _, _, rfl⟩

theorem of_sought (a : Host.Sought h g) : Asked h g := by
  refine ⟨?_, fun logs _ => a.later logs⟩
  rw [a.rest]
  exact ⟨_, _, _, _, _, _, _, rfl⟩

theorem of_lookUp (h : Host) : Asked h (IdentityProvider.prepared.lookUp.on h).2 := by
  refine ⟨?_, fun logs _ => asked_later logs h⟩
  rw [lookUp_prepared_on]
  exact ⟨_, _, _, _, _, _, _, rfl⟩

/-- A lookup, if there has to be one, and log lines. -/
theorem of_lookUp_logged {needed : Bool}
    (a : Host.Logged (if needed then (IdentityProvider.prepared.lookUp.on h).2 else h) g) :
    Asked h g := by
  cases needed
  · exact of_logged a
  · exact (of_lookUp h).trans (of_logged a)

end Asked

theorem AnswersAreSystem.lookUp {h : Host} (a : AnswersAreSystem h.answers) {f : Failure}
    (hf : (IdentityProvider.prepared.lookUp.on h).1 = .error f) : f.isSystem = true := by
  rw [lookUp_prepared_on] at hf
  exact a.answer hf

theorem AnswersAreSystem.lookedUp {h g : Host} (a : AnswersAreSystem h.answers) {needed : Bool}
    (b : Host.Logged (if needed then (IdentityProvider.prepared.lookUp.on h).2 else h) g) :
    AnswersAreSystem g.answers := by
  obtain ⟨_, _, _, _, rfl⟩ := b.frame
  cases needed
  · exact a
  · rw [lookUp_prepared_on]
    exact a.next

/-- What is done once the principal and the way to the keytab are known. -/
def conclude (c : AppConfig) (s : Setup) (principal : String) (source : KeytabSource) (stage : Bool)
    (clients : Clients) : Act Outcome := do
  let keytab ← if stage then some <$> keytabOf c s principal clients else pure none
  Act.log logger Log.info "Security configuration resolved"
    [("principal", .str principal), ("keytab_source", .str source.describe),
     ("keytab_path", keytab.elim .none .str)]
  return .enabled c.clusterName principal source.describe keytab

/-- **How far every run gets**, whether or not the keytab is wanted: a failure with a code ends it, or
    security is off, or it comes to the keytab. -/
theorem resolve_reaches {c : AppConfig} (a : c.Validated) {cluster : Entries}
    (hc : c.cluster = .map cluster) {h : Host} (hanswers : AnswersAreSystem h.answers) :
    (∃ f, HasCode f ∧ ∀ stage clients, ∃ g,
      (resolve c stage (.ok .prepared) clients).on h = (.error f, g)) ∨
    (∀ stage clients, ((resolve c stage (.ok .prepared) clients).on h).1 =
      .ok (.disabled c.clusterName)) ∨
    ∃ s principal source g, s.clusterName = c.clusterName ∧ s.source = .ok source ∧ Asked h g ∧
      ∀ stage clients, (resolve c stage (.ok .prepared) clients).on h =
        (conclude c s principal source stage clients).on g := by
  obtain ⟨components, settings, hdef, hset⟩ := a.settings
  by_cases hrooted : HasRoot c.stagingRoot h
  swap
  · -- the stager has no root
    obtain ⟨args, hmake⟩ := setupOf_rootless hdef .prepared hrooted
    exact .inl ⟨_, hasCode_of_plain (.inl rfl), fun stage clients => ⟨h, Act.on_bind_error hmake⟩⟩
  obtain ⟨stager, h₀, hroot, hsought⟩ := ofRoot_ok a.root hrooted
  have hanswers₀ : AnswersAreSystem h₀.answers := by
    rw [hsought.rest]
    exact hanswers
  obtain ⟨h₁, hmake, hlog₁⟩ := setupOf_on a hc hdef hset .prepared hroot
  rcases hproblem : problem? cluster settings (IdentityProvider.prepared.lookUp.on h₀).1 with
    _ | f <;> rw [hproblem] at hmake
  swap
  · -- the set-up is refused
    exact .inl ⟨f, hasCode_of_problem (fun g hg => hanswers₀.lookUp hg) hproblem,
      fun stage clients => ⟨h₁, Act.on_bind_error hmake⟩⟩
  let s : Setup := ⟨.map cluster, components, c.clusterName, .prepared, stager⟩
  have henabled : s.isEnabled = .ok (isOn cluster) := isSecure_map cluster
  by_cases hon : isOn cluster = true
  swap
  · rw [Bool.eq_false_iff.mpr hon] at henabled
    exact .inr (.inl fun stage clients => (resolve_on hmake stage clients).2 henabled)
  rw [hon] at henabled
  have hrun : ∀ stage clients, (resolve c stage (.ok .prepared) clients).on h =
      (resolveEnabled c s stage clients).on h₁ := fun stage clients =>
    (resolve_on hmake stage clients).1 henabled
  -- the choice of the keytab is part of what was validated
  have hchoice := keytabProblem?_of_on hon hproblem
  obtain ⟨source, hsource⟩ : ∃ source, s.source = .ok source := by
    unfold Setup.source
    rw [show s.settings = .map settings from hset, ofSettings_of_choice hchoice]
    exact ⟨_, rfl⟩
  have hanswers₁ : AnswersAreSystem h₁.answers := hanswers₀.lookedUp hlog₁
  obtain ⟨r, g, hprincipal, hends, hlogged⟩ :=
    principalOf_on .prepared settings h₁ fun f hf => hanswers₁.lookUp hf
  have hp : s.principal.on h₁ = (r, g) := by
    unfold Setup.principal
    rw [show s.settings = .map settings from hset, hprincipal]
  rcases r with f | principal
  · -- there is no principal
    refine .inl ⟨f, hasCode_of_principal hends, fun stage clients => ⟨g, ?_⟩⟩
    rw [hrun]
    exact Act.on_bind_error hp
  · have hg : Asked h₁ g := by
      rcases hset : isSet (Entries.field settings principalKey) with _ | _ <;> rw [hset] at hlogged
      · exact (Asked.of_lookUp h₁).trans (Asked.of_logged hlogged)
      · exact Asked.of_logged hlogged
    refine .inr (.inr ⟨s, principal, source, g, rfl, hsource,
      ((Asked.of_sought hsought).trans (Asked.of_lookUp_logged hlog₁)).trans hg, fun stage clients => ?_⟩)
    rw [hrun]
    unfold resolveEnabled
    rw [Act.on_bind_ok hp, hsource]
    rfl

/-- With the keytab, all that can fail is the keytab. -/
theorem conclude_error {c : AppConfig} {s : Setup} {principal : String} {source : KeytabSource}
    {clients : Clients} {g g' : Host} {f : Failure} :
    (conclude c s principal source true clients).on g = (.error f, g') ↔
      (keytabOf c s principal clients).on g = (.error f, g') := by
  unfold conclude
  rw [if_pos rfl, Act.on_bind, Act.on_map]
  rcases (keytabOf c s principal clients).on g with ⟨f' | path, k⟩
  · constructor <;> (intro hf; cases hf; rfl)
  · exact ⟨nofun, nofun⟩

/-! ## The keytab -/

section Staging

variable {e : Errand} {cluster : String}

theorem ask_ne_planned {st st' : Stage} {h h' : Host} (hx : (e.ask st).on h = (.ok st', h'))
    (dir : PurePath) : st' ≠ .planned dir := by
  rintro rfl
  cases st with
  | staged dir remote => exact nomatch hx
  | _ =>
    obtain ⟨_, _, _, hx⟩ := Act.on_bind_eq_ok hx
    exact nomatch hx

/-- What a plain failure that can say what it is is reported as has a code, too. -/
theorem hasCode_report (words : Failure → String) (st : Stage) {f : Failure} (hf : f.Plain)
    (ht : f.isTold = true) : HasCode (e.report words st f) := by
  cases st with
  | planned dir => exact hasCode_asIssue words _ hf ht
  | made dir => exact hasCode_asIssue words _ hf ht
  | copied dir remote => exact hasCode_asIssue words _ hf ht
  | closed _ | located _ _ | staged _ _ => exact hasCode_of_plain hf

/-- A failed request has a code, or has found a loop of links. -/
theorem ask_fails (hc : e.cluster = .str cluster) (hp : e.store.Plain e.cluster)
    (hcopy : ∀ remote target h f h', (e.store.copy remote target false).on h = (.error f, h') →
      f.Plain ∨ f.LoopsOn h')
    {st : Stage} {h h' : Host} {f : Failure} (hmode : AllSystem h.setModeFaults)
    (hmake : ∀ dir, st = .planned dir → AllSystem h.makeDirFaults)
    (hx : (e.ask st).on h = (.error f, h')) :
    HasCode (e.report h'.words st f) ∨ (e.report h'.words st f).LoopsOn h' := by
  cases st with
  | planned dir =>
    have hreply : (makeDir dir.text).on h = (.error f, h') := Act.on_bind_pure_eq_error hx
    have hf := failsOnly_makeDir (hmake dir rfl) f (congrArg Prod.fst hreply)
    exact .inl (hasCode_report _ _ hf (makeDir_told hreply))
  | made dir =>
    have hreply : (setMode dir.text stagingDirMode).on h = (.error f, h') :=
      Act.on_bind_pure_eq_error hx
    have hf := failsOnly_setMode hmode _ f (congrArg Prod.fst hreply)
    exact .inl (hasCode_report _ _ hf (setMode_told hreply))
  | closed dir =>
    obtain ⟨answer, hb, hname⟩ := hp.build e.keytab h
    have hanswer := congrArg Prod.fst (Act.on_bind_pure_eq_error hx)
    rw [hb] at hanswer
    have hf := hname f hanswer
    rw [hc] at hf
    obtain ⟨why, rfl⟩ := hf
    exact .inl rfl
  | located dir remote =>
    have hreply : (e.store.copy remote (e.file dir remote) false).on h = (.error f, h') :=
      Act.on_bind_pure_eq_error hx
    exact (hcopy remote _ h f h' hreply).imp hasCode_of_plain id
  | copied dir remote =>
    have hreply : (setMode (e.file dir remote) stagedKeytabMode).on h = (.error f, h') :=
      Act.on_bind_pure_eq_error hx
    have hf := failsOnly_setMode hmode _ f (congrArg Prod.fst hreply)
    exact .inl (hasCode_report _ _ hf (setMode_told hreply))
  | staged dir remote =>
    rw [Errand.ask, Act.on_pure] at hx
    cases hx

/-- **A failed staging** has a code, or has found a loop of links.  By induction on the number of steps
    left. -/
theorem course_fails (hc : e.cluster = .str cluster) (hp : e.store.Plain e.cluster)
    (hcopy : ∀ remote target h f h', (e.store.copy remote target false).on h = (.error f, h') →
      f.Plain ∨ f.LoopsOn h')
    (n : Nat) {st : Stage} {h : Host} {f : Failure} (hmode : AllSystem h.setModeFaults)
    (hmake : ∀ dir, st = .planned dir → AllSystem h.makeDirFaults)
    (hf : (e.course n st h).outcome = .error f) :
    HasCode f ∨ f.LoopsOn (e.course n st h).after := by
  induction n generalizing st h with
  | zero => exact nomatch hf
  | succ n ih =>
    rcases hr : e.request st with _ | r
    · rw [e.course_of_none hr] at hf
      exact nomatch hf
    · rcases hx : (e.ask st).on h with ⟨g | st', h'⟩
      · rw [e.course_of_error hr hx] at hf ⊢
        cases hf
        exact ask_fails hc hp hcopy hmode hmake hx
      · rw [e.course_of_ok hr hx] at hf ⊢
        have hmode' : AllSystem ((e.remark st').on h').2.setModeFaults := by
          rw [(e.remark_logged st' h').setModeFaults]
          exact ask_setModeFaults hp hmode hx
        -- a directory is only made in the first step
        refine ih hmode' (fun dir hdir => ?_) hf
        exact absurd hdir (ask_ne_planned hx dir)

end Staging

/-- What a store needs to copy, whichever it is. -/
theorem anyStore_copy_fails {store : AnyStore} (hs : HasPlainClient store) {remote target : String}
    {h h' : Host} {f : Failure}
    (hf : (store.shared.copy remote target false).on h = (.error f, h')) :
    f.Plain ∨ f.LoopsOn h' := by
  cases store with
  | onHost s => exact LocalStore.copy_fails hf
  | hdfs s => exact .inl (HdfsStore.failsOnly_copy hs remote target h f (congrArg Prod.fst hf))

/-- **The keytab of a validated set-up**, from a store that is there or not. -/
theorem keytabFile_fails {s : Setup} {cluster : String} (hc : s.clusterName = .str cluster)
    {source : KeytabSource} (hsource : s.source = .ok source) {store : Option AnyStore}
    (hstore : ∀ st, store = some st → st.shared.Plain s.clusterName ∧ HasPlainClient st)
    {g g' : Host} (hmake : AllSystem g.makeDirFaults) (hmode : AllSystem g.setModeFaults)
    {principal : String} {f : Failure}
    (hf : (s.keytabFile (store.map (·.shared)) principal).on g = (.error f, g')) :
    HasCode f ∨ f.LoopsOn g' := by
  unfold Setup.keytabFile at hf
  rw [hsource] at hf
  cases source with
  | onHost path =>
    rcases store with _ | st <;> exact nomatch hf
  | shared name =>
    rcases store with _ | st
    · cases hf
      exact .inl rfl
    · let e : Errand := ⟨st.shared, name, s.clusterName⟩
      obtain ⟨hp, hclient⟩ := hstore st rfl
      obtain ⟨k, hlogged, hfile⟩ := file_shared_on e s.stager principal g
      change ((KeytabSource.shared e.keytab).file s.stager e.store e.cluster principal).on g = _ at hf
      rw [hfile, Errand.fetch_on] at hf
      -- Faults that are to come are not touched by the log.
      have hmake' : AllSystem (named k).makeDirFaults := by
        obtain ⟨_, _, _, _, rfl⟩ := hlogged.frame
        exact hmake
      have hmode' : AllSystem (named k).setModeFaults := by
        obtain ⟨_, _, _, _, rfl⟩ := hlogged.frame
        exact hmode
      have hends := course_fails (e := e) hc hp (fun _ _ _ _ _ => anyStore_copy_fails hclient) 5 hmode'
        (fun _ _ => hmake') (congrArg Prod.fst hf)
      rw [show (e.course 5 (.planned (s.stager.nextDir k)) (named k)).after = g' from
        congrArg Prod.snd hf] at hends
      exact hends

/-- **The keytab that is wanted**: a failure has a code, or there is a loop of links, or no client. -/
theorem keytabOf_fails {c : AppConfig} (a : Loaded c) (htext : HasTextualStore c)
    {fails : Failure → Prop} {clients : Clients} {h g g' : Host}
    (hclients : MakesClients fails clients h) (hg : Asked h g)
    (hmake : AllSystem h.makeDirFaults) (hmode : AllSystem h.setModeFaults) {s : Setup}
    (hname : s.clusterName = c.clusterName) {source : KeytabSource} (hsource : s.source = .ok source)
    {principal : String} {f : Failure}
    (hf : (keytabOf c s principal clients).on g = (.error f, g')) :
    HasCode f ∨ f.LoopsOn g' ∨ fails f := by
  obtain ⟨cluster, hcluster⟩ := a.named
  have hsame : (g.env = h.env ∧ g.userRecord = h.userRecord) ∧
      g.makeDirFaults = h.makeDirFaults ∧ g.setModeFaults = h.setModeFaults := by
    obtain ⟨_, _, _, _, _, _, _, rfl⟩ := hg.rest
    exact ⟨⟨rfl, rfl⟩, rfl, rfl⟩
  obtain ⟨r, hr, hplain, hstore⟩ :=
    ofSettings_on a.validated htext hclients hsame.1.1 hsame.1.2
  unfold keytabOf at hf
  -- the store cannot be made, or the staging fails
  rcases r with f' | store
  · rw [Act.on_bind_error hr] at hf
    cases hf
    exact (hplain f rfl).imp hasCode_of_plain id
  · rw [Act.on_bind_ok hr] at hf
    rw [← hsame.2.1] at hmake
    rw [← hsame.2.2] at hmode
    have hstored : ∀ st, store = some st → st.shared.Plain s.clusterName ∧ HasPlainClient st := by
      intro st hst
      rw [hname]
      exact hstore st (congrArg Except.ok hst)
    exact (keytabFile_fails (hname.trans hcluster) hsource hstored hmake hmode hf).imp id .inl

/-! ## What validation lets through -/

/-- **Settings of the cluster that are no mapping** cannot be asked whether security is on. -/
theorem resolve_not_mapping {c : AppConfig} (a : Loaded c) (hc : ∀ es, c.cluster ≠ .map es)
    (stage : Bool) (provider : IdentityProvider) (clients : Clients) {h : Host}
    (hrooted : HasRoot c.stagingRoot h) :
    ((resolve c stage (.ok provider) clients).on h).1 = .error (.mismatch .noPart) := by
  obtain ⟨components, _, hdef, _⟩ := a.validated.settings
  obtain ⟨stager, h₀, hroot, _⟩ := ofRoot_ok a.validated.root hrooted
  obtain ⟨name, hname⟩ := a.named
  have hmake : ∃ g, (Setup.make c.cluster (some components) c.clusterName provider stager).on h₀ =
      (.error (.mismatch .noPart), g) := by
    rw [hname]
    cases hv : c.cluster with
    | none => exact absurd hv a.cluster
    | map es => exact absurd hv (hc es)
    | _ => exact ⟨h₀, rfl⟩
  obtain ⟨g, hmake⟩ := hmake
  rw [← setupOf_make hdef provider hroot] at hmake
  exact congrArg Prod.fst (Act.on_bind_error hmake)

/-- A mounted store is configured, at this place. -/
def MountsAt (c : AppConfig) (place : Value) : Prop :=
  ∃ es : Entries, c.sharedStore = .map es ∧ (Value.map es).truthy = true ∧
    (AppConfig.storeKind es).same (.str "local") = true ∧ es.field "base_path" = place

/-- The place is given, since that was validated. -/
theorem MountsAt.given {c : AppConfig} (a : Loaded c) {place : Value} (hm : MountsAt c place) :
    place.truthy = true := by
  obtain ⟨es, hes, htrue, hkind, hbase⟩ := hm
  obtain ⟨es', hes', hstore⟩ := a.validated.store (by rw [hes]; exact htrue)
  cases hes.symm.trans hes'
  rcases hstore with ⟨_, ht⟩ | ⟨hno, _⟩
  · rw [← hbase]
    exact ht
  · rw [hkind] at hno
    exact nomatch hno

/-- **A store that cannot be made** ends the start-up that wants the keytab. -/
theorem resolve_store_error {c : AppConfig} (a : Loaded c) {cluster : Entries}
    (hc : c.cluster = .map cluster) {clients : Clients} {h : Host}
    (hanswers : AnswersAreSystem h.answers) {name : Value} {principal source : String}
    {keytab : Option String}
    (hon : ((resolve c false (.ok .prepared) clients).on h).1 =
      .ok (.enabled name principal source keytab)) {f : Failure}
    (hstore : ∀ g, Asked h g → ((ofSettings c.sharedStore clients).on g).1 = .error f) :
    ((resolve c true (.ok .prepared) clients).on h).1 = .error f := by
  rcases resolve_reaches a.validated hc hanswers with
    ⟨f', _, hrun⟩ | hrun | ⟨s, principal', source', g, _, _, hg, hrun⟩
  · obtain ⟨g, hrun⟩ := hrun false clients
    rw [hrun] at hon
    exact nomatch hon
  · rw [hrun false clients] at hon
    exact nomatch hon
  · rw [hrun true clients]
    rcases hx : (ofSettings c.sharedStore clients).on g with ⟨f' | store, k⟩ <;>
      have hf := hstore g hg <;> rw [hx] at hf <;> cases hf
    have hkeytab : (keytabOf c s principal' clients).on g = (.error f, k) := Act.on_bind_error hx
    exact congrArg Prod.fst (conclude_error.mpr hkeytab)

/-- The place of a mounted store has to be a path. -/
theorem ofSettings_no_path {c : AppConfig} (a : Loaded c) {place : Value} (hm : MountsAt c place)
    (hno : ∀ p, place.asPath ≠ .ok p) (clients : Clients) (g : Host) :
    ((ofSettings c.sharedStore clients).on g).1 = .error (.mismatch .wrongType) := by
  have hplace : place.asPath = .error (.mismatch .wrongType) := by
    cases place with
    | str s => exact absurd rfl (hno _)
    | path p => exact absurd rfl (hno _)
    | _ => rfl
  have hgiven := hm.given a
  obtain ⟨es, hes, htrue, hkind, hbase⟩ := hm
  have hlocal : (localOf es).on g = (.error (.mismatch .wrongType), g) := by
    unfold localOf LocalStore.at_
    simp only [hbase, hgiven, hplace]
    rfl
  rw [hes, ofSettings_local htrue hkind, Act.on_bind_error hlocal]

/-- **A place in a loop of links** is found only when the store is made. -/
theorem ofSettings_loop {c : AppConfig} (a : Loaded c) {place : String}
    (hm : MountsAt c (.str place)) (hpath : Invalid.forSystem? (PurePath.ofString place).text = none)
    {loop : Location} (clients : Clients) {g : Host}
    (hloop : g.disk.canonical g.workDir (PurePath.ofString place).text = .error loop) :
    ((ofSettings c.sharedStore clients).on g).1 = .error (.linkLoop (Disk.locationText loop)) := by
  have hgiven := hm.given a
  obtain ⟨es, hes, htrue, hkind, hbase⟩ := hm
  have ht : (es.field "base_path").truthy = true := by
    rw [hbase]
    exact hgiven
  have hresolve : (Store.resolve (PurePath.ofString place).text).on g =
      (.error (.linkLoop (Disk.locationText loop)), g) := by
    unfold Store.resolve
    rw [Act.on_bind, Act.on_checkPath, hpath]
    show ((get : Act Host) >>= _).on g = _
    rw [Act.on_bind_ok (Act.on_get g), hloop]
    rfl
  rw [hes, ofSettings_local htrue hkind, localOf_eq hbase ht,
    Act.on_bind_error (Act.on_bind_error hresolve)]

/-- **Resolving the security of a loaded configuration**, whatever document, environment and overrides
    it came from, on every host whose lookups and faults are the system's.  There is a provider for
    its source of the login identity.  With settings of the cluster that are a mapping, and texts for
    the paths and addresses of the store, a failure has an exit code, or a path has led into a loop of
    links, or it is one to make a client.  But settings of the cluster that are no mapping, a place of
    a mounted store that is no path, and one in a loop of links end it without a code. -/
theorem resolve_loaded {given overrides : Value} {h₀ h₁ : Host} {c : AppConfig}
    (hload : (load given overrides).on h₀ = (.ok c, h₁)) (stage : Bool) (clients : Clients) (h : Host)
    (hanswers : AnswersAreSystem h.answers) (hmake : AllSystem h.makeDirFaults)
    (hmode : AllSystem h.setModeFaults) :
    (∃ p, providerOf c = .ok p) ∧
    (∀ es fails, c.cluster = .map es →
      (stage = true → HasTextualStore c ∧ MakesClients fails clients h) →
      ∀ f h', (resolve c stage (.ok .prepared) clients).on h = (.error f, h') →
        HasCode f ∨ stage = true ∧ (f.LoopsOn h' ∨ fails f)) ∧
    -- what validation lets through
    ((∀ es, c.cluster ≠ .map es) → HasRoot c.stagingRoot h →
      ((resolve c stage (.ok .prepared) clients).on h).1 = .error (.mismatch .noPart)) ∧
    (∀ es name principal source keytab, c.cluster = .map es →
      ((resolve c false (.ok .prepared) clients).on h).1 =
        .ok (.enabled name principal source keytab) →
      (∀ place, MountsAt c place → (∀ p, place.asPath ≠ .ok p) →
        ((resolve c true (.ok .prepared) clients).on h).1 = .error (.mismatch .wrongType)) ∧
      ∀ place loop logs, MountsAt c (.str place) → h.LogsTo logs →
        Invalid.forSystem? (PurePath.ofString place).text = none →
        h.disk.canonical h.workDir (PurePath.ofString place).text = .error loop →
        ((resolve c true (.ok .prepared) clients).on h).1 =
          .error (.linkLoop (Disk.locationText loop))) ∧
    (∀ why, ¬ HasCode (.mismatch why)) ∧ ∀ loop, ¬ HasCode (.linkLoop loop) := by
  have a : Loaded c := loaded_of_ok hload
  refine ⟨providerOf_ok a.identity, ?_, fun hc hroot => resolve_not_mapping a hc stage .prepared clients hroot,
    ?_, nofun, nofun⟩
  · intro cluster fails hc hstage f h' hf
    rcases resolve_reaches a.validated hc hanswers with
      ⟨f', hcode, hrun⟩ | hrun | ⟨s, principal, source, g, hname, hsource, hg, hrun⟩
    · obtain ⟨g, hrun⟩ := hrun stage clients
      cases hrun.symm.trans hf
      exact .inl hcode
    · exact nomatch (hrun stage clients).symm.trans (congrArg Prod.fst hf)
    · rw [hrun] at hf
      cases stage with
      | false => exact nomatch (congrArg Prod.fst hf)
      | true =>
        obtain ⟨htext, hclients⟩ := hstage rfl
        have hkeytab := conclude_error.mp hf
        exact (keytabOf_fails a htext hclients hg hmake hmode hname hsource hkeytab).imp id
          fun hother => ⟨rfl, hother⟩
  · intro cluster name principal source keytab hc hon
    refine ⟨fun place hm hno => ?_, fun place loop logs hm hl hpath hloop => ?_⟩
    · exact resolve_store_error a hc hanswers hon fun g _ => ofSettings_no_path a hm hno clients g
    · refine resolve_store_error a hc hanswers hon fun g hg => ?_
      refine ofSettings_loop a hm hpath clients ?_
      -- log lines have not changed where links lead
      have hlater := hg.later logs hl
      rw [hlater.setting.workDir, (hlater.disk.ways hl.places).canonical]
      exact hloop

/-! ## A cluster that is a number -/

/-- A configuration in which the settings of the cluster are a number. -/
def numberText : String := "appmaster:\n  cluster_name: c\n  cluster: 5\n"

/-- The configuration is loaded, as far as the cluster's settings go. -/
theorem numberText_loaded :
    ((configurationAt (hostWith [] numberText) "/c.yaml").toOption.bind
      fun c => c.cluster.asInt?) = some 5 := by
  have hexists : existsAt (hostWith [] numberText) "/c.yaml" = .ok true := hostWith_exists [] _
  have hshared : sharedAt (hostWith [] numberText) "/c.yaml" =
      parsed (hostWith [] numberText) numberText := hostWith_sharedAt [] _
  unfold configurationAt documentAt
  rw [hexists, hshared]
  decide +kernel

/-- It is loaded, and start-up ends without an exit code. -/
theorem resolve_loaded_number : ∃ c h₁,
    (load (.str "/c.yaml") .none).on (hostWith [] numberText) = (.ok c, h₁) ∧ c.cluster = .int 5 ∧
    ((resolve c false (.ok .prepared) noClients).on (hostWith [] numberText)).1 =
      .error (.mismatch .noPart) := by
  let h := hostWith [] numberText
  have hpath : resolvePath (.str "/c.yaml") h = .ok "/c.yaml" := hostWith_file [] _
  obtain ⟨h₁, _, hload⟩ := load_logs (h := h) rfl hpath
  have hcluster := numberText_loaded
  rcases hc : configurationAt h "/c.yaml" with f | c <;> rw [hc] at hload hcluster
  · exact nomatch hcluster
  change c.cluster.asInt? = some 5 at hcluster
  have hfive : c.cluster = .int 5 := by
    cases hv : c.cluster with
    | int i =>
      rw [hv] at hcluster
      exact congrArg Value.int (Option.some.inj hcluster)
    | bool b =>
      rw [hv] at hcluster
      cases b <;> exact nomatch hcluster
    | _ =>
      rw [hv] at hcluster
      exact nomatch hcluster
  obtain ⟨_, _, hescapes, _⟩ := resolve_loaded hload false noClients h nofun nofun nofun
  refine ⟨c, h₁, hload, hfive, hescapes (fun es hes => ?_) (.inr (.inl rfl))⟩
  rw [hfive] at hes
  exact nomatch hes

end SecureStartup.Startup
