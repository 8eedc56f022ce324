import SecureStartup.Proofs.Startup.Steps

/-!
  The exit code of start-up.

  1. **Program** — `main` and `resolve_security`: a sequence of steps that stops at the first one that
     fails.  The stager is made, the set-up is made and validated, the principal is asked for, and, if the
     keytab is wanted, the shared store is made and the keytab staged.

  2. **Specification** — each step has its own codes for what can go wrong in it: one and the same lookup
     of the identity that fails is a bad state (70) while the set-up is validated, and input or output
     (74) when the principal is wanted.  `firstEnding` is the first step that has an ending, or 0.

  3. **The proof** — which code it is, is proved for every configuration that was validated, every order of
     lookups and faults, and every state of disk and store (`resolve_exits`).  It goes backwards: from the
     staging (`keytabOf_ends`) over what comes after a valid set-up (`resolve_ends`) to a run whose stager
     has a root (`resolve_rooted`) and to any run (`resolve_firstEnding`).

  4. **The exceptions** — a code is never lost, but for two cases: the name of a cluster that is no text,
     and a client of a service that cannot be made for a reason that is neither the system's nor a wrong
     value (`IsUnforeseen`).

  That the program ends with the code is `finish_exits`.
-/

namespace SecureStartup.Startup

open SecureStartup.Config SecureStartup.Security SecureStartup.Store SecureStartup.KeytabStager

/-! ## The world that a start-up runs in -/

/-- **A regular host**: its disk is sound, links on it end, its log files are there, and the faults
    that are to come are the system's. -/
structure Regular (logs : Set Location) (h : Host) : Prop where
  sound : h.disk.Sound
  links : h.disk.LinksEnd
  logsTo : h.LogsTo logs
  makeDirs : AllSystem h.makeDirFaults
  setModes : AllSystem h.setModeFaults

theorem Regular.later {logs : Set Location} {h g : Host} (a : Regular logs h)
    (b : Host.Later logs h g) : Regular logs g := by
  have hsound := b.disk.sound a.sound a.logsTo.places
  have hlinks := a.links.logged a.logsTo.places b.disk
  have hlogs := b.logsTo a.logsTo
  obtain ⟨_, _, _, _, _, _, _, rfl⟩ := b.rest
  exact ⟨hsound, hlinks, hlogs, a.makeDirs, a.setModes⟩

/-- What comes next was prepared, and so is what comes after it. -/
theorem mem_of_takeNext {α : Type} {xs : List α} :
    (∀ x, (Host.takeNext xs).1 = some x → x ∈ xs) ∧ ∀ x ∈ (Host.takeNext xs).2, x ∈ xs := by
  rcases xs with _ | ⟨y, _ | ⟨z, zs⟩⟩
  · exact ⟨nofun, fun x hx => hx⟩
  · refine ⟨fun x hx => ?_, fun x hx => hx⟩
    cases hx
    exact List.mem_cons_self ..
  · refine ⟨fun x hx => ?_, fun x hx => List.mem_cons_of_mem _ hx⟩
    cases hx
    exact List.mem_cons_self ..

/-- Lookups whose failures are the system's. -/
def AnswersAreSystem (answers : List (Except Failure (Option String))) : Prop :=
  ∀ f, .error f ∈ answers → f.isSystem = true

theorem AnswersAreSystem.next {answers : List (Except Failure (Option String))}
    (a : AnswersAreSystem answers) : AnswersAreSystem (Host.takeNext answers).2 := fun f hf =>
  a f (mem_of_takeNext.2 _ hf)

theorem AnswersAreSystem.answer {answers : List (Except Failure (Option String))}
    (a : AnswersAreSystem answers) {f : Failure}
    (hf : preparedAnswer (Host.takeNext answers).1 = .error f) : f.isSystem = true := by
  rcases hx : (Host.takeNext answers).1 with _ | g | name <;> rw [hx] at hf
  · exact nomatch hf
  · have hg : g = f := Except.error.inj hf
    exact a f (hg ▸ mem_of_takeNext.1 _ hx)
  · exact nomatch hf

/-! ## The set-up -/

/-- A known source of the login identity has a provider. -/
theorem providerOf_ok {c : AppConfig} (hsource : c.loginIdentity.isOneOf identitySources = true) :
    ∃ p, providerOf c = .ok p := by
  unfold Value.isOneOf identitySources at hsource
  rw [List.any_cons, List.any_cons, List.any_nil, Bool.or_false, Bool.or_eq_true] at hsource
  unfold providerOf IdentityProvider.ofSource
  by_cases hprocess : c.loginIdentity.same (.str "process") = true
  · rw [if_pos hprocess]
    exact ⟨_, rfl⟩
  · rw [if_neg hprocess, if_pos (hsource.resolve_left hprocess)]
    exact ⟨_, rfl⟩

/-- With components, what is left is to make the stager, and then the set-up. -/
theorem setupOf_eq {c : AppConfig} {components : InstanceDefinition}
    (hdef : c.instanceDefinition = .ok components) (provider : IdentityProvider) :
    setupOf c (.ok provider) = ofRoot c.stagingRoot >>= fun stager =>
      Setup.make c.cluster (some components) c.clusterName provider stager := by
  unfold setupOf
  rw [hdef]
  rfl

theorem setupOf_make {c : AppConfig} {components : InstanceDefinition}
    (hdef : c.instanceDefinition = .ok components) (provider : IdentityProvider) {h h₀ : Host}
    {stager : KeytabStager} (hroot : (ofRoot c.stagingRoot).on h = (.ok stager, h₀)) :
    (setupOf c (.ok provider)).on h =
      (Setup.make c.cluster (some components) c.clusterName provider stager).on h₀ := by
  rw [setupOf_eq hdef, Act.on_bind_ok hroot]

/-- Without a root for its stager, a set-up cannot be made. -/
theorem setupOf_rootless {c : AppConfig} {components : InstanceDefinition}
    (hdef : c.instanceDefinition = .ok components) (provider : IdentityProvider) {h : Host}
    (hroot : ¬ HasRoot c.stagingRoot h) :
    ∃ args, (setupOf c (.ok provider)).on h =
      (.error (.system "FileNotFoundError" args), h) := by
  obtain ⟨args, hroot⟩ := ofRoot_error hroot
  rw [setupOf_eq hdef]
  exact ⟨args, Act.on_bind_error hroot⟩

/-- Making the set-up of a validated configuration goes as the validation of the set-up goes. -/
theorem setupOf_on {c : AppConfig} (a : c.Validated) {cluster : Entries}
    (hc : c.cluster = .map cluster) {components : InstanceDefinition} {settings : Entries}
    (hdef : c.instanceDefinition = .ok components)
    (hset : components.component masterComponent = .map settings) (provider : IdentityProvider)
    {h h₀ : Host} {stager : KeytabStager}
    (hroot : (ofRoot c.stagingRoot).on h = (.ok stager, h₀)) :
    ∃ h', (setupOf c (.ok provider)).on h =
        (match problem? cluster settings (provider.lookUp.on h₀).1 with
          | some f => .error f
          | none => .ok ⟨.map cluster, components, c.clusterName, provider, stager⟩, h') ∧
      Host.Logged (lookedUp cluster settings provider h₀) h' := by
  obtain ⟨h', hm, hl⟩ := make_on cluster hset a.clusterName_ne_none provider stager h₀
  refine ⟨h', ?_, hl⟩
  rw [setupOf_make hdef provider hroot, hc]
  exact hm

/-! ## The keytab -/

/-- The replies of the staging of a shared keytab, from a host on. -/
def repliesFrom (settings : Entries) (cluster : Value) (stager : KeytabStager) (g : Host)
    (store : SharedStore) : List Reply :=
  (Errand.course ⟨store, (settings.field sharedKeytabKey).text, cluster⟩ 5
    (.planned (stager.nextDir g)) (named g)).replies

/-- A shared keytab is staged, once this was logged. -/
theorem file_shared_on (e : Errand) (stager : KeytabStager) (principal : String) (h : Host) :
    ∃ h', Host.Logged h h' ∧
      ((KeytabSource.shared e.keytab).file stager e.store e.cluster principal).on h =
        (stager.fetch e.store (.str e.keytab) e.cluster).on h' :=
  ⟨_, Host.Logged.of_log _ _ _ _ h, rfl⟩

/-- **The keytab** ends start-up as its step says. -/
theorem keytabFile_ends {s : Setup} {settings : Entries} (hs : s.settings = .map settings)
    (hchoice : keytabProblem? settings = none) {logs : Set Location} {g : Host} (hg : Regular logs g)
    {store : Option AnyStore} (hstore : ∀ st, store = some st → st.shared.Plain s.clusterName)
    (principal : String) :
    ∃ g', Host.Later logs g g' ∧
      Ending.of? ((s.keytabFile (store.map (·.shared)) principal).on g).1 =
        keytabEnding? settings s.clusterName
          (repliesFrom settings s.clusterName s.stager g') (.ok store) := by
  -- the choice was validated, and the settings have not changed since
  have hsource : s.source = .ok (if isSet (settings.field sharedKeytabKey) then
      .shared (settings.field sharedKeytabKey).text
      else .onHost (settings.field localKeytabKey).text) := by
    unfold Setup.source
    rw [hs]
    exact ofSettings_of_choice hchoice
  unfold Setup.keytabFile keytabEnding?
  rw [hsource]
  by_cases hshared : isSet (settings.field sharedKeytabKey) = true
  · simp only [hshared, if_true]
    rcases store with _ | st
    · exact ⟨g, Host.Later.refl logs g, rfl⟩
    · let e : Errand := ⟨st.shared, (settings.field sharedKeytabKey).text, s.clusterName⟩
      obtain ⟨g', hlogged, hfile⟩ := file_shared_on e s.stager principal g
      have hlater : Host.Later logs g g' := Host.Later.of_logged hg.logsTo hlogged
      have hg' := hg.later hlater
      have hearly : Early logs g' (.planned (s.stager.nextDir g')) (named g') :=
        ⟨hg'.setModes, ⟨⟨rfl, rfl, rfl⟩, rfl⟩, hg'.logsTo, hg'.makeDirs⟩
      refine ⟨g', hlater, ?_⟩
      show Ending.of? (((KeytabSource.shared e.keytab).file s.stager e.store e.cluster principal).on
        g).1 = _
      rw [hfile, Errand.fetch_on]
      exact course_ends (hstore st rfl) hg'.sound hg'.links 5 hearly
  · simp only [hshared]
    rcases store with _ | st <;> exact ⟨g, Host.Later.refl logs g, rfl⟩

/-! ## All steps -/

/-- **The steps of a start-up**, in their order, each with the ending that it leads to if it fails:
    validation, principal, way to the keytab, and with staging the store and the keytab. -/
def steps (stage : Bool) (settings : Entries) (first second : Except Failure (Option LoginIdentity))
    (built : Except Failure (Option AnyStore)) (keytab : Option Ending) : List (Option Ending) :=
  [validationEnding? settings first, principalEnding? settings second, choiceEnding? settings] ++
    if stage then [storeEnding? built, keytab] else []

/-- The first step that fails decides; when none does, the code is 0. -/
def firstEnding (steps : List (Option Ending)) : Ending := (steps.findSome? id).getD (.exits 0)

/-- An action in two parts ends as its first part, or goes on. -/
theorem of?_bind {α β : Type} (x : Act α) (k : α → Act β) (h : Host) :
    Ending.of? ((x >>= k).on h).1 = match x.on h with
      | (.error f, _) => some (Ending.of (.error f : Except Failure Unit))
      | (.ok a, h') => Ending.of? ((k a).on h').1 := by
  rw [Act.on_bind]
  rcases x.on h with ⟨f | a, h'⟩ <;> rfl

/-- What is done once the principal is known: an outcome, unless the keytab is wanted and fails. -/
theorem conclude_ends {α : Type} (wanted : Act α) (rest : α → Act Outcome) (g : Host)
    (hrest : ∀ a k, ∃ o, ((rest a).on k).1 = .ok o) :
    Ending.of? ((wanted >>= rest).on g).1 = Ending.of? (wanted.on g).1 := by
  rw [of?_bind]
  rcases wanted.on g with ⟨f | a, g'⟩
  · rfl
  · obtain ⟨o, ho⟩ := hrest a g'
    simp only [ho]
    rfl

/-- **The keytab that is wanted** ends start-up as the store and the keytab do. -/
theorem keytabOf_ends {c : AppConfig} (a : c.Validated) (hc : HasTextualStore c) {clients : Clients}
    {h g : Host} (hclients : MakesClients (·.isSetup = false) clients h) {logs : Set Location}
    (hlater : Host.Later logs h g) (hg : Regular logs g) {s : Setup} {settings : Entries}
    (hs : s.settings = .map settings) (hname : s.clusterName = c.clusterName) (hchoice : keytabProblem? settings = none)
    (principal : String) :
    ∃ g', Host.Later logs g g' ∧
      let built := ((ofSettings c.sharedStore clients).on g).1
      Ending.of? ((keytabOf c s principal clients).on g).1 =
        (storeEnding? built).or (keytabEnding? settings c.clusterName
          (repliesFrom settings c.clusterName s.stager g') built) := by
  have hsame : g.env = h.env ∧ g.userRecord = h.userRecord := by
    obtain ⟨_, _, _, _, _, _, _, rfl⟩ := hlater.rest
    exact ⟨rfl, rfl⟩
  obtain ⟨r, hr, hfails, hstore⟩ := ofSettings_on a hc hclients hsame.1 hsame.2
  unfold keytabOf
  rw [of?_bind, hr]
  rcases r with f | store
  · refine ⟨g, Host.Later.refl logs g, ?_⟩
    -- The way of links is clear, and the client fails in no way of the set-up.
    have hf : f.isSetup = false := by
      rcases hfails f rfl with hplain | hloop | hno
      · exact Ending.isSetup_of_plain hplain
      · exact absurd hg.links hloop.2
      · exact hno
    simp only [Ending.of_not_isSetup hf]
    rfl
  · have hst : ∀ st, store = some st → st.shared.Plain s.clusterName := by
      rintro st rfl
      exact hname ▸ (hstore st rfl).1
    obtain ⟨g', hlater', hends⟩ := keytabFile_ends hs hchoice hg hst principal
    refine ⟨g', hlater', ?_⟩
    rw [hname] at hends
    exact hends

/-- Another form of an answer ends as the answer does. -/
theorem of?_map {α β : Type} (w : α → β) (x : Act α) (h : Host) :
    Ending.of? ((w <$> x).on h).1 = Ending.of? (x.on h).1 := by
  rw [Act.on_map]
  rcases x.on h with ⟨f | a, h'⟩ <;> rfl

/-- A host that was asked for its identity once. -/
theorem asked_later (logs : Set Location) (h : Host) :
    Host.Later logs h (IdentityProvider.prepared.lookUp.on h).2 := by
  rw [lookUp_prepared_on]
  exact ⟨⟨_, _, _, _, _, _, _, rfl⟩, ⟨rfl, rfl, rfl⟩, Disk.LogsOnly.refl logs h.disk⟩

/-- Lookups and log lines, one after the other. -/
theorem asked_logged_later {logs : Set Location} {h k : Host} (hl : h.LogsTo logs) (asked : Bool)
    (b : Host.Logged (if asked then (IdentityProvider.prepared.lookUp.on h).2 else h) k) :
    Host.Later logs h k ∧
      k.answers = if asked then (Host.takeNext h.answers).2 else h.answers := by
  have hlater :
      Host.Later logs h (if asked then (IdentityProvider.prepared.lookUp.on h).2 else h) := by
    cases asked
    · exact Host.Later.refl logs h
    · exact asked_later logs h
  refine ⟨hlater.trans (Host.Later.of_logged (hlater.logsTo hl) b), ?_⟩
  obtain ⟨_, _, _, _, rfl⟩ := b.frame
  cases asked
  · rfl
  · exact congrArg Host.answers (congrArg Prod.snd (lookUp_prepared_on h))

/-- **What follows the validation**: the principal, and then the keytab if it is wanted. -/
theorem resolveEnabled_ends {c : AppConfig} (a : c.Validated) (hc : HasTextualStore c)
    {clients : Clients} {h h₁ : Host} (hclients : MakesClients (·.isSetup = false) clients h)
    {logs : Set Location} (hlater : Host.Later logs h h₁) (hh : Regular logs h) (hanswers : AnswersAreSystem h₁.answers)
    {s : Setup} {settings : Entries} (hs : s.settings = .map settings)
    (hname : s.clusterName = c.clusterName) (hprovider : s.provider = .prepared)
    (hchoice : keytabProblem? settings = none) (stage : Bool) :
    ∃ g g', Host.Later logs h g ∧ Host.Later logs g g' ∧
      let found := preparedAnswer (Host.takeNext h₁.answers).1
      let built := ((ofSettings c.sharedStore clients).on g).1
      let keytab := keytabEnding? settings c.clusterName
        (repliesFrom settings c.clusterName s.stager g') built
      Ending.of? ((resolveEnabled c s stage clients).on h₁).1 =
        ([principalEnding? settings found, choiceEnding? settings] ++
          if stage then [storeEnding? built, keytab] else []).findSome? id := by
  have hh₁ := hh.later hlater
  have hlookup : (IdentityProvider.prepared.lookUp.on h₁).1 =
      preparedAnswer (Host.takeNext h₁.answers).1 := congrArg Prod.fst (lookUp_prepared_on h₁)
  obtain ⟨r, g, hprincipal, hends, hlogged⟩ := principalOf_on .prepared settings h₁
    fun f hf => hanswers.answer (hlookup.symm.trans hf)
  rw [hlookup] at hends
  have hg : Host.Later logs h₁ g := by
    refine (asked_logged_later hh₁.logsTo (!isSet (settings.field principalKey)) ?_).1
    cases hset : isSet (settings.field principalKey) <;> rw [hset] at hlogged <;> exact hlogged
  have hp : s.principal.on h₁ = (r, g) := by
    unfold Setup.principal
    rw [hs, hprovider, hprincipal]
  have hsource : ∃ source, s.source = .ok source := by
    unfold Setup.source
    rw [hs, ofSettings_of_choice hchoice]
    exact ⟨_, rfl⟩
  have hnone : choiceEnding? settings = none := by
    rw [choice_ends, hchoice]
    rfl
  obtain ⟨source, hsource⟩ := hsource
  unfold resolveEnabled
  simp only [← hends, hnone]
  rcases r with f | principal
  · refine ⟨g, g, hlater.trans hg, Host.Later.refl logs g, ?_⟩
    rw [of?_bind, hp]
    rfl
  · rw [of?_bind, hp]
    simp only [hsource]
    cases stage
    · exact ⟨g, g, hlater.trans hg, Host.Later.refl logs g, rfl⟩
    · obtain ⟨g', hg', hkeytab⟩ := keytabOf_ends a hc hclients (hlater.trans hg) (hh₁.later hg) hs
        hname hchoice principal
      refine ⟨g, g', hlater.trans hg, hg', ?_⟩
      rw [of?_bind, Act.on_ofExcept]
      simp only [if_true]
      rw [conclude_ends _ _ g fun _ _ => ⟨_, rfl⟩, of?_map, hkeytab]
      -- what is left is the first of two steps
      generalize storeEnding? ((ofSettings c.sharedStore clients).on g).1 = store
      generalize keytabEnding? settings c.clusterName _ _ = keytab
      cases store <;> cases keytab <;> rfl

/-- The principal is not asked for in vain: either the validation asked for an identity before, or the
    principal is set and no answer matters. -/
theorem principalEnding?_again {cluster settings : Entries} (hon : isOn cluster = true)
    (answers : List (Except Failure (Option String))) :
    principalEnding? settings (preparedAnswer (Host.takeNext
        (if needsIdentity cluster settings then (Host.takeNext answers).2 else answers)).1) =
      principalEnding? settings (preparedAnswer (Host.takeNext (Host.takeNext answers).2).1) := by
  unfold needsIdentity principalEnding?
  rw [hon]
  by_cases hset : isSet (settings.field principalKey) = true
  · rw [if_pos hset, if_pos hset]
  · rw [if_neg hset, if_neg hset, Bool.eq_false_iff.mpr hset]
    rfl

/-- **What is resolved** once a set-up is there: security is off, or the principal and the keytab. -/
theorem resolve_on {c : AppConfig} {provider : Except Failure IdentityProvider} {h h₁ : Host}
    {s : Setup} (hs : (setupOf c provider).on h = (.ok s, h₁)) (stage : Bool) (clients : Clients) :
    (s.isEnabled = .ok true → (resolve c stage provider clients).on h =
        (resolveEnabled c s stage clients).on h₁) ∧
      (s.isEnabled = .ok false →
        ((resolve c stage provider clients).on h).1 = .ok (.disabled c.clusterName)) := by
  unfold resolve
  rw [Act.on_bind_ok hs]
  refine ⟨fun henabled => ?_, fun hdisabled => ?_⟩
  · rw [henabled]
    rfl
  · rw [hdisabled]
    rfl

/-- **A set-up that is valid** is resolved as the steps after the validation go. -/
theorem resolve_ends {c : AppConfig} (a : c.Validated) (htext : HasTextualStore c)
    {clients : Clients} {h h₀ : Host} (hclients : MakesClients (·.isSetup = false) clients h₀)
    (hanswers : AnswersAreSystem h₀.answers) {logs : Set Location} (hh : Regular logs h₀)
    {cluster settings : Entries} {components : InstanceDefinition}
    (hset : components.component masterComponent = .map settings) (hon : isOn cluster = true)
    {stager : KeytabStager} {h₁ : Host}
    (hmake : (setupOf c (.ok .prepared)).on h =
      (.ok ⟨.map cluster, components, c.clusterName, .prepared, stager⟩, h₁))
    (hlog : Host.Logged (lookedUp cluster settings .prepared h₀) h₁)
    (hchoice : keytabProblem? settings = none) (stage : Bool) :
    ∃ g g', Host.Later logs h₀ g ∧ Host.Later logs g g' ∧
      let second := preparedAnswer (Host.takeNext (Host.takeNext h₀.answers).2).1
      let built := ((ofSettings c.sharedStore clients).on g).1
      let keytab := keytabEnding? settings c.clusterName
        (repliesFrom settings c.clusterName stager g') built
      Ending.of? ((resolve c stage (.ok .prepared) clients).on h).1 =
        ([principalEnding? settings second, choiceEnding? settings] ++
          if stage then [storeEnding? built, keytab] else []).findSome? id := by
  obtain ⟨hlater, hsecond⟩ := asked_logged_later hh.logsTo (needsIdentity cluster settings) hlog
  -- What was looked up for the set-up is used up, and the rest is the system's as well.
  have hanswers₁ : AnswersAreSystem h₁.answers := by
    rw [hsecond]
    split
    · exact hanswers.next
    · exact hanswers
  let s : Setup := ⟨.map cluster, components, c.clusterName, .prepared, stager⟩
  have henabled : s.isEnabled = .ok true := by
    show isSecure (.map cluster) = _
    rw [isSecure_map, hon]
  obtain ⟨g, g', hg, hg', hends⟩ := resolveEnabled_ends a htext hclients hlater hh hanswers₁
    (s := s) hset rfl rfl hchoice stage
  simp only [hsecond, principalEnding?_again hon] at hends
  refine ⟨g, g', hg, hg', ?_⟩
  rw [(resolve_on hmake stage clients).1 henabled]
  exact hends

/-! ## From the root of the stager on -/

/-- **With a root for its stager**, start-up ends as the steps from the validation on. -/
theorem resolve_rooted {c : AppConfig} (a : c.Validated) {cluster : Entries}
    (hc : c.cluster = .map cluster) (htext : HasTextualStore c) (stage : Bool) {clients : Clients}
    {h h₀ : Host} (hclients : MakesClients (·.isSetup = false) clients h₀)
    (hanswers : AnswersAreSystem h₀.answers) {logs : Set Location} (hh : Regular logs h₀)
    {components : InstanceDefinition} {settings : Entries}
    (hdef : c.instanceDefinition = .ok components)
    (hset : components.component masterComponent = .map settings) {stager : KeytabStager}
    (hroot : (ofRoot c.stagingRoot).on h = (.ok stager, h₀)) :
    ∃ g g', Host.Later logs h₀ g ∧ Host.Later logs g g' ∧
      let first := preparedAnswer (Host.takeNext h₀.answers).1
      let second := preparedAnswer (Host.takeNext (Host.takeNext h₀.answers).2).1
      let built := ((ofSettings c.sharedStore clients).on g).1
      let keytab := keytabEnding? settings c.clusterName
        (repliesFrom settings c.clusterName stager g') built
      Ending.of ((resolve c stage (.ok .prepared) clients).on h).1 =
        firstEnding (if isOn cluster then steps stage settings first second built keytab else []) := by
  obtain ⟨h₁, hmake, hlog₁⟩ := setupOf_on a hc hdef hset .prepared hroot
  have hlookup : (IdentityProvider.prepared.lookUp.on h₀).1 =
      preparedAnswer (Host.takeNext h₀.answers).1 := congrArg Prod.fst (lookUp_prepared_on h₀)
  rw [hlookup] at hmake
  have hfirst : ∀ f, preparedAnswer (Host.takeNext h₀.answers).1 = .error f → f.isSystem = true :=
    fun f hf => hanswers.answer hf
  by_cases hon : isOn cluster = true
  · have hvalidation :
        validationEnding? settings (preparedAnswer (Host.takeNext h₀.answers).1) = _ :=
      validation_ends hon hfirst
    rcases hproblem : problem? cluster settings (preparedAnswer (Host.takeNext h₀.answers).1) with
      _ | f <;> rw [hproblem] at hmake hvalidation
    · -- the set-up is valid
      have hchoice := keytabProblem?_of_on hon hproblem
      obtain ⟨g, g', hg, hg', hends⟩ :=
        resolve_ends a htext hclients hanswers hh hset hon hmake hlog₁ hchoice stage
      refine ⟨g, g', hg, hg', ?_⟩
      intro first second built keytab
      rw [if_pos hon, Ending.of_eq_of?, hends]
      unfold firstEnding steps
      rw [hvalidation]
      rfl
    · -- the set-up is refused
      refine ⟨h₀, h₀, Host.Later.refl logs h₀, Host.Later.refl logs h₀, ?_⟩
      intro first second built keytab
      have hrun : (resolve c stage (.ok .prepared) clients).on h = (.error f, h₁) :=
        Act.on_bind_error hmake
      rw [hrun, if_pos hon]
      unfold firstEnding steps
      rw [hvalidation]
      rfl
  · -- security is off
    refine ⟨h₀, h₀, Host.Later.refl logs h₀, Host.Later.refl logs h₀, ?_⟩
    have hproblem : problem? cluster settings (preparedAnswer (Host.takeNext h₀.answers).1) = none :=
      if_neg hon
    rw [hproblem] at hmake
    intro first second built keytab
    have hoff : isSecure (.map cluster) = .ok false := by
      rw [isSecure_map, Bool.eq_false_iff.mpr hon]
    rw [(resolve_on hmake stage clients).2 hoff, if_neg hon]
    rfl

/-- **The first step that fails** decides how start-up ends. -/
theorem resolve_firstEnding {c : AppConfig} (a : c.Validated) {cluster : Entries}
    (hc : c.cluster = .map cluster) (htext : HasTextualStore c) (stage : Bool) {clients : Clients}
    {h : Host} (hclients : MakesClients (·.isSetup = false) clients h)
    (hanswers : AnswersAreSystem h.answers) {logs : Set Location} (hh : Regular logs h) :
    ∃ components settings stager g g', c.instanceDefinition = .ok components ∧
      components.component masterComponent = .map settings ∧
      (HasRoot c.stagingRoot h → ((ofRoot c.stagingRoot).on h).1 = .ok stager) ∧
      Host.Later logs h g ∧ Host.Later logs g g' ∧
      let first := preparedAnswer (Host.takeNext h.answers).1
      let second := preparedAnswer (Host.takeNext (Host.takeNext h.answers).2).1
      let built := ((ofSettings c.sharedStore clients).on g).1
      let keytab := keytabEnding? settings c.clusterName
        (repliesFrom settings c.clusterName stager g') built
      Ending.of ((resolve c stage (.ok .prepared) clients).on h).1 =
        firstEnding (rootEnding? c.stagingRoot h ::
          if isOn cluster then steps stage settings first second built keytab else []) := by
  obtain ⟨components, settings, hdef, hset⟩ := a.settings
  by_cases hroot : HasRoot c.stagingRoot h
  · obtain ⟨stager, h₀, hstager, hsought⟩ := ofRoot_ok a.root hroot
    have hlater : Host.Later logs h h₀ := hsought.later logs
    have hsame : h₀.env = h.env ∧ h₀.userRecord = h.userRecord ∧ h₀.answers = h.answers := by
      rw [hsought.rest]
      exact ⟨rfl, rfl, rfl⟩
    obtain ⟨henv, huser, hanswers₀⟩ := hsame
    have hclients₀ : MakesClients (·.isSetup = false) clients h₀ := fun url user g he hu =>
      hclients url user g (he.trans henv) (hu.trans huser)
    obtain ⟨g, g', hg, hg', hends⟩ := resolve_rooted a hc htext stage hclients₀
      (hanswers₀ ▸ hanswers) (hh.later hlater) hdef hset hstager
    rw [hanswers₀] at hends
    refine ⟨components, settings, stager, g, g', hdef, hset, fun _ => congrArg Prod.fst hstager,
      hlater.trans hg, hg', ?_⟩
    unfold rootEnding?
    rw [if_pos hroot]
    exact hends
  -- there is no root for the stager, and nothing else is looked at
  · obtain ⟨args, hmake⟩ := setupOf_rootless hdef .prepared hroot
    refine ⟨components, settings, ⟨.ofString "/"⟩, h, h, hdef, hset, fun hr => absurd hr hroot,
      Host.Later.refl logs h, Host.Later.refl logs h, ?_⟩
    have hrun : (resolve c stage (.ok .prepared) clients).on h =
        (.error (.system "FileNotFoundError" args), h) := Act.on_bind_error hmake
    unfold rootEnding?
    rw [hrun, if_neg hroot]
    rfl

/-! ## Ending without a code -/

/-- What a program may not foresee: a name of a cluster that is no text, and a client that cannot be
    made for a reason that is neither the system's nor about a value that is wrong. -/
def IsUnforeseen (c : AppConfig) (clients : Clients) : Prop :=
  (∀ name, c.clusterName ≠ .str name) ∨ ∃ f, ¬ f.Plain ∧ NoClient clients f

theorem choiceEnding?_ne_escapes (settings : Entries) : choiceEnding? settings ≠ some .escapes := by
  unfold choiceEnding?
  split <;> exact nofun

theorem validationEnding?_ne_escapes (settings : Entries)
    (found : Except Failure (Option LoginIdentity)) :
    validationEnding? settings found ≠ some .escapes := by
  unfold validationEnding?
  split
  · exact choiceEnding?_ne_escapes settings
  · rcases found with f | _ | identity
    · exact nofun
    · exact nofun
    · exact choiceEnding?_ne_escapes settings

theorem principalEnding?_ne_escapes (settings : Entries)
    (found : Except Failure (Option LoginIdentity)) :
    principalEnding? settings found ≠ some .escapes := by
  unfold principalEnding?
  split
  · split <;> exact nofun
  · rcases found with f | _ | identity <;> exact nofun

theorem storeEnding?_escapes {built : Except Failure (Option AnyStore)}
    (h : storeEnding? built = some .escapes) : ∃ f, built = .error f ∧ ¬ f.Plain := by
  rcases built with f | store
  · refine ⟨f, rfl, fun hplain => ?_⟩
    have hends := Ending.of_plain (α := Unit) hplain
    rw [Ending.of_not_isSetup (Ending.isSetup_of_plain hplain)] at hends
    exact nomatch (Option.some.inj h).symm.trans hends
  · exact nomatch h

theorem keytabEnding?_escapes {settings : Entries} {cluster : Value}
    {replies : SharedStore → List Reply} {built : Except Failure (Option AnyStore)}
    (h : keytabEnding? settings cluster replies built = some .escapes) :
    ∀ name, cluster ≠ .str name := by
  rintro name rfl
  unfold keytabEnding? at h
  split at h
  · exact nomatch h
  · split at h
    · split at h
      · exact nomatch h
      · -- the request that failed would have been for the path in the store
        obtain ⟨q, _, hq⟩ := List.exists_of_findSome?_eq_some h
        unfold replyEnding? at hq
        split at hq
        · exact nomatch hq
        · split at hq <;> exact nomatch hq
    · exact nomatch h

/-- **Which steps end without a code**: making the store, and asking it for a path. -/
theorem firstEnding_escapes {root : Option Ending} (hroot : root ≠ some .escapes) {on stage : Bool}
    {settings : Entries} {first second : Except Failure (Option LoginIdentity)}
    {built : Except Failure (Option AnyStore)} {cluster : Value}
    {replies : SharedStore → List Reply}
    (h : firstEnding (root :: if on then steps stage settings first second built
      (keytabEnding? settings cluster replies built) else []) = .escapes) :
    (∀ name, cluster ≠ .str name) ∨ stage = true ∧ ∃ f, built = .error f ∧ ¬ f.Plain := by
  -- some step ends so
  obtain ⟨step, hstep, hends⟩ : ∃ step, step ∈ root :: (if on then steps stage settings first second
      built (keytabEnding? settings cluster replies built) else []) ∧ step = some .escapes := by
    unfold firstEnding at h
    rcases hfound : List.findSome? id (root :: if on then steps stage settings first second built
      (keytabEnding? settings cluster replies built) else []) with _ | e <;> rw [hfound] at h
    · exact nomatch h
    · obtain ⟨step, hmem, hstep⟩ := List.exists_of_findSome?_eq_some hfound
      refine ⟨step, hmem, hstep.trans (congrArg some ?_)⟩
      exact h
  subst hends
  rcases List.mem_cons.mp hstep with heq | hmem
  · exact absurd heq.symm hroot
  cases on
  · exact nomatch hmem
  rw [if_pos rfl] at hmem
  unfold steps at hmem
  rcases List.mem_append.mp hmem with hmem | hmem
  · simp only [List.mem_cons, List.not_mem_nil, or_false] at hmem
    rcases hmem with heq | heq | heq
    · exact absurd heq.symm (validationEnding?_ne_escapes settings first)
    · exact absurd heq.symm (principalEnding?_ne_escapes settings second)
    · exact absurd heq.symm (choiceEnding?_ne_escapes settings)
  · cases stage
    · exact nomatch hmem
    simp only [if_true, List.mem_cons, List.not_mem_nil, or_false] at hmem
    rcases hmem with heq | heq
    · exact .inr ⟨rfl, storeEnding?_escapes heq.symm⟩
    · exact .inl (keytabEnding?_escapes heq.symm)

/-! ## The exit code -/

/-- **The exit code of start-up.**  It is 0 exactly when resolving the security gives an outcome, and
    otherwise that of the first step that fails: the root of the stager before all others, and then,
    with security on, the steps from the validation to the keytab.  What a step meets is what the code
    meets there: the first lookup and the second, the store that is made on the host `g`, and the
    replies of the staging that begins on the host `g'`; until then nothing but a search for the
    directory for temporary files, lookups and log lines has happened on the host.  Without a code it
    ends only for a name or a client that the program does not foresee. -/
theorem resolve_exits (c : AppConfig) (cluster : Entries) (stage : Bool) (clients : Clients)
    (h : Host) (logs : Set Location) (hv : c.validate h.disk h.workDir = .ok ())
    (hc : c.cluster = .map cluster) (htext : HasTextualStore c)
    (hclients : MakesClients (·.isSetup = false) clients h) (hanswers : AnswersAreSystem h.answers)
    (hh : Regular logs h) :
    let r := ((resolve c stage (.ok .prepared) clients).on h).1
    (Ending.of r = .exits 0 ↔ ∃ o, r = .ok o) ∧
    (Ending.of r = .escapes → IsUnforeseen c clients) ∧
    ∃ components settings stager g g', c.instanceDefinition = .ok components ∧
      components.component masterComponent = .map settings ∧
      (HasRoot c.stagingRoot h → ((ofRoot c.stagingRoot).on h).1 = .ok stager) ∧
      Host.Later logs h g ∧ Host.Later logs g g' ∧
      let first := preparedAnswer (Host.takeNext h.answers).1
      let second := preparedAnswer (Host.takeNext (Host.takeNext h.answers).2).1
      let built := ((ofSettings c.sharedStore clients).on g).1
      let keytab := keytabEnding? settings c.clusterName
        (repliesFrom settings c.clusterName stager g') built
      Ending.of r = firstEnding (rootEnding? c.stagingRoot h ::
        if isOn cluster then steps stage settings first second built keytab else []) := by
  intro r
  have a := AppConfig.validated_of_ok hv
  obtain ⟨components, settings, stager, g, g', hdef, hset, hstager, hg, hg', hends⟩ :=
    resolve_firstEnding a hc htext stage hclients hanswers hh
  refine ⟨Ending.of_eq_zero, fun hescapes => ?_, components, settings, stager, g, g', hdef, hset,
    hstager, hg, hg', hends⟩
  have hroot : rootEnding? c.stagingRoot h ≠ some .escapes := by
    unfold rootEnding?
    split <;> exact nofun
  rcases firstEnding_escapes hroot (hends.symm.trans hescapes) with hname | ⟨_, f, hbuilt, hf⟩
  · exact .inl hname
  · -- of what can go wrong with a store, a client is all that is left
    have hsame : g.env = h.env ∧ g.userRecord = h.userRecord := by
      obtain ⟨_, _, _, _, _, _, _, rfl⟩ := hg.rest
      exact ⟨rfl, rfl⟩
    obtain ⟨built, hon, hfails, _⟩ := ofSettings_on a htext hclients.noClient hsame.1 hsame.2
    rw [hon] at hbuilt
    rcases hfails f hbuilt with hplain | hloop | hno
    · exact absurd hplain hf
    · exact absurd (hh.later hg).links hloop.2
    · exact .inr ⟨f, hf, hno.2⟩

/-- A secure cluster whose application master has a shared keytab, but neither a principal nor a
    store. -/
def storelessConfig : AppConfig where
  clusterName := .str "c"
  cluster := .map [(.str authenticationKey, .str "kerberos")]
  components := .map [(.str masterComponent, .map [(.str sharedKeytabKey, .str "am.keytab")])]

/-- A host with nothing but a directory for temporary files, on which somebody is logged in, and the
    system cannot say who a little later. -/
def forgetfulHost : Host where
  disk := ⟨[(["t"], .directory 0o700)], [], 0⟩
  tempDir := some "/t"
  answers := [.ok (some "am/host"), .error (.system "OSError" [])]

theorem forgetfulHost_regular : Regular ∅ forgetfulHost where
  sound := by
    refine Disk.sound_of_entries fun x hx => ?_
    cases List.mem_singleton.mp hx
    exact ⟨⟨_, rfl⟩, nofun⟩
  links := by
    refine Disk.linksEnd_of_entries fun x hx => ?_
    cases List.mem_singleton.mp hx
    exact nofun
  logsTo := Host.logsTo_empty fun _ _ => List.not_mem_nil
  makeDirs := nofun
  setModes := nofun

/-- Two lookups that differ: the validation finds somebody, and then the system refuses.  The first
    failure is that of the principal, though a store for the keytab is missing too. -/
theorem resolve_exits_second_lookup :
    storelessConfig.validate forgetfulHost.disk forgetfulHost.workDir = .ok () ∧
      Ending.of ((resolve storelessConfig true (.ok .prepared) noClients).on forgetfulHost).1 =
        .exits 74 := by
  have hv : storelessConfig.validate forgetfulHost.disk forgetfulHost.workDir = .ok () :=
    Ending.ok_of_of? (by decide +kernel)
  have htext : HasTextualStore storelessConfig := by
    intro es hes
    cases hes
    exact ⟨.inl rfl, .inl rfl⟩
  have hclients : MakesClients (·.isSetup = false) noClients forgetfulHost :=
    makesClients_noClients (fun _ => rfl) forgetfulHost
  have hanswers : AnswersAreSystem forgetfulHost.answers := by
    intro f hf
    rcases List.mem_cons.mp hf with hf | hf
    · exact nomatch hf
    · cases List.mem_singleton.mp hf
      rfl
  obtain ⟨_, _, components, settings, stager, g, g', hdef, hset, _, _, _, hends⟩ :=
    resolve_exits storelessConfig _ true noClients forgetfulHost ∅ hv rfl htext hclients hanswers
      forgetfulHost_regular
  have hset' := component_singleton masterComponent [(.str sharedKeytabKey, .str "am.keytab")]
  -- The settings are those of the configuration, so each step can be looked at.
  cases hdef
  cases hset'.symm.trans hset
  refine ⟨hv, hends.trans ?_⟩
  have hroot : rootEnding? storelessConfig.stagingRoot forgetfulHost = none :=
    if_pos (.inr (.inl rfl))
  have hon : isOn [(.str authenticationKey, .str "kerberos")] = true := by decide +kernel
  have hvalidation : validationEnding? [(.str sharedKeytabKey, .str "am.keytab")]
      (preparedAnswer (Host.takeNext forgetfulHost.answers).1) = none := by decide +kernel
  have hprincipal : principalEnding? [(.str sharedKeytabKey, .str "am.keytab")]
      (preparedAnswer (Host.takeNext (Host.takeNext forgetfulHost.answers).2).1) =
        some (.exits 74) := by decide +kernel
  rw [hroot, if_pos hon]
  unfold firstEnding steps
  rw [hvalidation, hprincipal]
  rfl

end SecureStartup.Startup
