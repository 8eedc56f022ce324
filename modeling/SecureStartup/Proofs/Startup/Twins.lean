import SecureStartup.Proofs.Keytab.History
import SecureStartup.Proofs.Keytab.Twins
import SecureStartup.Proofs.Security.Twins
import SecureStartup.Startup.Resolve

/-!
  The bytes of a keytab do not interfere with anything.

  1. **Program** — `fetch`, and all of `resolve_security`: what is asked of the host, what is logged, what
     is answered or raised.

  2. **Two runs** start on hosts that differ in the bytes of some files, from services that hold different
     bytes, and with copies that may break off after different bytes.  `keytab_noninterference` compares
     them, for two fetches and for two resolutions of any configuration: one answer or one failure, the
     same events and records, the same host but for the disk, and on the disk the bytes of the staged copy
     are all that has come to differ.

  3. **The proof** goes along the text of `resolve`.  Up to the copy the hosts stay twins on which the next
     staging has the place that it had at first (`Before`); the copy, and what it leaves, is the matter of
     `alike_fetch`; after it only the log follows.

  4. **What may be seen** — each result is stated twice, without and with a record of what the store was
     asked (`SharedStore.recorded`), so that the paths that are built and copied are compared, too.
-/

namespace SecureStartup.Startup

open SecureStartup.Act SecureStartup.Disk SecureStartup.Host SecureStartup.Security
open SecureStartup.Store SecureStartup.KeytabStager

/-! ## Hosts on which nothing has been staged -/

/-- An orderly host on which the next staging is in the same place as on another one. -/
structure NamesAs (h₀ h : Host) : Prop where
  nextDir : ∀ s : KeytabStager, s.nextDir h = s.nextDir h₀
  orderly : Orderly h

variable {secret : List Nat} {h₀ : Host}

/-- Twins of which the first names stagings as a host did before. -/
def Before (h₀ : Host) (secret : List Nat) (h h' : Host) : Prop := NamesAs h₀ h ∧ Twins secret h h'

theorem steady_before (h₀ : Host) (secret : List Nat) : Steady (Before h₀ secret) := by
  refine (steady_twins secret).and_left (fun h r a => ?_)
    fun h _ _ _ _ _ a => ⟨a.nextDir, a.orderly.same_disk ⟨rfl, rfl, rfl⟩ rfl⟩
  refine ⟨?_, a.orderly.logged ⟨[r], rfl⟩⟩
  obtain ⟨d, out, err, hr⟩ := h.logRecord_frame r
  rw [hr]
  exact a.nextDir

/-- Which names can be tried in a directory is a matter of the entries. -/
theorem usable?_sameEntries {d d' : Disk} (hd : SameEntries d d') (cwd : Location) (dir : String)
    (names : List String) : d'.usable? cwd dir names = d.usable? cwd dir names := by
  have hprobe : ∀ path, d'.probe cwd path = d.probe cwd path := by
    intro path
    unfold Disk.probe
    rw [hd.walk]
    simp only [hd.mayChange]
  induction names with
  | nil => rfl
  | cons name names ih =>
    unfold Disk.usable?
    simp only [hprobe]
    split
    · rfl
    · exact ih
    · rfl

/-- **The directory for temporary files** is found alike: no search opens a file. -/
theorem keeps_tempDir {rel : Host → Host → Prop} (s : Steady rel) : Keeps rel tempDir tempDir := by
  intro h h' hrel
  have hfind : h'.findTempDir = h.findTempDir := by
    -- Whether a directory can be used depends on the entries and on the right to change them.
    have husable : ∀ dir names, h'.disk.usable? h'.workDir dir names =
        h.disk.usable? h.workDir dir names := by
      intro dir names
      have hwork : h'.workDir = h.workDir := by rw [s.rest hrel]
      rw [hwork, usable?_sameEntries (s.entries hrel)]
    unfold findTempDir
    simp only [husable]
    rw [s.rest hrel]
    rfl
  have htemp : h'.tempDir = h.tempDir := by rw [s.rest hrel]
  have hcandidates : h'.tempCandidates = h.tempCandidates := by
    rw [s.rest hrel]
    rfl
  unfold Act.tempDir
  rw [Act.on_bind_ok (Act.on_get h), Act.on_bind_ok (Act.on_get h'), htemp, hfind, hcandidates]
  rcases h.tempDir with _ | dir
  · rcases h.findTempDir with _ | ⟨dir, tried⟩
    · exact .inl ⟨_, h, h', rfl, rfl, hrel⟩
    · have hset := s.asked (.probe tried :: h.trace) h.answers h.makeDirFaults h.setModeFaults
        (some dir) hrel
      refine .inr ⟨dir, dir, _, _, rfl, rfl, rfl, ?_⟩
      rw [s.rest hrel] at hset ⊢
      exact hset
  · exact .inr ⟨dir, dir, h, h', rfl, rfl, rfl, hrel⟩

theorem keeps_ofRoot {rel : Host → Host → Prop} (s : Steady rel) (root : Value) :
    Keeps rel (ofRoot root) (ofRoot root) := by
  unfold ofRoot
  split
  · exact (keeps_ofExcept _).then fun path => keeps_pure _
  · exact (keeps_tempDir s).then fun dir => keeps_pure _

/-! ## The store -/

theorem keeps_localOf {rel : Host → Host → Prop} (s : Steady rel) (settings : Entries) :
    Keeps rel (localOf settings) (localOf settings) := by
  unfold localOf LocalStore.at_
  extract_lets base
  split
  · exact keeps_throw _
  · refine (keeps_ofExcept _).then fun path => ?_
    have hsight : ∀ h h', rel h h' → SameSight h h' := fun _ _ hrel =>
      ⟨by rw [s.rest hrel], s.entries hrel⟩
    exact (keeps_resolve hsight path.text).then fun l => keeps_pure _

/-- **Clients that download different bytes** are made: making one does nothing on the host, and ends
    alike. -/
def ClientsAlike (clients clients' : Clients) : Prop :=
  ∀ secret url user h h', Twins secret h h' → ∃ r r', (clients url user).on h = (r, h) ∧
    (clients' url user).on h' = (r', h') ∧ Agree HdfsClient.Alike r r'

/-- Where there are none. -/
theorem noClients_alike : ClientsAlike noClients noClients :=
  fun _ _ _ _ _ _ => ⟨_, _, rfl, rfl, .error _⟩

section Stores

variable {clients clients' : Clients} (hc : ClientsAlike clients clients')

include hc

theorem alike_hdfsOf (h₀ : Host) (secret : List Nat) (settings : Entries) :
    Alike (Before h₀ secret) (hdfsOf settings clients) (hdfsOf settings clients')
      (fun store store' g g' => AnyStore.Alike (.hdfs store) (.hdfs store') ∧ Before h₀ secret g g')
      (Before h₀ secret) := by
  unfold hdfsOf
  extract_lets url user base
  have hclients : Alike (Before h₀ secret) (clients url user) (clients' url user)
      (fun client client' g g' => client.Alike client' ∧ Before h₀ secret g g')
      (Before h₀ secret) := by
    intro h h' a
    obtain ⟨r, r', hon, hon', hends⟩ := hc secret url user h h' a.2
    rcases hends with ⟨f, rfl, rfl⟩ | ⟨client, client', rfl, rfl, hclient⟩
    · exact .inl ⟨f, h, h', hon, hon', a⟩
    · exact .inr ⟨client, client', h, h', hon, hon', hclient, a⟩
  split
  · exact Alike.throw _ fun _ _ a => a
  · exact hclients.bind fun client client' =>
      Alike.pure _ _ fun _ _ a => ⟨AnyStore.Alike.hdfs ⟨url, user, base, client⟩ a.1, a.2⟩

/-- **The store that settings describe** is made alike. -/
theorem alike_ofSettings (h₀ : Host) (secret : List Nat) (settings : Value) :
    Alike (Before h₀ secret) (ofSettings settings clients) (ofSettings settings clients')
      (fun store store' g g' => Option.Rel AnyStore.Alike store store' ∧ Before h₀ secret g g')
      (Before h₀ secret) := by
  unfold ofSettings
  split
  · exact Alike.pure _ _ fun _ _ a => ⟨.none, a⟩
  · refine (keeps_ofExcept _).then fun es => ?_
    extract_lets kind
    split
    · exact (keeps_localOf (steady_before h₀ secret) es).then fun store =>
        Alike.pure _ _ fun _ _ a => ⟨.some (.onHost store), a⟩
    · split
      · exact (alike_hdfsOf hc h₀ secret es).bind fun store store' =>
          Alike.pure _ _ fun _ _ a => ⟨.some a.1, a.2⟩
      · unfold Value.refusedAs
        split <;> exact Alike.throw _ fun _ _ a => a

end Stores

/-! ## The keytab -/

/-- A store as a run meets it: its copies may fail, and what is asked of it may be recorded. -/
def met (fault : Option CopyFault) (recording : Bool) (store : SharedStore) : SharedStore :=
  if recording then (store.failing fault).recorded else store.failing fault

theorem alike_met {fault fault' : Option CopyFault} (hf : CopyFault.Alike fault fault')
    (recording : Bool) {store store' : SharedStore} (a : store.Alike store') :
    (met fault recording store).Alike (met fault' recording store') := by
  unfold met
  split
  · exact (a.failing hf).recorded
  · exact a.failing hf

/-- **A keytab is found** alike. -/
theorem alike_keytabFile (s : Setup) {store store' : Option SharedStore}
    (a : Option.Rel SharedStore.Alike store store') (principal : String) :
    Alike (Before h₀ secret) (s.keytabFile store principal) (s.keytabFile store' principal)
      (fun path path' g g' => path' = path ∧
        CopiedIn (fun p => InDir (s.stager.nextDir h₀) p ∧ p = path) secret g g')
      (CopiedIn (InDir (s.stager.nextDir h₀)) secret) := by
  have hfirst : ∀ g g', Before h₀ secret g g' →
      CopiedIn (InDir (s.stager.nextDir h₀)) secret g g' := fun _ _ b => .inl b.2
  have hlog := fun level message fields =>
    ((steady_before h₀ secret).log KeytabStager.logger level message fields).failing hfirst
  unfold Setup.keytabFile
  refine ((keeps_ofExcept s.source).failing hfirst).then fun source => ?_
  -- A keytab that is on the host is not touched; one in the store is staged.
  cases source with
  | onHost path =>
    have hfile : ∀ st st' : SharedStore, Alike (Before h₀ secret)
        ((KeytabSource.onHost path).file s.stager st s.clusterName principal)
        ((KeytabSource.onHost path).file s.stager st' s.clusterName principal)
        (fun path path' g g' => path' = path ∧
          CopiedIn (fun p => InDir (s.stager.nextDir h₀) p ∧ p = path) secret g g')
        (CopiedIn (InDir (s.stager.nextDir h₀)) secret) := by
      intro st st'
      unfold KeytabSource.file
      exact (hlog _ _ _).then fun _ => Alike.pure _ _ fun _ _ b => ⟨rfl, .inl b.2⟩
    cases a with
    | none => exact hfile _ _
    | some a => exact hfile _ _
  | shared name =>
    cases a with
    | none => exact Alike.throw _ hfirst
    | some a =>
      unfold KeytabSource.file
      refine (hlog _ _ _).then fun _ h h' b => ?_
      have hfetch := alike_fetch a s.stager (.str name) s.clusterName b.1.orderly b.2 h h' ⟨rfl, rfl⟩
      rw [b.1.nextDir] at hfetch
      exact hfetch

/-! ## Resolving -/

theorem keeps_setupOf {rel : Host → Host → Prop} (s : Steady rel) (c : AppConfig)
    (provider : Except Failure IdentityProvider) :
    Keeps rel (setupOf c provider) (setupOf c provider) := by
  unfold setupOf
  refine (keeps_ofExcept _).then fun components => (keeps_ofExcept _).then fun who => ?_
  exact (keeps_ofRoot s _).then fun stager => Setup.keeps_make s _ _ _ _ _

/-- The stager of a set-up is that of the configured root: nothing happens before it is made. -/
theorem setupOf_stager {c : AppConfig} {provider : Except Failure IdentityProvider} {s : Setup}
    {h g : Host} (hs : (setupOf c provider).on h = (.ok s, g)) :
    ((ofRoot c.stagingRoot).on h).1 = .ok s.stager := by
  unfold setupOf at hs
  obtain ⟨components, _, hs⟩ := Act.on_ofExcept_bind_eq_ok hs
  obtain ⟨who, _, hs⟩ := Act.on_ofExcept_bind_eq_ok hs
  obtain ⟨stager, h₃, hroot, hs⟩ := Act.on_bind_eq_ok hs
  rw [Setup.make_stager hs, hroot]

/-- The keytab file of a set-up, with a store that is met in another way than as it is. -/
def keytabVia (view : SharedStore → SharedStore) (c : AppConfig) (s : Setup) (principal : String)
    (clients : Clients) : Act String := do
  let store ← Store.ofSettings c.sharedStore clients
  s.keytabFile (store.map fun st => view st.shared) principal

/-- The end of resolving: the log says what was found. -/
def report (c : AppConfig) (principal : String) (source : KeytabSource) (keytab : Option String) :
    Act Outcome := do
  Act.log logger Log.info "Security configuration resolved"
    [("principal", .str principal), ("keytab_source", .str source.describe),
     ("keytab_path", keytab.elim .none .str)]
  return .enabled c.clusterName principal source.describe keytab

/-- Resolving, with such a store. -/
def resolveVia (view : SharedStore → SharedStore) (c : AppConfig) (stage : Bool)
    (provider : Except Failure IdentityProvider) (clients : Clients) : Act Outcome := do
  let s ← setupOf c provider
  if ← Act.ofExcept s.isEnabled then
    let principal ← s.principal
    let source ← Act.ofExcept s.source
    let keytab ← if stage then some <$> keytabVia view c s principal clients else pure none
    report c principal source keytab
  else
    Act.log logger Log.info "Cluster security is disabled; no Kerberos login required" []
    return .disabled c.clusterName

theorem resolve_eq (c : AppConfig) (stage : Bool) (provider : Except Failure IdentityProvider)
    (clients : Clients) :
    resolve c stage provider clients = resolveVia (met none false) c stage provider clients := rfl

/-- The keytab of an outcome. -/
def Outcome.keytab? : Outcome → Option String
  | .disabled _ => none
  | .enabled _ _ _ keytab => keytab

/-- The paths of a staging with the root of a configuration, on a host. -/
def InStaging (c : AppConfig) (h : Host) (path : String) : Prop :=
  ∃ stager : KeytabStager, ((ofRoot c.stagingRoot).on h).1 = .ok stager ∧
    InDir (stager.nextDir h) path

/-- The keytab that is reported is the copy, if there is one. -/
theorem alike_report (c : AppConfig) (principal : String) (source : KeytabSource)
    (keytab : Option String) :
    Alike (CopiedIn (fun path => InStaging c h₀ path ∧ keytab = some path) secret)
      (report c principal source keytab) (report c principal source keytab)
      (fun o o' g g' => o' = o ∧
        CopiedIn (fun path => InStaging c h₀ path ∧ o.keytab? = some path) secret g g')
      (CopiedIn (InStaging c h₀) secret) := by
  unfold report
  refine (((steady_copiedIn _ secret).log _ _ _ _).failing fun g g' b => ?_).then fun _ => ?_
  · exact b.mono fun path hp => hp.1
  · exact Alike.pure _ _ fun _ _ b => ⟨rfl, b⟩

section Resolving

variable {fault fault' : Option CopyFault} (hf : CopyFault.Alike fault fault') {c : AppConfig}
  {clients clients' : Clients} (hc : ClientsAlike clients clients')

include hf hc

theorem alike_keytabVia (recording : Bool) {s : Setup}
    (hs : ((ofRoot c.stagingRoot).on h₀).1 = .ok s.stager) (principal : String) :
    Alike (Before h₀ secret) (keytabVia (met fault recording) c s principal clients)
      (keytabVia (met fault' recording) c s principal clients')
      (fun path path' g g' => path' = path ∧
        CopiedIn (fun p => InStaging c h₀ p ∧ p = path) secret g g')
      (CopiedIn (InStaging c h₀) secret) := by
  have hplace : ∀ path, InDir (s.stager.nextDir h₀) path → InStaging c h₀ path :=
    fun path hp => ⟨s.stager, hs, hp⟩
  unfold keytabVia
  refine ((alike_ofSettings hc h₀ secret c.sharedStore).failing fun _ _ b => .inl b.2).bind
    fun store store' h h' hrel => ?_
  obtain ⟨hstores, b⟩ := hrel
  have hmet : Option.Rel SharedStore.Alike (store.map fun st => met fault recording st.shared)
      (store'.map fun st => met fault' recording st.shared) := by
    cases hstores with
    | none => exact .none
    | some a => exact .some (alike_met hf recording a.shared)
  rcases alike_keytabFile s hmet principal h h' b with
    ⟨f, g, g', hon, hon', a⟩ | ⟨path, path', g, g', hon, hon', hpath, a⟩
  · exact .inl ⟨f, g, g', hon, hon', a.mono hplace⟩
  · exact .inr ⟨path, path', g, g', hon, hon', hpath, a.mono fun p hp => ⟨hplace p hp.1, hp.2⟩⟩

/-- **Security is resolved** alike. -/
theorem alike_resolveVia (recording : Bool) (stage : Bool)
    (provider : Except Failure IdentityProvider) :
    Alike (fun h h' => h = h₀ ∧ Before h₀ secret h h')
      (resolveVia (met fault recording) c stage provider clients)
      (resolveVia (met fault' recording) c stage provider clients')
      (fun o o' g g' => o' = o ∧
        CopiedIn (fun path => InStaging c h₀ path ∧ o.keytab? = some path) secret g g')
      (CopiedIn (InStaging c h₀) secret) := by
  have hfirst : ∀ g g', Before h₀ secret g g' → CopiedIn (InStaging c h₀) secret g g' :=
    fun _ _ b => .inl b.2
  have s := steady_before h₀ secret
  have hsetup : Alike (fun h h' => h = h₀ ∧ Before h₀ secret h h') (setupOf c provider)
      (setupOf c provider) (fun u v g g' => v = u ∧ Before h₀ secret g g')
      (CopiedIn (InStaging c h₀) secret) :=
    (keeps_setupOf s c provider).mono (fun _ _ b => b.2) (fun _ _ _ _ b => b) hfirst
  have hknown : ∀ (h h' : Host) (u : Setup) (g : Host), h = h₀ ∧ Before h₀ secret h h' →
      (setupOf c provider).on h = (.ok u, g) → ((ofRoot c.stagingRoot).on h₀).1 = .ok u.stager := by
    rintro h h' u g ⟨rfl, _⟩ hs
    exact setupOf_stager hs
  unfold resolveVia
  refine hsetup.then_of hknown fun setup hstager => ?_
  refine ((keeps_ofExcept _).failing hfirst).then fun enabled => ?_
  cases enabled with
  | false =>
    refine ((s.log _ _ _ _).failing hfirst).then fun _ => ?_
    exact Alike.pure _ _ fun _ _ b => ⟨rfl, .inl b.2⟩
  | true =>
    refine ((keeps_principalOf s _ _).failing hfirst).then fun principal => ?_
    refine ((keeps_ofExcept _).failing hfirst).then fun source => ?_
    -- the keytab, if it is wanted
    cases stage with
    | false =>
      have hnone : Alike (Before h₀ secret) (pure none) (pure none)
          (fun keytab keytab' g g' => keytab' = keytab ∧
            CopiedIn (fun path => InStaging c h₀ path ∧ keytab = some path) secret g g')
          (CopiedIn (InStaging c h₀) secret) := Alike.pure _ _ fun _ _ b => ⟨rfl, .inl b.2⟩
      exact hnone.bind_same (alike_report c principal source)
    | true =>
      have hkeytab : Alike (Before h₀ secret)
          (some <$> keytabVia (met fault recording) c setup principal clients)
          (some <$> keytabVia (met fault' recording) c setup principal clients')
          (fun keytab keytab' g g' => keytab' = keytab ∧
            CopiedIn (fun path => InStaging c h₀ path ∧ keytab = some path) secret g g')
          (CopiedIn (InStaging c h₀) secret) := by
        refine (alike_keytabVia hf hc recording hstager principal).map fun path path' g g' b => ?_
        obtain ⟨rfl, hcopied⟩ := b
        exact ⟨rfl, hcopied.mono fun p hp => ⟨hp.1, congrArg some hp.2.symm⟩⟩
      exact hkeytab.bind_same (alike_report c principal source)

end Resolving

/-! ## Two runs -/

/-- **Two runs that only bytes tell apart.**  They end with one answer, or one failure; what they did,
    what they logged and everything else but the disks is the same; and the disks are the same but for
    the bytes of the secret files and of one copy.  The copy is where it may be, and when there is an
    answer, it is the keytab of the answer. -/
structure SameRun {α : Type} (secret : List Nat) (place : String → Prop)
    (keytab? : α → Option String) (r r' : Except Failure α × Host) : Prop where
  outcome : r'.1 = r.1
  events : r'.2.events = r.2.events
  records : r'.2.records = r.2.records
  rest : r'.2 = { r.2 with disk := r'.2.disk }
  disks : CopiedIn (fun path => place path ∧ ∀ a, r.1 = .ok a → keytab? a = some path) secret
    r.2 r'.2

theorem SameRun.of_alike {α : Type} {before : Host → Host → Prop} {place : String → Prop}
    {keytab? : α → Option String} {x y : Act α}
    (a : Alike before x y
      (fun u v g g' => v = u ∧ CopiedIn (fun path => place path ∧ keytab? u = some path) secret g g')
      (CopiedIn place secret)) {h h' : Host} (hh : before h h') :
    SameRun secret place keytab? (x.on h) (y.on h') := by
  have hrest : ∀ {p : String → Prop} {g g' : Host}, CopiedIn p secret g g' →
      g'.events = g.events ∧ g'.records = g.records ∧ g' = { g with disk := g'.disk } := by
    intro p g g' b
    have hg := (steady_copiedIn p secret).rest b
    rw [hg]
    exact ⟨rfl, rfl, rfl⟩
  rcases a h h' hh with ⟨f, g, g', hx, hy, b⟩ | ⟨u, v, g, g', hx, hy, rfl, b⟩
  · obtain ⟨hevents, hrecords, hg⟩ := hrest b
    rw [hx, hy]
    exact ⟨rfl, hevents, hrecords, hg, b.mono fun path hp => ⟨hp, nofun⟩⟩
  · obtain ⟨hevents, hrecords, hg⟩ := hrest b
    rw [hx, hy]
    refine ⟨rfl, hevents, hrecords, hg, b.mono fun path hp => ⟨hp.1, fun u hu => ?_⟩⟩
    rw [← Except.ok.inj hu]
    exact hp.2

/-- A secure cluster with its keytabs in the mounted store of `clashHost`. -/
def mountedConfig : AppConfig where
  clusterName := .str "c"
  cluster := .map [(.str authenticationKey, .str kerberos)]
  components := .map [(.str masterComponent, .map [(.str principalKey, .str "am"),
    (.str sharedKeytabKey, .str "am.keytab")])]
  sharedStore := .map [(.str "base_path", .str "/mnt")]
  stagingRoot := .str "."

end SecureStartup.Startup
