import SecureStartup.Proofs.Config.Validated
import SecureStartup.Proofs.Keytab.Root
import SecureStartup.Proofs.Security.Construction
import SecureStartup.Proofs.Startup.Staging

/-!
  The steps of a start-up, one by one.

  Program: `resolve_security` validates the set-up, finds the principal, looks at the way to the keytab,
  and, if the keytab is wanted, makes the shared store (`create_shared_filesystem`) and stages the keytab.

  For each step there is the ending that it leads to when it fails, in terms of what it meets: settings,
  what a lookup of the identity finds, what making the store gives, and how the requests of a staging are
  answered.  Each is proved to be the ending of the code's own failure.

  How a client of a service is made is not the program's.  What may go wrong then is a parameter here
  (`MakesClients`): later results choose it as wide as they can bear.
-/

namespace SecureStartup.Startup

open SecureStartup.Config SecureStartup.Security SecureStartup.Store

/-! ## Endings of single steps -/

/-- **The root of the stager**, which is wanted before anything is validated: without one, and without
    a directory for temporary files, there is no start-up. -/
def rootEnding? (root : Value) (h : Host) : Option Ending :=
  if KeytabStager.HasRoot root h then none else some (.exits 74)

/-- The choice of the keytab: exactly one way, and one that can be written. -/
def choiceEnding? (settings : Entries) : Option Ending :=
  if ChoosesOne settings ∧ IsWritten settings then none else some (.exits 78)

/-- **The validation.**  Without a principal the environment has to have an identity: a lookup that
    fails is a bad state, one that finds nobody is a bad configuration. -/
def validationEnding? (settings : Entries) (found : Except Failure (Option LoginIdentity)) :
    Option Ending :=
  if isSet (settings.field principalKey) then choiceEnding? settings
  else
    match found with
    | .error _ => some (.exits 70)
    | .ok none => some (.exits 78)
    | .ok (some _) => choiceEnding? settings

/-- **The principal.**  The identity is looked up again: now a lookup that fails is input or output,
    and one that finds nobody is a bad state. -/
def principalEnding? (settings : Entries) (found : Except Failure (Option LoginIdentity)) :
    Option Ending :=
  if isSet (settings.field principalKey) then
    if (settings.field principalKey).isWritable then none else some (.exits 78)
  else
    match found with
    | .error _ => some (.exits 74)
    | .ok none => some (.exits 70)
    | .ok (some _) => none

/-- **The shared store**: the system's refusal, or a setting that is wrong.  A client that cannot be
    made for any other reason is not reported. -/
def storeEnding? (built : Except Failure (Option AnyStore)) : Option Ending :=
  match built with
  | .error f =>
    some (if f.isSystem then .exits 74 else if f.isInvalid then .exits 78 else .escapes)
  | .ok _ => none

/-- **The keytab.**  A shared keytab needs a store, and is staged. -/
def keytabEnding? (settings : Entries) (cluster : Value) (replies : SharedStore → List Reply)
    (built : Except Failure (Option AnyStore)) : Option Ending :=
  match built with
  | .error _ => none
  | .ok store =>
    if isSet (settings.field sharedKeytabKey) then
      match store with
      | none => some (.exits 78)
      | some s => repliesEnding? cluster (replies s.shared)
    else none

/-! ## The validation -/

theorem choice_ends (settings : Entries) :
    choiceEnding? settings =
      (keytabProblem? settings).map fun f => Ending.of (.error f : Except Failure Unit) := by
  unfold choiceEnding?
  by_cases h : ChoosesOne settings ∧ IsWritten settings
  · rw [if_pos h, (keytabProblem?_eq_none settings).mpr h]
    rfl
  · rw [if_neg h]
    by_cases hone : ChoosesOne settings
    · rw [keytabProblem?_of_not_isWritten hone fun hw => h ⟨hone, hw⟩]
      rfl
    · obtain ⟨issue, hp, hk, _⟩ := keytabProblem?_of_not_choosesOne hone
      rw [hp, Option.map_some, Ending.of_setup, hk]
      rfl

theorem validation_ends {cluster settings : Entries} (hon : isOn cluster = true)
    {found : Except Failure (Option LoginIdentity)}
    (hf : ∀ f, found = .error f → f.isSystem = true) :
    validationEnding? settings found =
      (problem? cluster settings found).map fun f => Ending.of (.error f : Except Failure Unit) := by
  unfold validationEnding? problem? principalProblem?
  rw [if_pos hon]
  by_cases hset : isSet (settings.field principalKey) = true
  · rw [if_pos hset, if_pos hset, Option.none_or, choice_ends]
  · rw [if_neg hset, if_neg hset]
    rcases found with f | _ | identity
    · simp only [hf f rfl, if_true]
      rfl
    · rfl
    · exact choice_ends settings

/-! ## The principal -/

/-- The principal is the configured one, or that of an identity that is looked up; beside the lookup
    only the log shows it. -/
theorem principalOf_on (provider : IdentityProvider) (settings : Entries) (h : Host)
    (hf : ∀ f, (provider.lookUp.on h).1 = .error f → f.isSystem = true) :
    ∃ r h', (principalOf provider (.map settings)).on h = (r, h') ∧
      Ending.of? r = principalEnding? settings (provider.lookUp.on h).1 ∧
      Host.Logged (if isSet (settings.field principalKey) then h else (provider.lookUp.on h).2)
        h' := by
  unfold principalOf principalEnding?
  rw [fieldOf_map, Act.on_bind, Act.on_ofExcept]
  by_cases hset : isSet (settings.field principalKey) = true
  · simp only [hset, if_true]
    refine ⟨(settings.field principalKey).written, h, ?_, ?_, Host.Logged.refl h⟩
    · exact Act.on_ofExcept _ h
    · rw [written_eq]
      split <;> rfl
  · simp only [Bool.eq_false_iff.mpr hset, Bool.false_eq_true, if_false]
    show ∃ r h', (provider.lookUp >>= _ : Act String).on h = (r, h') ∧ _
    rw [Act.on_bind]
    rcases hx : provider.lookUp.on h with ⟨f | _ | identity, h'⟩
    · refine ⟨.error f, h', rfl, ?_, Host.Logged.refl h'⟩
      have hs := hf f (by rw [hx])
      exact congrArg some (Ending.of_system hs)
    · exact ⟨_, h', rfl, rfl, Host.Logged.refl h'⟩
    · exact ⟨_, _, rfl, rfl, Host.Logged.of_log _ _ _ _ h'⟩

/-! ## The shared store -/

/-- A setting that is not given, or a text. -/
def IsTextual (v : Value) : Prop := v = .none ∨ ∃ s, v = .str s

/-- **What is asked of the library for clients**, for the user of a host: making a client does nothing
    on the host, and fails in certain ways only; a client that was made refuses plainly. -/
def MakesClients (fails : Failure → Prop) (clients : Clients) (h : Host) : Prop :=
  ∀ url user g, g.env = h.env → g.userRecord = h.userRecord →
    ∃ r, (clients (.str url) user).on g = (r, g) ∧ (∀ f, r = .error f → fails f) ∧
      ∀ client, r = .ok client → HdfsClient.Plain client

/-- A failure to make a client. -/
def NoClient (clients : Clients) (f : Failure) : Prop :=
  ∃ url user g, ((clients (.str url) user).on g).1 = .error f

theorem MakesClients.noClient {fails : Failure → Prop} {clients : Clients} {h : Host}
    (a : MakesClients fails clients h) :
    MakesClients (fun f => fails f ∧ NoClient clients f) clients h := by
  intro url user g henv huser
  obtain ⟨r, hr, hfails, hclient⟩ := a url user g henv huser
  refine ⟨r, hr, fun f hf => ⟨hfails f hf, url, user, g, ?_⟩, hclient⟩
  rw [hr]
  exact hf

/-- Where there is no library, every client is refused as a wrong value. -/
theorem makesClients_noClients {fails : Failure → Prop} (hf : ∀ why, fails (.invalid why)) (h : Host) :
    MakesClients fails noClients h := by
  intro url user g _ _
  refine ⟨.error (.invalid (.other "no client")), rfl, fun f hr => ?_, nofun⟩
  cases hr
  exact hf _

/-- What is asked of the settings of a store: paths and addresses are texts. -/
def HasTextualStore (c : AppConfig) : Prop :=
  ∀ es : Entries, c.sharedStore = .map es →
    IsTextual (es.field "base_path") ∧ IsTextual (es.field "url")

theorem text_of_textual {v : Value} (h : IsTextual v) (ht : v.truthy = true) : ∃ s, v = .str s := by
  rcases h with rfl | hs
  · exact nomatch ht
  · exact hs

/-- The mounted store is where its path leads. -/
theorem localOf_eq {es : Entries} {base : String} (hb : es.field "base_path" = .str base)
    (ht : (es.field "base_path").truthy = true) :
    localOf es = Store.resolve (PurePath.ofString base).text >>= fun l => pure (LocalStore.mk l) := by
  unfold localOf
  rw [hb] at ht ⊢
  simp only [ht]
  rfl

/-- Making the mounted store follows its path, and does nothing on the host. -/
theorem localOf_on {es : Entries} (g : Host) {base : String}
    (hb : es.field "base_path" = .str base) (ht : (es.field "base_path").truthy = true) :
    ∃ r, (localOf es).on g = (r, g) ∧ ∀ f, r = .error f → f.Plain ∨ f.LoopsOn g := by
  let path := (PurePath.ofString base).text
  have hon : (localOf es).on g = (((Store.resolve path).on g).1.map LocalStore.mk, g) := by
    rw [localOf_eq hb ht, Act.on_bind_pure, resolve_on]
  refine ⟨_, hon, fun f hf => ?_⟩
  rcases hr : ((Store.resolve path).on g).1 with f' | l <;> rw [hr] at hf
  · cases hf
    exact resolve_fails hr
  · exact nomatch hf

/-- Making the store in HDFS makes a client. -/
theorem hdfsOf_on {es : Entries} {fails : Failure → Prop} {clients : Clients} {h g : Host}
    (hc : MakesClients fails clients h) (henv : g.env = h.env) (huser : g.userRecord = h.userRecord)
    {url : String} (hu : es.field "url" = .str url) (ht : (es.field "url").truthy = true)
    (hb : IsTextual (es.field "base_path")) {cluster : Value} (hcluster : cluster.truthy = true) :
    ∃ r, (hdfsOf es clients).on g = (r, g) ∧ (∀ f, r = .error f → fails f) ∧
      ∀ s, r = .ok s → s.shared.Plain cluster ∧ s.client.Plain := by
  let user := (es.field "user").orElse .none
  let base := (es.field "base_path").orElse (.str defaultBase)
  obtain ⟨r, hr, hfails, hclient⟩ := hc url user g henv huser
  have hon : (hdfsOf es clients).on g =
      (clients (.str url) user >>= fun client => pure (HdfsStore.mk (.str url) user base client)).on
        g := by
    unfold hdfsOf
    rw [hu] at ht ⊢
    simp only [ht]
    rfl
  -- The base is the one that is given, or the default; either is a text.
  obtain ⟨b, hbase⟩ : ∃ b, base = .str b := by
    show ∃ b, (es.field "base_path").orElse (.str defaultBase) = .str b
    unfold Value.orElse
    split
    · exact text_of_textual hb ‹_›
    · exact ⟨_, rfl⟩
  rw [Act.on_bind_pure, hr] at hon
  refine ⟨_, hon, fun f hf => ?_, fun s hs => ?_⟩
  · rcases r with f' | client
    · cases hf
      exact hfails _ rfl
    · exact nomatch hf
  · rcases r with f' | client
    · exact nomatch hs
    · cases hs
      exact ⟨HdfsStore.plain _ hbase (hclient client rfl) hcluster, hclient client rfl⟩

/-- Of the two kinds, the settings say which store it is. -/
theorem ofSettings_local {es : Entries} (ht : (Value.map es).truthy = true)
    (hk : (AppConfig.storeKind es).same (.str "local") = true) (clients : Clients) :
    ofSettings (.map es) clients = localOf es >>= fun s => pure (some (.onHost s)) := by
  unfold ofSettings
  rw [ht]
  show (if (AppConfig.storeKind es).same (.str "local") = true then
    localOf es >>= fun s => pure (some (AnyStore.onHost s)) else _ : Act _) = _
  rw [if_pos hk]

theorem ofSettings_hdfs {es : Entries} (ht : (Value.map es).truthy = true)
    (hl : (AppConfig.storeKind es).same (.str "local") = false)
    (hk : (AppConfig.storeKind es).same (.str "webhdfs") = true) (clients : Clients) :
    ofSettings (.map es) clients = hdfsOf es clients >>= fun s => pure (some (.hdfs s)) := by
  unfold ofSettings
  rw [ht]
  show (if (AppConfig.storeKind es).same (.str "local") = true then _
    else if (AppConfig.storeKind es).same (.str "webhdfs") = true then
      hdfsOf es clients >>= fun s => pure (some (AnyStore.hdfs s)) else _ : Act _) = _
  rw [hl, if_neg Bool.false_ne_true, if_pos hk]

/-- What a store asks of what lies behind it: a client that refuses plainly. -/
def HasPlainClient : AnyStore → Prop
  | .onHost _ => True
  | .hdfs s => s.client.Plain

/-- **Making the store** of a validated configuration does nothing on the host.  It refuses plainly,
    unless no client can be made, or the path of a mounted store leads into a loop of links; and so
    does the store. -/
theorem ofSettings_on {c : AppConfig} (a : c.Validated) (hc : HasTextualStore c)
    {fails : Failure → Prop} {clients : Clients} {h g : Host} (hclients : MakesClients fails clients h)
    (henv : g.env = h.env) (huser : g.userRecord = h.userRecord) :
    ∃ r, (ofSettings c.sharedStore clients).on g = (r, g) ∧
      (∀ f, r = .error f → f.Plain ∨ f.LoopsOn g ∨ fails f) ∧
      ∀ s, r = .ok (some s) → s.shared.Plain c.clusterName ∧ HasPlainClient s := by
  -- No store is configured, or a mounted one, or one in HDFS.
  by_cases ht : c.sharedStore.truthy = true
  · obtain ⟨es, hes, hkind⟩ := a.store ht
    obtain ⟨hbase, hurl⟩ := hc es hes
    have htrue : (Value.map es).truthy = true := hes ▸ ht
    rw [hes]
    rcases hkind with ⟨hlocal, hgiven⟩ | ⟨hlocal, hweb, hgiven⟩
    · -- a mounted store is found along its path
      obtain ⟨base, hb⟩ := text_of_textual hbase hgiven
      obtain ⟨r, hr, hplain⟩ := localOf_on g hb hgiven
      have hon : (ofSettings (.map es) clients).on g = (r.map fun s => some (.onHost s), g) := by
        rw [ofSettings_local htrue hlocal, Act.on_bind_pure, hr]
      refine ⟨_, hon, fun f hf => ?_, fun s hs => ?_⟩
      · rcases r with f' | store
        · cases hf
          exact (hplain _ rfl).imp id .inl
        · exact nomatch hf
      · rcases r with f' | store
        · exact nomatch hs
        · cases hs
          exact ⟨LocalStore.plain store a.named, trivial⟩
    · -- a store in HDFS needs a client
      obtain ⟨url, hu⟩ := text_of_textual hurl hgiven
      obtain ⟨r, hr, hfails, hstore⟩ := hdfsOf_on hclients henv huser hu hgiven hbase a.named
      have hon : (ofSettings (.map es) clients).on g = (r.map fun s => some (.hdfs s), g) := by
        rw [ofSettings_hdfs htrue hlocal hweb, Act.on_bind_pure, hr]
      refine ⟨_, hon, fun f hf => ?_, fun s hs => ?_⟩
      · rcases r with f' | store
        · cases hf
          exact .inr (.inr (hfails _ rfl))
        · exact nomatch hf
      · rcases r with f' | store
        · exact nomatch hs
        · cases hs
          exact hstore store rfl
  · refine ⟨.ok none, ?_, nofun, nofun⟩
    unfold ofSettings
    rw [if_pos (by simpa using ht)]
    rfl

end SecureStartup.Startup
