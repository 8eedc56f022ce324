import SecureStartup.Proofs.Config.Loading
import SecureStartup.Proofs.Startup.Steps
import SecureStartup.Proofs.Store.Confinement

/-!
  Validation and the factories of start-up.

  What a configuration may say is written down twice: `AppMasterConfig.validate` looks at it once, when it
  is loaded, and whoever makes the identity provider (`create_identity_provider`), the shared store
  (`create_shared_filesystem`) or the instance definition (`instance_definition`) looks at its own settings
  again.  These are the same rules.

  1. **A check is its rule.**  `Checks x broken` says that a check passes where the rule is kept, and says
     that a value is wrong where the rule is broken.  Checks one after the other are the check of either
     rule (`Checks.seq`, `Checks.ifThen`), so `validate` is one check (`validate_checks`).

  2. **A factory refuses where its rule is broken.**  `ofSource_refused_iff` and `ofSettings_refused_iff`
     compare the factories with the rules that the checks are about.  A factory may still fail in other
     ways, when its client cannot be made for instance; that is no refusal of the settings.

  3. **The one difference.**  The store alone may meet something that no check has looked at: the system
     has to be given its path, and a path with half of a surrogate pair has no bytes
     (`ofSettings_refuses_half`).

  `validate_agrees` puts the two sides together.
-/

namespace SecureStartup.Startup

open SecureStartup.Config SecureStartup.Store

/-! ## Checks -/

/-- **A value is said to be wrong.** -/
def IsRefused {α : Type} (r : Except Failure α) : Prop := ∃ f, r = .error f ∧ f.isInvalid = true

/-- **A check of a rule**: it passes where the rule is kept, and says that a value is wrong where it is
    broken. -/
structure Checks (x : Except Failure Unit) (broken : Prop) : Prop where
  passes : ¬ broken → x = .ok ()
  refuses : broken → IsRefused x

theorem isRefused_ok {α : Type} (a : α) : ¬ IsRefused (.ok a : Except Failure α) :=
  fun ⟨_, hf, _⟩ => nomatch hf

theorem isRefused_refusedAs {α : Type} (v : Value) (why : Invalid) :
    IsRefused (v.refusedAs why : Except Failure α) := by
  unfold Value.refusedAs
  split
  · exact ⟨_, rfl, rfl⟩
  · exact ⟨_, rfl, rfl⟩

theorem isRefused_map {α β : Type} {r : Except Failure α} {g : α → β} :
    IsRefused (r.map g) ↔ IsRefused r := by
  rcases r with f | a
  · constructor
    · rintro ⟨_, ⟨⟩, hinvalid⟩
      exact ⟨f, rfl, hinvalid⟩
    · rintro ⟨_, ⟨⟩, hinvalid⟩
      exact ⟨f, rfl, hinvalid⟩
  · exact iff_of_false (isRefused_ok _) (isRefused_ok _)

namespace Checks

variable {x y : Except Failure Unit} {p q : Prop}

theorem nothing : Checks (.ok ()) False := ⟨fun _ => rfl, False.elim⟩

theorem ok_iff (a : Checks x p) : x = .ok () ↔ ¬ p := by
  constructor
  · rintro rfl hp
    exact isRefused_ok () (a.refuses hp)
  · exact a.passes

theorem refused_iff (a : Checks x p) : IsRefused x ↔ p := by
  constructor
  · intro hx
    by_contra hp
    rw [a.passes hp] at hx
    exact isRefused_ok () hx
  · exact a.refuses

theorem congr (a : Checks x p) (h : p ↔ q) : Checks x q :=
  ⟨fun hq => a.passes (mt h.mp hq), fun hq => a.refuses (h.mpr hq)⟩

/-- What is refused first is what counts. -/
theorem refused_bind {α : Type} {r : Except Failure α} (hr : IsRefused r) (k : α → Except Failure Unit) :
    IsRefused (r >>= k) := by
  obtain ⟨f, rfl, hinvalid⟩ := hr
  exact ⟨f, rfl, hinvalid⟩

/-- **One check after the other** is the check of either rule. -/
theorem seq (hx : Checks x p) (hy : Checks y q) : Checks (x >>= fun _ => y) (p ∨ q) := by
  constructor
  · intro hpq
    rw [hx.passes fun hp => hpq (.inl hp)]
    exact hy.passes fun hq => hpq (.inr hq)
  · intro hpq
    by_cases hp : p
    · exact refused_bind (hx.refuses hp) _
    · rw [hx.passes hp]
      exact hy.refuses (hpq.resolve_left hp)

/-- A check that is written out, and what follows it. -/
theorem ifThen {α : Type} {c : Prop} [Decidable c] {r : Except Failure α} (hr : IsRefused r)
    (hy : Checks y q) : Checks (if c then r >>= fun _ => y else y) (c ∨ q) := by
  by_cases hc : c
  · rw [if_pos hc]
    exact ⟨fun hcq => absurd (.inl hc) hcq, fun _ => refused_bind hr _⟩
  · rw [if_neg hc]
    exact hy.congr (or_iff_right hc).symm

end Checks

/-! ## The rules -/

/-- The settings of a component: a mapping, or nothing. -/
def IsSettings (v : Value) : Prop := v = .none ∨ ∃ m, v = .map m

/-- **The rules of a shared store**: one that is given is of a known kind, and has what its kind needs. -/
def BreaksStoreRule (store : Entries) : Prop :=
  (Value.map store).truthy = true ∧
    ((AppConfig.storeKind store).isOneOf storeKinds = false ∨
    ((AppConfig.storeKind store).same (.str "local") = true ∧
      (store.field "base_path").truthy = false) ∨
    ((AppConfig.storeKind store).same (.str "webhdfs") = true ∧ (store.field "url").truthy = false))

theorem isOneOf_storeKinds (v : Value) :
    v.isOneOf storeKinds = (v.same (.str "local") || v.same (.str "webhdfs")) := by
  unfold Value.isOneOf storeKinds
  rw [List.any_cons, List.any_cons, List.any_nil, Bool.or_false]

theorem isOneOf_identitySources (v : Value) :
    v.isOneOf identitySources = (v.same (.str "process") || v.same (.str "ticket_cache")) := by
  unfold Value.isOneOf identitySources
  rw [List.any_cons, List.any_cons, List.any_nil, Bool.or_false]

/-! ## The loader's side -/

/-- The check of the components, by induction on them. -/
theorem checkComponents_checks (es : List (Value × Value)) :
    Checks (AppConfig.checkComponents es) (∃ e ∈ es, ¬ IsSettings e.2) := by
  induction es with
  | nil => exact Checks.nothing.congr ⟨False.elim, fun ⟨_, he, _⟩ => absurd he List.not_mem_nil⟩
  | cons e es ih =>
    obtain ⟨name, settings⟩ := e
    have hgood : IsSettings settings → ((∃ e ∈ es, ¬ IsSettings e.2) ↔
        ∃ e ∈ (name, settings) :: es, ¬ IsSettings e.2) := by
      intro hs
      rw [List.exists_mem_cons_iff]
      exact (or_iff_right (not_not_intro hs)).symm
    unfold AppConfig.checkComponents
    split
    · exact ih.congr (hgood (.inl rfl))
    · exact ih.congr (hgood (.inr ⟨_, rfl⟩))
    · rename_i hnone hmap
      have hbad : ¬ IsSettings settings := by
        rintro (rfl | ⟨m, rfl⟩)
        · exact hnone rfl
        · exact hmap m rfl
      exact ⟨fun h => absurd ⟨_, List.mem_cons_self, hbad⟩ h, fun _ => isRefused_refusedAs _ _⟩

theorem checkStore_checks (store : Entries) :
    Checks (AppConfig.checkStore (.map store)) (BreaksStoreRule store) := by
  unfold AppConfig.checkStore
  simp only [entriesOf_map_bind]
  by_cases ht : (Value.map store).truthy = true
  · rw [if_pos ht]
    let kind := AppConfig.storeKind store
    have hurl : Checks (if (kind.same (.str "webhdfs") && !(store.field "url").truthy) = true then
        throw (.invalid .storeUrlSetting) else pure () : Except Failure Unit) _ :=
      Checks.ifThen (α := Unit) ⟨_, rfl, rfl⟩ Checks.nothing
    have hbase : Checks (if (kind.same (.str "local") && !(store.field "base_path").truthy) = true then
        _ else _ : Except Failure Unit) _ :=
      Checks.ifThen (α := Unit) (r := throw (.invalid .storeBasePathSetting)) ⟨_, rfl, rfl⟩ hurl
    have hkind : Checks (if (!kind.isOneOf storeKinds) = true then
        (kind.refusedAs (.storeTypeSetting kind) : Except Failure Unit) >>= fun _ => _ else _) _ :=
      Checks.ifThen (isRefused_refusedAs kind (.storeTypeSetting kind)) hbase
    refine hkind.congr ?_
    unfold BreaksStoreRule
    simp [ht, kind]
  · rw [if_neg ht]
    exact Checks.nothing.congr ⟨False.elim, fun h => ht h.1⟩

/-- **Validation is one check**, of all the rules that it goes through. -/
theorem validate_checks {c : AppConfig} {es store : Entries} (hname : c.clusterName.truthy = true)
    (hcomponents : c.components = .map es) (hstore : c.sharedStore = .map store)
    (hroot : c.stagingRoot = .none) (d : Disk) (cwd : Location) :
    Checks (c.validate d cwd) (c.loginIdentity.isOneOf identitySources = false ∨
      (∃ e ∈ es, ¬ IsSettings e.2) ∨ BreaksStoreRule store) := by
  unfold AppConfig.validate
  simp only [hcomponents, hstore, hroot, entriesOf_map_bind]
  have hrest : Checks (do
      AppConfig.checkComponents es
      AppConfig.checkStore (.map store)
      AppConfig.checkStagingRoot .none d cwd) _ :=
    (checkComponents_checks es).seq ((checkStore_checks store).seq Checks.nothing)
  have hsource := Checks.ifThen (c := (!c.loginIdentity.isOneOf identitySources) = true)
    (isRefused_refusedAs c.loginIdentity (.identitySourceSetting c.loginIdentity) (α := Unit)) hrest
  have hall := Checks.ifThen (α := Unit) (c := (!c.clusterName.truthy) = true)
    (r := throw (.invalid .clusterNameRequired)) ⟨_, rfl, rfl⟩ hsource
  refine hall.congr ?_
  simp [hname]

/-! ## The factories' side -/

theorem ofSource_refused_iff (source : Value) (lister : String) (cache : Value) :
    IsRefused (IdentityProvider.ofSource source lister cache) ↔
      source.isOneOf identitySources = false := by
  rw [isOneOf_identitySources, Bool.or_eq_false_iff]
  unfold IdentityProvider.ofSource
  split
  · rename_i hp
    exact iff_of_false (isRefused_ok _) fun h => by rw [hp] at h; exact nomatch h.1
  · rename_i hp
    split
    · rename_i hc
      exact iff_of_false (isRefused_ok _) fun h => by rw [hc] at h; exact nomatch h.2
    · rename_i hc
      exact iff_of_true (isRefused_refusedAs _ _) ⟨Bool.eq_false_iff.mpr hp, Bool.eq_false_iff.mpr hc⟩

/-- **A base path that the system can be given**: a text without NUL, and, where the store is mounted, one
    that there are bytes for. -/
structure HasUsableBase (store : Entries) : Prop where
  textual : IsTextual (store.field "base_path")
  noNul : ∀ s, store.field "base_path" = .str s → Char.ofNat 0 ∉ s.toList
  bytes : ∀ s, store.field "base_path" = .str s →
    (AppConfig.storeKind store).same (.str "local") = true → Invalid.forBytes? (normalPath s) = none

theorem forSystem?_normalPath {s : String} (hnul : Char.ofNat 0 ∉ s.toList)
    (hbytes : Invalid.forBytes? (normalPath s) = none) : Invalid.forSystem? (normalPath s) = none := by
  have habsent : Char.ofNat 0 ∉ (normalPath s).toList := by
    intro h
    rcases mem_of_mem_normalPath h with h | h | h
    · exact hnul h
    · exact absurd h (by decide)
    · exact absurd h (by decide)
  unfold Invalid.forSystem?
  rw [hbytes]
  exact if_neg fun h => habsent (List.contains_iff_mem.mp h)

/-- Following the path of a store never says that a value is wrong, if the system can be given the
    path. -/
theorem resolve_not_refused {path : String} (hp : Invalid.forSystem? path = none) (h : Host) :
    ¬ IsRefused ((Store.resolve path).on h).1 := by
  unfold Store.resolve
  rw [Act.on_bind, Act.on_checkPath, hp]
  show ¬ IsRefused (((get : Act Host) >>= _).on h).1
  rw [Act.on_bind_ok (Act.on_get h)]
  rcases h.disk.canonical h.workDir path with loop | l
  · rintro ⟨f, hf, hinvalid⟩
    cases hf
    exact nomatch hinvalid
  · exact isRefused_ok l

section Store

variable {store : Entries} {clients : Clients}

theorem ofSettings_other (ht : (Value.map store).truthy = true)
    (hlocal : (AppConfig.storeKind store).same (.str "local") = false)
    (hweb : (AppConfig.storeKind store).same (.str "webhdfs") = false) :
    ofSettings (.map store) clients = Act.ofExcept ((AppConfig.storeKind store).refusedAs
      (.storeType (AppConfig.storeKind store))) := by
  unfold ofSettings
  rw [ht]
  show (if (AppConfig.storeKind store).same (.str "local") = true then _
    else if (AppConfig.storeKind store).same (.str "webhdfs") = true then _ else _ : Act _) = _
  rw [hlocal, hweb, if_neg Bool.false_ne_true, if_neg Bool.false_ne_true]

theorem localOf_refused_iff (hbase : HasUsableBase store)
    (hlocal : (AppConfig.storeKind store).same (.str "local") = true) (h : Host) :
    IsRefused ((localOf store).on h).1 ↔ (store.field "base_path").truthy = false := by
  by_cases ht : (store.field "base_path").truthy = true
  · obtain ⟨base, hb⟩ := text_of_textual hbase.textual ht
    have hpath : Invalid.forSystem? (normalPath base) = none :=
      forSystem?_normalPath (hbase.noNul base hb) (hbase.bytes base hb hlocal)
    rw [localOf_eq hb ht, Act.on_bind_pure, isRefused_map]
    refine iff_of_false (resolve_not_refused hpath h) ?_
    rw [ht]
    exact nofun
  · have hf : (store.field "base_path").truthy = false := Bool.eq_false_iff.mpr ht
    refine iff_of_true ⟨.invalid .storeNeedsBasePath, ?_, rfl⟩ hf
    unfold localOf
    simp only [hf]
    rfl

theorem hdfsOf_refused_iff
    (hclients : ∀ url user g, ¬ IsRefused ((clients url user).on g).1) (h : Host) :
    IsRefused ((hdfsOf store clients).on h).1 ↔ (store.field "url").truthy = false := by
  by_cases ht : (store.field "url").truthy = true
  · have hon : hdfsOf store clients = clients (store.field "url") ((store.field "user").orElse .none) >>=
        fun client => pure (HdfsStore.mk (store.field "url") ((store.field "user").orElse .none)
          ((store.field "base_path").orElse (.str defaultBase)) client) := by
      unfold hdfsOf
      simp only [ht]
      rfl
    rw [hon, Act.on_bind_pure, isRefused_map]
    refine iff_of_false (hclients _ _ h) ?_
    rw [ht]
    exact nofun
  · have hf : (store.field "url").truthy = false := Bool.eq_false_iff.mpr ht
    refine iff_of_true ⟨.invalid .storeNeedsUrl, ?_, rfl⟩ hf
    unfold hdfsOf
    simp only [hf]
    rfl

/-- **The store refuses where its rule is broken**, and nowhere else. -/
theorem ofSettings_refused_iff (hbase : HasUsableBase store)
    (hclients : ∀ url user g, ¬ IsRefused ((clients url user).on g).1) (h : Host) :
    IsRefused ((ofSettings (.map store) clients).on h).1 ↔ BreaksStoreRule store := by
  unfold BreaksStoreRule
  by_cases ht : (Value.map store).truthy = true
  · rw [isOneOf_storeKinds]
    by_cases hlocal : (AppConfig.storeKind store).same (.str "local") = true
    · have hweb : (AppConfig.storeKind store).same (.str "webhdfs") = false := by
        rw [(Value.same_str_iff _ _).mp hlocal, Value.same_str]
        rfl
      rw [ofSettings_local ht hlocal, Act.on_bind_pure, isRefused_map,
        localOf_refused_iff hbase hlocal h]
      simp [ht, hlocal, hweb]
    · have hlocal : (AppConfig.storeKind store).same (.str "local") = false := Bool.eq_false_iff.mpr hlocal
      by_cases hweb : (AppConfig.storeKind store).same (.str "webhdfs") = true
      · rw [ofSettings_hdfs ht hlocal hweb, Act.on_bind_pure, isRefused_map,
          hdfsOf_refused_iff hclients h]
        simp [ht, hlocal, hweb]
      · have hweb : (AppConfig.storeKind store).same (.str "webhdfs") = false := Bool.eq_false_iff.mpr hweb
        refine iff_of_true ?_ (by simp [ht, hlocal, hweb])
        rw [ofSettings_other ht hlocal hweb, Act.on_ofExcept]
        exact isRefused_refusedAs _ _
  · refine iff_of_false ?_ fun hbreaks => ht hbreaks.1
    unfold ofSettings
    rw [if_pos (by simpa using ht)]
    exact isRefused_ok none

end Store

/-! ## The instance definition -/

/-- What the instance definition has for a component: its settings, and no settings for nothing. -/
def settingsOf : Value → Value
  | .none => .map []
  | v => v

theorem toEntriesOrEmpty_settings {v : Value} (hv : IsSettings v) :
    (toEntriesOrEmpty v).map Value.map = .ok (settingsOf v) := by
  rcases hv with rfl | ⟨m, rfl⟩
  · rfl
  · rw [AppConfig.toEntriesOrEmpty_map]
    rfl

/-- Component by component, under the names that they had. -/
theorem instanceDefinition_eq {c : AppConfig} {es : Entries} (hcomponents : c.components = .map es)
    (hes : ∀ e ∈ es, IsSettings e.2) :
    c.instanceDefinition = .ok (es.map fun e => (e.1, settingsOf e.2)) := by
  unfold AppConfig.instanceDefinition
  rw [hcomponents, entriesOf_map_bind]
  clear hcomponents
  induction es with
  | nil => rfl
  | cons e es ih =>
    have hmap := toEntriesOrEmpty_settings (hes e List.mem_cons_self)
    rw [List.mapM_cons, ih fun e' he' => hes e' (List.mem_cons_of_mem _ he')]
    rcases hm : toEntriesOrEmpty e.2 with f | m
    · rw [hm] at hmap
      exact nomatch hmap
    · rw [hm] at hmap
      rw [List.map_cons, ← Except.ok.inj hmap]
      rfl

/-! ## Both sides -/

/-- **Validation and the factories agree.**  For a configuration with a name, mappings as components and
    as shared store, and no staging root: validation says that a value is wrong exactly when the source of
    the identity has no provider, or the settings of the store are refused, or a component's settings are
    neither a mapping nor nothing.  The base path has to be one that the system can be given, and clients
    are taken to be made without complaint about values.  What validation accepts becomes the instance
    definition: for every component its settings. -/
theorem validate_agrees {c : AppConfig} {es store : Entries} (hname : c.clusterName.truthy = true)
    (hcomponents : c.components = .map es) (hstore : c.sharedStore = .map store)
    (hroot : c.stagingRoot = .none) (hbase : HasUsableBase store) {clients : Clients}
    (hclients : ∀ url user g, ¬ IsRefused ((clients url user).on g).1) (lister : String) (cache : Value)
    (h : Host) :
    (IsRefused (c.validate h.disk h.workDir) ↔
      IsRefused (IdentityProvider.ofSource c.loginIdentity lister cache) ∨
      IsRefused ((ofSettings c.sharedStore clients).on h).1 ∨ ∃ e ∈ es, ¬ IsSettings e.2) ∧
    (c.validate h.disk h.workDir = .ok () →
      c.instanceDefinition = .ok (es.map fun e => (e.1, settingsOf e.2))) := by
  have hchecks := validate_checks hname hcomponents hstore hroot h.disk h.workDir
  constructor
  · rw [hchecks.refused_iff, ofSource_refused_iff, hstore, ofSettings_refused_iff hbase hclients,
      or_comm (a := BreaksStoreRule store)]
  · intro hok
    have hkept := hchecks.ok_iff.mp hok
    refine instanceDefinition_eq hcomponents fun e he => ?_
    by_contra hbad
    exact hkept (.inr (.inl ⟨e, he, hbad⟩))

/-- A service that serves one text to everyone makes a client for any address and any user. -/
def servingClients (text : String) : Clients := fun _ _ => pure (HdfsClient.serving text)

theorem servingClients_not_refused (text : String) (url user : Value) (h : Host) :
    ¬ IsRefused ((servingClients text url user).on h).1 := by
  show ¬ IsRefused ((pure (HdfsClient.serving text) : Act HdfsClient).on h).1
  rw [Act.on_pure]
  exact isRefused_ok _

/-! ## Mounted stores -/

/-- The settings of a store that is mounted at a path. -/
def mounted (base : String) : Entries := [(.str "base_path", .str base)]

theorem mounted_base (base : String) : (mounted base).field "base_path" = .str base := by
  unfold Entries.field mounted
  rw [Entries.get?_cons, if_pos ((Value.same_str_iff _ _).mpr rfl)]
  rfl

theorem mounted_kind (base : String) : AppConfig.storeKind (mounted base) = .str "local" := by
  unfold AppConfig.storeKind mounted
  rw [Entries.get?_cons, Value.same_str]
  rfl

theorem mounted_keeps {base : String} (hb : base ≠ "") : ¬ BreaksStoreRule (mounted base) := by
  have hgiven : ((mounted base).field "base_path").truthy = true := by
    rw [mounted_base]
    exact bne_iff_ne.mpr hb
  rintro ⟨-, hkind | ⟨-, hbase⟩ | ⟨hkind, -⟩⟩
  · rw [mounted_kind, isOneOf_storeKinds, Value.same_str] at hkind
    exact nomatch hkind
  · rw [hgiven] at hbase
    exact nomatch hbase
  · rw [mounted_kind, Value.same_str] at hkind
    exact absurd hkind (by decide)

/-- A configuration with a mounted store and some components. -/
def mountedAt (base : String) (components : Entries) : AppConfig :=
  { clusterName := .str "analytics", components := .map components, sharedStore := .map (mounted base) }

theorem mountedAt_valid {base : String} (hb : base ≠ "") {components : Entries}
    (hes : ∀ e ∈ components, IsSettings e.2) (d : Disk) (cwd : Location) :
    (mountedAt base components).validate d cwd = .ok () := by
  refine (validate_checks (c := mountedAt base components) rfl rfl rfl rfl d cwd).passes ?_
  rintro (hsource | ⟨e, he, hbad⟩ | hstore)
  · have hprocess : (Value.str "process").isOneOf identitySources = false := hsource
    rw [isOneOf_identitySources, Value.same_str] at hprocess
    exact nomatch hprocess
  · exact hbad (hes e he)
  · exact mounted_keeps hb hstore

/-- A store mounted at a path, and a component without settings, which gets empty ones. -/
theorem validate_agrees_mounted :
    let c := mountedAt "/mnt" [(.str "appmaster", .none)]
    let h : Host := {}
    c.validate h.disk h.workDir = .ok () ∧ c.instanceDefinition = .ok [(.str "appmaster", .map [])] ∧
      ¬ IsRefused ((ofSettings c.sharedStore (servingClients "")).on h).1 := by
  intro c h
  have hvalid : c.validate h.disk h.workDir = .ok () :=
    mountedAt_valid (by decide) (List.forall_mem_singleton.mpr (.inl rfl)) _ _
  have hbase : HasUsableBase (mounted "/mnt") := by
    constructor
    · rw [mounted_base]
      exact .inr ⟨_, rfl⟩
    · rw [mounted_base]
      rintro s ⟨⟩
      decide
    · rw [mounted_base]
      rintro s ⟨⟩ -
      decide +kernel
  obtain ⟨hagree, hdefinition⟩ := validate_agrees (c := c) rfl rfl rfl rfl hbase
    (servingClients_not_refused "") "klist" .none h
  refine ⟨hvalid, hdefinition hvalid, fun hrefused => ?_⟩
  have hnot := hagree.mpr (.inr (.inl hrefused))
  rw [hvalid] at hnot
  exact isRefused_ok () hnot

/-- **Half of a surrogate pair** is a base path that validation accepts, though it has no NUL and no
    system can be given it: the store is refused, whatever the host. -/
theorem ofSettings_refuses_half :
    let base := String.ofList (Text.spell 0xd800)
    let c := mountedAt base []
    Char.ofNat 0 ∉ base.toList ∧ ∀ clients h,
      c.validate h.disk h.workDir = .ok () ∧ IsRefused ((ofSettings c.sharedStore clients).on h).1 := by
  intro base c
  have hgiven : base ≠ "" := by decide
  have hnone : ∀ e ∈ ([] : Entries), IsSettings e.2 := fun e he => absurd he List.not_mem_nil
  refine ⟨by decide, fun clients h => ⟨mountedAt_valid hgiven hnone _ _, ?_⟩⟩
  have hlocal : (AppConfig.storeKind (mounted base)).same (.str "local") = true := by
    rw [mounted_kind]
    exact (Value.same_str_iff _ _).mpr rfl
  have htruthy : ((mounted base).field "base_path").truthy = true := by
    rw [mounted_base]
    exact bne_iff_ne.mpr hgiven
  obtain ⟨why, hwhy⟩ : ∃ why, Invalid.forSystem? (normalPath base) = some why :=
    Option.isSome_iff_exists.mp (by decide +kernel)
  show IsRefused ((ofSettings (.map (mounted base)) clients).on h).1
  rw [ofSettings_local rfl hlocal, Act.on_bind_pure, isRefused_map, localOf_eq (mounted_base base) htruthy,
    Act.on_bind_pure, isRefused_map]
  exact ⟨_, congrArg Prod.fst (resolve_refused hwhy h), rfl⟩

end SecureStartup.Startup
