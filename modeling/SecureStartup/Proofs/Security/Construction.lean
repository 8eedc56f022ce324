import SecureStartup.Proofs.Host.Logging
import SecureStartup.Proofs.Value.Fields
import SecureStartup.Security.Setup

/-!
  Which set-ups can be made.

  1. **Program** — `SecurityConfiguration.__init__` has itself looked through by `ConfigValidator.validate`,
     in one order: is security on, is there a principal or an identity to stand in for one, do the
     settings choose exactly one way to a keytab, and can the chosen setting be written.

  2. **Specification** — `problem?` is the first of these that fails, as a function of the settings and of
     what a lookup finds.

  3. **The proof** — `make_on` says that making a set-up fails with just this, and which host it leaves:
     one lookup at most, and only if no principal is set.  From it follow when a set-up can be made, what
     each failure is, and how often the identity is looked up.

  A keytab setting may be a number.  It is set, but it has no text if it has too many digits, and then
  making the set-up fails in a way that no message of the set-up describes.
-/

namespace SecureStartup.Security

open SecureStartup.Config

/-! ## The parts of the decision -/

/-- A component that is all there is has its settings. -/
theorem component_singleton (name : String) (settings : Entries) :
    InstanceDefinition.component [(.str name, .map settings)] name = .map settings := by
  unfold InstanceDefinition.component
  rw [Entries.field_cons_str, if_pos rfl]
  rcases settings with _ | ⟨e, es⟩ <;> rfl

/-- Whether a cluster with these settings is secure. -/
def isOn (cluster : Entries) : Bool :=
  match cluster.field authenticationKey with
  | .str s => (Text.trim s.toList).map Text.lower == kerberos.toList
  | _ => false

theorem isSecure_map (cluster : Entries) : isSecure (.map cluster) = .ok (isOn cluster) := by
  unfold isOn
  show (match cluster.field authenticationKey with
    | .str s => pure ((Text.trim s.toList).map Text.lower == kerberos.toList)
    | _ => pure false : Except Failure Bool) = _
  cases cluster.field authenticationKey <;> rfl

/-- What is wrong with the principal, given what a lookup finds. -/
def principalProblem? (settings : Entries) (found : Except Failure (Option LoginIdentity)) :
    Option Failure :=
  if isSet (settings.field principalKey) then none
  else
    match found with
    | .error f => some (if f.isSystem then .setup .lookupFailed (some f) else f)
    | .ok none => some (.setup .noPrincipal none)
    | .ok (some _) => none

/-- What is wrong with the choice of the keytab. -/
def keytabProblem? (settings : Entries) : Option Failure :=
  match KeytabSource.ofSettings (.map settings) with
  | .error f => some f
  | .ok _ => none

/-- **What is wrong with a set-up**: nothing, with security off; else the principal comes before the
    keytab. -/
def problem? (cluster settings : Entries) (found : Except Failure (Option LoginIdentity)) :
    Option Failure :=
  if isOn cluster then (principalProblem? settings found).or (keytabProblem? settings) else none

/-- Whether an identity has to be looked up. -/
def needsIdentity (cluster settings : Entries) : Bool :=
  isOn cluster && !isSet (settings.field principalKey)

/-- The host after the lookup, if there has to be one. -/
def lookedUp (cluster settings : Entries) (provider : IdentityProvider) (h : Host) : Host :=
  if needsIdentity cluster settings then (provider.lookUp.on h).2 else h

/-! ## The choice of the keytab -/

theorem ofSettings_map (settings : Entries) :
    KeytabSource.ofSettings (.map settings) =
      match isSet (settings.field localKeytabKey), isSet (settings.field sharedKeytabKey) with
      | false, false => .error (.setup .noKeytab none)
      | true, true => .error (.setup .twoKeytabs none)
      | true, false => KeytabSource.onHost <$> (settings.field localKeytabKey).written
      | false, true => KeytabSource.shared <$> (settings.field sharedKeytabKey).written := by
  show (match isSet (settings.field localKeytabKey), isSet (settings.field sharedKeytabKey) with
    | false, false => throw (.setup .noKeytab none)
    | true, true => throw (.setup .twoKeytabs none)
    | true, false => do return .onHost (← (settings.field localKeytabKey).written)
    | false, true => do return .shared (← (settings.field sharedKeytabKey).written) :
      Except Failure KeytabSource) = _
  cases isSet (settings.field localKeytabKey) <;> cases isSet (settings.field sharedKeytabKey)
  · rfl
  · cases (settings.field sharedKeytabKey).written <;> rfl
  · cases (settings.field localKeytabKey).written <;> rfl
  · rfl

/-- Exactly one way to a keytab is set. -/
def ChoosesOne (settings : Entries) : Prop :=
  isSet (settings.field localKeytabKey) ≠ isSet (settings.field sharedKeytabKey)

/-- Every keytab setting that is set can be written. -/
def IsWritten (settings : Entries) : Prop :=
  ∀ key ∈ [localKeytabKey, sharedKeytabKey],
    isSet (settings.field key) = true → (settings.field key).isWritable = true

instance (settings : Entries) : Decidable (ChoosesOne settings) := inferInstanceAs (Decidable (_ ≠ _))

instance (settings : Entries) : Decidable (IsWritten settings) :=
  inferInstanceAs (Decidable (∀ key ∈ [localKeytabKey, sharedKeytabKey], _ → _))

theorem written_eq (v : Value) :
    v.written = if v.isWritable then .ok v.text else .error (.invalid .numberTooLong) := rfl

/-- **When a way to a keytab is chosen**, and what is wrong otherwise. -/
theorem keytabProblem?_eq_none (settings : Entries) :
    keytabProblem? settings = none ↔ ChoosesOne settings ∧ IsWritten settings := by
  unfold keytabProblem? ChoosesOne IsWritten
  rw [ofSettings_map, List.forall_mem_cons, List.forall_mem_singleton, written_eq, written_eq]
  rcases hl : isSet (settings.field localKeytabKey) with _ | _ <;>
    rcases hs : isSet (settings.field sharedKeytabKey) with _ | _
  · exact ⟨nofun, fun h => absurd rfl h.1⟩
  · by_cases hw : (settings.field sharedKeytabKey).isWritable = true
    · rw [if_pos hw]
      exact ⟨fun _ => ⟨Bool.false_ne_true, nofun, fun _ => hw⟩, fun _ => rfl⟩
    · rw [if_neg hw]
      exact ⟨nofun, fun h => absurd (h.2.2 rfl) hw⟩
  · by_cases hw : (settings.field localKeytabKey).isWritable = true
    · rw [if_pos hw]
      exact ⟨fun _ => ⟨nofun, fun _ => hw, nofun⟩, fun _ => rfl⟩
    · rw [if_neg hw]
      exact ⟨nofun, fun h => absurd (h.2.1 rfl) hw⟩
  · exact ⟨nofun, fun h => absurd rfl h.1⟩

/-- The way that is chosen when nothing is wrong with the choice. -/
theorem ofSettings_of_choice {settings : Entries} (h : keytabProblem? settings = none) :
    KeytabSource.ofSettings (.map settings) =
      .ok (if isSet (settings.field sharedKeytabKey) then
        .shared (settings.field sharedKeytabKey).text
      else .onHost (settings.field localKeytabKey).text) := by
  obtain ⟨hone, hwritten⟩ := (keytabProblem?_eq_none settings).mp h
  unfold ChoosesOne at hone
  rw [ofSettings_map, written_eq, written_eq]
  rcases hl : isSet (settings.field localKeytabKey) with _ | _ <;>
    rcases hs : isSet (settings.field sharedKeytabKey) with _ | _ <;> rw [hl, hs] at hone
  · exact absurd rfl hone
  · rw [if_pos (hwritten _ (List.mem_cons_of_mem _ (List.mem_cons_self ..)) hs)]
    rfl
  · rw [if_pos (hwritten _ (List.mem_cons_self ..) hl)]
    rfl
  · exact absurd rfl hone

/-- Neither or both: a bad configuration that names both settings. -/
theorem keytabProblem?_of_not_choosesOne {settings : Entries} (h : ¬ ChoosesOne settings) :
    ∃ issue, keytabProblem? settings = some (.setup issue none) ∧ issue.kind = .badConfiguration ∧
      issue.context =
        .ofFields [("config_keys", .list [.str localKeytabKey, .str sharedKeytabKey])] := by
  unfold ChoosesOne at h
  unfold keytabProblem?
  rw [ofSettings_map]
  rcases hl : isSet (settings.field localKeytabKey) with _ | _ <;>
    rcases hs : isSet (settings.field sharedKeytabKey) with _ | _ <;> rw [hl, hs] at h
  · exact ⟨.noKeytab, rfl, rfl, rfl⟩
  · exact absurd Bool.false_ne_true h
  · exact absurd nofun h
  · exact ⟨.twoKeytabs, rfl, rfl, rfl⟩

/-- One, that cannot be written: a wrong value. -/
theorem keytabProblem?_of_not_isWritten {settings : Entries} (h : ChoosesOne settings)
    (hw : ¬ IsWritten settings) :
    keytabProblem? settings = some (.invalid .numberTooLong) := by
  unfold ChoosesOne at h
  unfold IsWritten at hw
  unfold keytabProblem?
  rw [List.forall_mem_cons, List.forall_mem_singleton] at hw
  rw [ofSettings_map, written_eq, written_eq]
  rcases hl : isSet (settings.field localKeytabKey) with _ | _ <;>
    rcases hs : isSet (settings.field sharedKeytabKey) with _ | _ <;> rw [hl, hs] at h hw
  · exact absurd rfl h
  · have : ¬ (settings.field sharedKeytabKey).isWritable = true :=
      fun ht => hw ⟨nofun, fun _ => ht⟩
    rw [if_neg this]
    rfl
  · have : ¬ (settings.field localKeytabKey).isWritable = true :=
      fun ht => hw ⟨fun _ => ht, nofun⟩
    rw [if_neg this]
    rfl
  · exact absurd rfl h

/-! ## Making a set-up -/

theorem checkPrincipal_on (provider : IdentityProvider) (settings : Entries) (h : Host) :
    (checkPrincipal provider (.map settings)).on h =
      (match principalProblem? settings (provider.lookUp.on h).1 with
        | some f => .error f
        | none => .ok ⟨⟩,
       if isSet (settings.field principalKey) then h else (provider.lookUp.on h).2) := by
  unfold checkPrincipal principalProblem?
  rw [fieldOf_map, Act.on_bind, Act.on_ofExcept]
  by_cases hset : isSet (settings.field principalKey) = true
  · rw [if_pos hset, if_pos hset]
    simp only [hset]
    rfl
  · rw [if_neg hset, if_neg hset]
    simp only [Bool.eq_false_iff.mpr hset]
    show (tryCatch provider.lookUp _ >>= _ : Act Unit).on h = _
    rw [Act.on_bind, Act.on_tryCatch]
    rcases provider.lookUp.on h with ⟨f | i, h'⟩
    · by_cases hf : f.isSystem = true
      · simp only [if_pos hf, Act.on_throw]
      · simp only [if_neg hf, Act.on_throw]
    · rcases i with _ | i <;> rfl

/-- Looking at the choice of the keytab fails with what is wrong with it, or is logged. -/
theorem checkKeytab_on (settings : Entries) (remark : KeytabSource → Act Unit)
    (hr : ∀ source g, ((remark source).on g).1 = .ok ⟨⟩ ∧ Host.Logged g ((remark source).on g).2)
    (h : Host) :
    ∃ h', (Act.ofExcept (KeytabSource.ofSettings (.map settings)) >>= remark).on h =
        (match keytabProblem? settings with
          | some f => .error f
          | none => .ok ⟨⟩, h') ∧ Host.Logged h h' := by
  unfold keytabProblem?
  rw [Act.on_bind, Act.on_ofExcept]
  rcases KeytabSource.ofSettings (.map settings) with f | source
  · exact ⟨h, rfl, Host.Logged.refl h⟩
  · exact ⟨_, Prod.ext (hr source h).1 rfl, (hr source h).2⟩

/-- **Looking through a set-up** fails with what is wrong with it; beside the lookup, only the log
    shows it. -/
theorem validate_on (s : Setup) {cluster settings : Entries} (hc : s.cluster = .map cluster)
    (hs : s.settings = .map settings) (h : Host) :
    ∃ h', s.validate.on h =
        (match problem? cluster settings (s.provider.lookUp.on h).1 with
          | some f => .error f
          | none => .ok ⟨⟩, h') ∧
      Host.Logged (lookedUp cluster settings s.provider h) h' := by
  unfold Setup.validate Setup.isEnabled Setup.source problem? lookedUp needsIdentity
  rw [hc, hs, isSecure_map, Act.on_bind, Act.on_ofExcept]
  by_cases hon : isOn cluster = true
  · simp only [hon, if_true, Bool.true_and]
    have hhost : (if (!isSet (settings.field principalKey)) = true then (s.provider.lookUp.on h).2
        else h) = if isSet (settings.field principalKey) then h else (s.provider.lookUp.on h).2 := by
      cases isSet (settings.field principalKey) <;> rfl
    rw [hhost, Act.on_bind, checkPrincipal_on]
    rcases principalProblem? settings (s.provider.lookUp.on h).1 with _ | f
    · exact checkKeytab_on settings _ (fun source g => ⟨rfl, Host.Logged.of_log _ _ _ _ g⟩) _
    · exact ⟨_, rfl, Host.Logged.refl _⟩
  · simp only [Bool.eq_false_iff.mpr hon]
    exact ⟨_, rfl, Host.Logged.of_log _ _ _ _ h⟩

/-- Making a set-up whose parts are there is looking it through. -/
theorem make_eq {cluster name : Value} (hc : cluster ≠ .none) (hn : name ≠ .none)
    (components : InstanceDefinition) (provider : IdentityProvider) (stager : KeytabStager) :
    let s : Setup := ⟨cluster, components, name, provider, stager⟩
    Setup.make cluster (some components) name provider stager = s.validate >>= fun _ => pure s := by
  unfold Setup.make
  refine (if_neg ?_).trans (if_neg ?_)
  · cases cluster with
    | none => exact absurd rfl hc
    | _ => exact Bool.false_ne_true
  · cases name with
    | none => exact absurd rfl hn
    | _ => exact Bool.false_ne_true

/-- **Making a set-up**, outcome by outcome. -/
theorem make_on (cluster : Entries) {settings : Entries} {components : InstanceDefinition}
    {name : Value} (hs : components.component masterComponent = .map settings) (hn : name ≠ .none)
    (provider : IdentityProvider) (stager : KeytabStager) (h : Host) :
    ∃ h', (Setup.make (.map cluster) (some components) name provider stager).on h =
        (match problem? cluster settings (provider.lookUp.on h).1 with
          | some f => .error f
          | none => .ok ⟨.map cluster, components, name, provider, stager⟩, h') ∧
      Host.Logged (lookedUp cluster settings provider h) h' := by
  let s : Setup := ⟨.map cluster, components, name, provider, stager⟩
  have hc : s.cluster = .map cluster := rfl
  obtain ⟨h', hv, hl⟩ := validate_on s hc hs h
  refine ⟨h', ?_, hl⟩
  rw [make_eq (nofun : Value.map cluster ≠ .none) hn, Act.on_bind_pure, hv]
  rcases problem? cluster settings (provider.lookUp.on h).1 with _ | f <;> rfl

/-- What a lookup gives when this is the prepared answer; no answer is nobody. -/
def preparedAnswer : Option (Except Failure (Option String)) → Except Failure (Option LoginIdentity)
  | none => .ok none
  | some a => a.map (·.map (⟨·⟩))

/-- Prepared answers are given one at a time, and each question is recorded. -/
theorem lookUp_prepared_on (h : Host) :
    IdentityProvider.prepared.lookUp.on h =
      (preparedAnswer (Host.takeNext h.answers).1,
       { h.note .lookUp with answers := (Host.takeNext h.answers).2 }) := by
  show (match (Host.takeNext h.answers).1 with
    | none => return none
    | some a => do return (← Act.ofExcept a).map (⟨·⟩) : Act (Option LoginIdentity)).on
      { h.note .lookUp with answers := (Host.takeNext h.answers).2 } = _
  rcases (Host.takeNext h.answers).1 with _ | f | name
  · rfl
  · rfl
  · rfl

/-! ## What is decided -/

/-- A principal is set, or an identity stands in for one. -/
def HasPrincipal (settings : Entries) (found : Except Failure (Option LoginIdentity)) : Prop :=
  isSet (settings.field principalKey) = true ∨ ∃ identity, found = .ok (some identity)

theorem principalProblem?_eq_none (settings : Entries)
    (found : Except Failure (Option LoginIdentity)) :
    principalProblem? settings found = none ↔ HasPrincipal settings found := by
  unfold principalProblem? HasPrincipal
  by_cases hset : isSet (settings.field principalKey) = true
  · rw [if_pos hset]
    exact ⟨fun _ => .inl hset, fun _ => rfl⟩
  · rw [if_neg hset]
    rcases found with f | _ | identity
    · exact ⟨nofun, fun h => h.elim (absurd · hset) nofun⟩
    · exact ⟨nofun, fun h => h.elim (absurd · hset) nofun⟩
    · exact ⟨fun _ => .inr ⟨identity, rfl⟩, fun _ => rfl⟩

/-- **What is decided when a set-up is made**, by the settings of the cluster and of the master and
    by what a lookup of the identity finds. -/
structure Decides (cluster settings : Entries) (found : Except Failure (Option LoginIdentity))
    (result : Except Failure Setup) : Prop where
  /-- The set-ups that can be made are those that can be used. -/
  accepts : (∃ s, result = .ok s) ↔
    isSecure (.map cluster) = .ok false ∨
      (HasPrincipal settings found ∧ ChoosesOne settings ∧ IsWritten settings)
  /-- A lookup that the system refuses is a bad state, whatever the keytab settings are. -/
  lookupFails : isSecure (.map cluster) = .ok true → isSet (settings.field principalKey) = false →
    ∀ cause, found = .error cause → cause.isSystem = true →
      ∃ issue, result = .error (.setup issue (some cause)) ∧ issue.kind = .badState
  /-- A lookup that finds nobody is a bad configuration, whatever the keytab settings are. -/
  findsNobody : isSecure (.map cluster) = .ok true → isSet (settings.field principalKey) = false →
    found = .ok none →
      ∃ issue, result = .error (.setup issue none) ∧ issue.kind = .badConfiguration ∧
        issue.context = .ofFields [("config_key", .str principalKey)]
  /-- With a principal, no keytab and two keytabs are bad configurations. -/
  choosesNotOne : isSecure (.map cluster) = .ok true → HasPrincipal settings found →
    ¬ ChoosesOne settings →
      ∃ issue, result = .error (.setup issue none) ∧ issue.kind = .badConfiguration ∧
        issue.context =
          .ofFields [("config_keys", .list [.str localKeytabKey, .str sharedKeytabKey])]
  /-- With a principal, one keytab that cannot be written is a wrong value. -/
  notWritten : isSecure (.map cluster) = .ok true → HasPrincipal settings found →
    ChoosesOne settings → ¬ IsWritten settings → result = .error (.invalid .numberTooLong)

theorem problem?_eq_none (cluster settings : Entries)
    (found : Except Failure (Option LoginIdentity)) :
    problem? cluster settings found = none ↔
      isSecure (.map cluster) = .ok false ∨
        (HasPrincipal settings found ∧ ChoosesOne settings ∧ IsWritten settings) := by
  unfold problem?
  rw [isSecure_map]
  by_cases hon : isOn cluster = true
  · rw [if_pos hon, hon, Option.or_eq_none_iff, principalProblem?_eq_none, keytabProblem?_eq_none]
    exact ⟨.inr, fun h => h.resolve_left nofun⟩
  · rw [if_neg hon, Bool.eq_false_iff.mpr hon]
    exact ⟨fun _ => .inl rfl, fun _ => rfl⟩

theorem problem?_of_isSecure {cluster : Entries} (hon : isSecure (.map cluster) = .ok true)
    (settings : Entries) (found : Except Failure (Option LoginIdentity)) :
    problem? cluster settings found =
      (principalProblem? settings found).or (keytabProblem? settings) := by
  rw [isSecure_map] at hon
  unfold problem?
  rw [Except.ok.inj hon, if_pos rfl]

/-- The choice of the keytab is part of what a secure set-up is validated for. -/
theorem keytabProblem?_of_on {cluster settings : Entries}
    {found : Except Failure (Option LoginIdentity)} (hon : isOn cluster = true)
    (h : problem? cluster settings found = none) : keytabProblem? settings = none := by
  unfold problem? at h
  rw [if_pos hon] at h
  exact (Option.or_eq_none_iff.mp h).2

/-- A result that is decided by `problem?` is decided as it should be. -/
theorem decides_of_problem? {cluster settings : Entries}
    {found : Except Failure (Option LoginIdentity)} {result : Except Failure Setup} {s : Setup}
    (hr : result = match problem? cluster settings found with
      | some f => .error f
      | none => .ok s) : Decides cluster settings found result := by
  have herr : ∀ {f}, problem? cluster settings found = some f → result = .error f := by
    intro f hf
    rw [hr, hf]
  -- Field by field: which problem comes first is what the field assumes, and what it says follows.
  exact {
    accepts := by
      rw [← problem?_eq_none, hr]
      rcases problem? cluster settings found with _ | f
      · exact ⟨fun _ => rfl, fun _ => ⟨s, rfl⟩⟩
      · exact ⟨nofun, nofun⟩
    lookupFails := by
      intro hon hunset cause hfound hsys
      have hp : principalProblem? settings found = some (.setup .lookupFailed (some cause)) := by
        unfold principalProblem?
        rw [hunset, hfound]
        show some (if cause.isSystem then _ else _) = _
        rw [if_pos hsys]
      refine ⟨.lookupFailed, herr ?_, rfl⟩
      rw [problem?_of_isSecure hon, hp]
      rfl
    findsNobody := by
      intro hon hunset hfound
      have hp : principalProblem? settings found = some (.setup .noPrincipal none) := by
        unfold principalProblem?
        rw [hunset, hfound]
        rfl
      refine ⟨.noPrincipal, herr ?_, rfl, rfl⟩
      rw [problem?_of_isSecure hon, hp]
      rfl
    choosesNotOne := by
      intro hon hprincipal hone
      obtain ⟨issue, hk, hkind, hcontext⟩ := keytabProblem?_of_not_choosesOne hone
      refine ⟨issue, herr ?_, hkind, hcontext⟩
      rw [problem?_of_isSecure hon, (principalProblem?_eq_none settings found).mpr hprincipal, hk]
      rfl
    notWritten := by
      intro hon hprincipal hone hwritten
      refine herr ?_
      rw [problem?_of_isSecure hon, (principalProblem?_eq_none settings found).mpr hprincipal,
        keytabProblem?_of_not_isWritten hone hwritten]
      rfl }

/-- What making a set-up comes to, for the identity that is found. -/
theorem Setup.make_decided (cluster : Entries) {settings : Entries}
    {components : InstanceDefinition} {name : Value}
    (hs : components.component masterComponent = .map settings) (hn : name ≠ .none)
    (provider : IdentityProvider) (stager : KeytabStager) (h : Host) :
    Decides cluster settings (provider.lookUp.on h).1
      ((Setup.make (.map cluster) (some components) name provider stager).on h).1 := by
  obtain ⟨_, hm, _⟩ := make_on cluster hs hn provider stager h
  exact decides_of_problem? (congrArg Prod.fst hm)

/-- **The set-ups that can be made are exactly those that can be used**, and each failure says what
    is wrong.  The identity is looked up once when security is on and no principal is set, and never
    otherwise. -/
theorem Setup.make_decides (cluster : Entries) {settings : Entries}
    {components : InstanceDefinition} {name : Value}
    (hs : components.component masterComponent = .map settings) (hn : name ≠ .none)
    (provider : IdentityProvider) (stager : KeytabStager) (h : Host) :
    let looked := provider.lookUp.on h
    let made := (Setup.make (.map cluster) (some components) name provider stager).on h
    Decides cluster settings looked.1 made.1 ∧
      made.2.events =
        (if isOn cluster && !isSet (settings.field principalKey) then looked.2.events
          else h.events) ∧
      (provider = .prepared → looked.2.events = h.events ++ [.lookUp]) := by
  intro looked made
  obtain ⟨h', hm, hl⟩ := make_on cluster hs hn provider stager h
  have hmade : made = _ := hm
  refine ⟨Setup.make_decided cluster hs hn provider stager h, ?_, ?_⟩
  · show made.2.trace.reverse = _
    rw [hmade, hl.trace]
    unfold lookedUp needsIdentity
    split <;> rfl
  · rintro rfl
    show (IdentityProvider.prepared.lookUp.on h).2.trace.reverse = _
    rw [lookUp_prepared_on]
    exact List.reverse_cons

/-- With a principal and a keytab on the host, a set-up can be made though there is nobody to be
    found. -/
theorem make_decides_host_keytab :
    let settings : Entries := [(.str principalKey, .str "am/host"), (.str localKeytabKey, .str "/k")]
    let made := (Setup.make (.map [(.str authenticationKey, .str " Kerberos ")])
      (some [(.str masterComponent, .map settings)]) (.str "c") .prepared ⟨.ofString "/tmp"⟩).on {}
    (∃ s, made.1 = .ok s) ∧ made.2.events = [] := by
  intro settings made
  have hs := component_singleton masterComponent settings
  have hp : isSet (Entries.field settings principalKey) = true := by
    rw [Entries.field_cons_str, if_pos rfl]
    decide
  have hl : Entries.field settings localKeytabKey = .str "/k" := by
    rw [Entries.field_cons_str, if_neg (by decide), Entries.field_cons_str, if_pos rfl]
  have hr : Entries.field settings sharedKeytabKey = .none := by
    rw [Entries.field_cons_str, if_neg (by decide), Entries.field_cons_str, if_neg (by decide)]
    rfl
  have hn : Value.str "c" ≠ .none := nofun
  obtain ⟨hdecides, hevents, _⟩ := Setup.make_decides [(.str authenticationKey, .str " Kerberos ")]
    hs hn .prepared ⟨.ofString "/tmp"⟩ {}
  refine ⟨hdecides.accepts.mpr (.inr ⟨.inl hp, ?_, ?_⟩), ?_⟩
  · unfold ChoosesOne
    rw [hl, hr]
    decide
  · intro key hkey hset
    rcases List.mem_cons.mp hkey with rfl | hkey
    · rw [hl]
      rfl
    · rw [List.mem_singleton.mp hkey, hr]
      rfl
  · rw [hevents, hp, Bool.not_true, Bool.and_false]
    rfl

/-- **A keytab setting can be set and of no use**: a whole number with too many digits counts as set
    but has no text, so a set-up with a principal and exactly one keytab setting cannot be made. -/
theorem make_fails_number_too_long :
    let settings : Entries :=
      [(.str principalKey, .str "am"), (.str localKeytabKey, .int Value.numberBound)]
    HasPrincipal settings (.ok none) ∧ ChoosesOne settings ∧
      ((Setup.make (.map [(.str authenticationKey, .str "kerberos")])
        (some [(.str masterComponent, .map settings)]) (.str "c") .prepared ⟨.ofString "/tmp"⟩).on
          {}).1 = .error (.invalid .numberTooLong) := by
  intro settings
  have hs := component_singleton masterComponent settings
  have hp : HasPrincipal settings (.ok none) := by
    refine .inl ?_
    rw [Entries.field_cons_str, if_pos rfl]
    decide
  have hl : Entries.field settings localKeytabKey = .int Value.numberBound := by
    rw [Entries.field_cons_str, if_neg (by decide), Entries.field_cons_str, if_pos rfl]
  have hr : Entries.field settings sharedKeytabKey = .none := by
    rw [Entries.field_cons_str, if_neg (by decide), Entries.field_cons_str, if_neg (by decide)]
    rfl
  have hone : ChoosesOne settings := by
    unfold ChoosesOne
    rw [hl, hr]
    exact nofun
  -- The keytab named by the number has no text.
  have hwritten : ¬ IsWritten settings := by
    intro hw
    have hw := hw localKeytabKey (List.mem_cons_self ..) (by rw [hl]; rfl)
    rw [hl] at hw
    rw [Value.isWritable_of_le (Nat.le_refl _)] at hw
    exact Bool.false_ne_true hw
  have hon : isSecure (.map [(.str authenticationKey, .str "kerberos")]) = .ok true := by
    rw [isSecure_map]
    unfold isOn
    rw [Entries.field_cons_str, if_pos rfl]
    show Except.ok ((Text.trim "kerberos".toList).map Text.lower == kerberos.toList) = .ok true
    rw [show ((Text.trim "kerberos".toList).map Text.lower == kerberos.toList) = true by
      decide +kernel]
  have hn : Value.str "c" ≠ .none := nofun
  obtain ⟨_, hm, _⟩ := make_on [(.str authenticationKey, .str "kerberos")] hs hn .prepared
    ⟨.ofString "/tmp"⟩ {}
  refine ⟨hp, hone, ?_⟩
  exact (decides_of_problem? (congrArg Prod.fst hm)).notWritten hon (.inl (hp.resolve_right nofun))
    hone hwritten

end SecureStartup.Security
