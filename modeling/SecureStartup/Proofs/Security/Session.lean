import SecureStartup.Proofs.Security.Construction
import SecureStartup.Security.Session

/-!
  No answer of a set-up is stale.

  1. **Program** — a `SecurityConfiguration` is looked through once, when it is made.  It keeps the
     mappings that it was given, not copies of them, and these can change afterwards in any way:
     `is_security_enabled`, `get_principal`, `keytab_local_path`, `keytab_remote_name`, `keytab_source` and
     `get_keytab_file` read them when they are asked.

  2. **Specification** — along a session (`Setup.session_current`) every answer is the one that the
     mappings call for as they are at that moment:

     * only four settings matter, and two sets of mappings that agree on them get the same answers
       (`answer_congr`);
     * looking through the set-up again is making a new one from the mappings of the moment
       (`validate_eq_make`);
     * a principal that is set is the answer by its text, and without one the identity is looked up now
       (`answer_configured`, `answer_lookedUp`);
     * the chosen way to a keytab and the two settings it is chosen from tell the same story
       (`Setup.Agrees`), whether or not a set-up could be made from them;
     * a keytab is fetched when exactly a shared one is named and there is a store, for the name of the
       cluster that the set-up was made with, and otherwise asking for it leaves only log lines
       (`keytabFile_fetches`).

  A setting that is set can still have no text, when it holds a number of too many digits; that is the
  fourth way to read the two settings, beside one path, one name, and none or both.
-/

namespace SecureStartup.Security

open SecureStartup.Config

/-! ## Single settings that change -/

namespace Mappings

theorem exists_insert (es : Entries) (k v : Value) : ∃ e rest, Entries.insert es k v = e :: rest := by
  rcases es with _ | ⟨⟨k', v'⟩, es⟩
  · exact ⟨_, _, rfl⟩
  · unfold Entries.insert
    split
    · exact ⟨_, _, rfl⟩
    · exact ⟨_, _, rfl⟩

/-- A mapping that was given to a component is what it has. -/
theorem component_insert (components : InstanceDefinition) (name : String) (e : Value × Value)
    (es : Entries) :
    InstanceDefinition.component (Entries.insert components (.str name) (.map (e :: es))) name =
      .map (e :: es) := by
  have hsame : (Value.str name).same (.str name) = true := by
    rw [Value.same_str]
    exact beq_self_eq_true name
  unfold InstanceDefinition.component Entries.field
  rw [Entries.get?_insert_self _ _ _ hsame]
  rfl

/-- Change a setting of the master. -/
def setMaster (key : String) (value : Value) (m : Mappings) : Mappings where
  cluster := m.cluster
  components := Entries.insert m.components (.str masterComponent)
    (.map (Entries.insert m.master (.str key) value))
  master := Entries.insert m.master (.str key) value
  isMaster := by
    obtain ⟨e, rest, h⟩ := exists_insert m.master (.str key) value
    rw [h]
    exact component_insert m.components masterComponent e rest

end Mappings

/-! ## Only four settings matter -/

/-- Questions about what the settings mean, not about the mappings themselves. -/
def Query.isDecision : Query → Bool
  | .cluster | .components | .component _ | .settings => false
  | _ => true

/-- Mappings with the same settings of authentication, principal and keytabs. -/
structure SameSettings (m m' : Mappings) : Prop where
  authentication : m.cluster.field authenticationKey = m'.cluster.field authenticationKey
  principal : m.master.field principalKey = m'.master.field principalKey
  onHost : m.master.field localKeytabKey = m'.master.field localKeytabKey
  shared : m.master.field sharedKeytabKey = m'.master.field sharedKeytabKey

section Over

variable (s : Setup) (m : Mappings)

theorem settings_over : (s.over m).settings = .map m.master := m.isMaster

theorem isEnabled_over : (s.over m).isEnabled = .ok (isOn m.cluster) := isSecure_map m.cluster

/-- The text of a setting, as the property of the same name gives it. -/
theorem setting?_over (key : String) :
    (s.over m).setting? key =
      if isSet (m.master.field key) then some <$> (m.master.field key).written else .ok none := by
  unfold Setup.setting?
  rw [settings_over, fieldOf_map]
  show (if isSet (m.master.field key) then (do return some (← (m.master.field key).written))
    else pure none : Except Failure (Option String)) = _
  by_cases hset : isSet (m.master.field key) = true
  · rw [if_pos hset, if_pos hset]
    rfl
  · rw [if_neg hset, if_neg hset]
    rfl

theorem source_over : (s.over m).source = KeytabSource.ofSettings (.map m.master) := by
  unfold Setup.source
  rw [settings_over]

end Over

/-- **Nothing else matters**: two sets of mappings with the same four settings get the same answers. -/
theorem answer_congr (s : Setup) {m m' : Mappings} (a : SameSettings m m') {q : Query}
    (hq : q.isDecision = true) : (s.over m).answer q = (s.over m').answer q := by
  have henabled : (s.over m).isEnabled = (s.over m').isEnabled := by
    rw [isEnabled_over, isEnabled_over]
    unfold isOn
    rw [a.authentication]
  have hsource : (s.over m).source = (s.over m').source := by
    rw [source_over, source_over, ofSettings_map, ofSettings_map, a.onHost, a.shared]
  have hprincipal : fieldOf (s.over m).settings principalKey =
      fieldOf (s.over m').settings principalKey := by
    rw [settings_over, settings_over, fieldOf_map, fieldOf_map, a.principal]
  have hname : (s.over m).clusterName = (s.over m').clusterName := rfl
  -- A decision is made of these four, and of nothing else.
  cases q with
  | enabled =>
    show (do return Answer.flag (← Act.ofExcept (s.over m).isEnabled) : Act Answer) = _
    rw [henabled]
    rfl
  | principal =>
    show (do return Answer.text (← principalOf s.provider (s.over m).settings) : Act Answer) = _
    unfold principalOf
    rw [hprincipal]
    rfl
  | source =>
    show (do return Answer.source (← Act.ofExcept (s.over m).source) : Act Answer) = _
    rw [hsource]
    rfl
  | localPath =>
    show (do return Answer.setting (← Act.ofExcept ((s.over m).setting? _)) : Act Answer) = _
    rw [setting?_over, a.onHost, ← setting?_over]
    rfl
  | sharedName =>
    show (do return Answer.setting (← Act.ofExcept ((s.over m).setting? _)) : Act Answer) = _
    rw [setting?_over, a.shared, ← setting?_over]
    rfl
  | validate =>
    show (do (s.over m).validate; return Answer.done : Act Answer) = _
    unfold Setup.validate checkPrincipal
    rw [henabled, hsource, hprincipal]
    rfl
  | keytabFile store principal =>
    show (do return Answer.text (← (s.over m).keytabFile store principal) : Act Answer) = _
    unfold Setup.keytabFile
    rw [hsource]
    rfl
  | clusterName => rfl
  | shown =>
    show (do return Answer.text (← Act.ofExcept (s.over m).shown) : Act Answer) = _
    unfold Setup.shown
    rw [henabled]
    rfl
  | cluster => exact nomatch hq
  | components => exact nomatch hq
  | component name => exact nomatch hq
  | settings => exact nomatch hq

/-! ## Looking through again -/

/-- **Looking through a set-up again** is making a new one from its mappings: the same outcome, on the
    same host afterwards. -/
theorem validate_eq_make {s : Setup} (hn : s.clusterName ≠ .none) (m : Mappings) (h : Host) :
    let made := (Setup.make (.map m.cluster) (some m.components) s.clusterName s.provider
      s.stager).on h
    (s.over m).validate.on h = (made.1.map fun _ => (), made.2) := by
  intro made
  have hmade : made = ((s.over m).validate >>= fun _ => pure (s.over m)).on h :=
    congrArg (·.on h) (make_eq (nofun : Value.map m.cluster ≠ .none) hn m.components s.provider s.stager)
  rw [hmade, Act.on_bind_pure]
  rcases (s.over m).validate.on h with ⟨_ | _, _⟩ <;> rfl

/-! ## The way to the keytab and its settings -/

/-- **The way to a keytab agrees with the settings it is chosen from**: a path alone, a name alone, a
    bad configuration with neither or with both, or one that is set and has no text. -/
def Setup.Agrees (s : Setup) : Prop :=
  let path := s.setting? localKeytabKey
  let name := s.setting? sharedKeytabKey
  match s.source with
  | .ok (.onHost p) => path = .ok (some p) ∧ name = .ok none
  | .ok (.shared n) => name = .ok (some n) ∧ path = .ok none
  | .error (.setup issue _) =>
    issue.kind = .badConfiguration ∧
      ((path = .ok none ∧ name = .ok none) ∨ (path ≠ .ok none ∧ name ≠ .ok none))
  | .error f =>
    f = .invalid .numberTooLong ∧
      ((path = .error f ∧ name = .ok none) ∨ (name = .error f ∧ path = .ok none))

/-- A setting that is set is not read as nothing. -/
theorem setting?_ne_none (s : Setup) (m : Mappings) {key : String}
    (h : isSet (m.master.field key) = true) : (s.over m).setting? key ≠ .ok none := by
  rw [setting?_over, if_pos h, written_eq]
  split <;> exact nofun

theorem setting?_unset (s : Setup) (m : Mappings) {key : String}
    (h : isSet (m.master.field key) = false) : (s.over m).setting? key = .ok none := by
  rw [setting?_over, if_neg (Bool.eq_false_iff.mp h)]

/-- **They agree over all mappings.**  By what is set, and whether it has a text. -/
theorem Setup.agrees_over (s : Setup) (m : Mappings) : (s.over m).Agrees := by
  unfold Setup.Agrees
  simp only
  rw [source_over, ofSettings_map]
  rcases hl : isSet (m.master.field localKeytabKey) with _ | _ <;>
    rcases hs : isSet (m.master.field sharedKeytabKey) with _ | _
  · exact ⟨rfl, .inl ⟨setting?_unset s m hl, setting?_unset s m hs⟩⟩
  · have hpath := setting?_unset s m hl
    have hname := setting?_over s m sharedKeytabKey
    rw [if_pos hs, written_eq] at hname
    rw [written_eq (m.master.field sharedKeytabKey)]
    by_cases hw : (m.master.field sharedKeytabKey).isWritable = true
    · rw [if_pos hw] at hname ⊢
      exact ⟨hname, hpath⟩
    · rw [if_neg hw] at hname ⊢
      exact ⟨rfl, .inr ⟨hname, hpath⟩⟩
  · have hname := setting?_unset s m hs
    have hpath := setting?_over s m localKeytabKey
    rw [if_pos hl, written_eq] at hpath
    rw [written_eq (m.master.field localKeytabKey)]
    by_cases hw : (m.master.field localKeytabKey).isWritable = true
    · rw [if_pos hw] at hpath ⊢
      exact ⟨hpath, hname⟩
    · rw [if_neg hw] at hpath ⊢
      exact ⟨rfl, .inl ⟨hpath, hname⟩⟩
  · exact ⟨rfl, .inr ⟨setting?_ne_none s m hl, setting?_ne_none s m hs⟩⟩

/-! ## Fetching -/

/-- The name of a shared keytab that is set alone. -/
def Setup.SharedAlone (s : Setup) (n : String) : Prop :=
  s.setting? sharedKeytabKey = .ok (some n) ∧ s.setting? localKeytabKey = .ok none

/-- The source is a shared keytab when exactly its name is set. -/
theorem source_shared_iff (s : Setup) (m : Mappings) (n : String) :
    (s.over m).source = .ok (.shared n) ↔ (s.over m).SharedAlone n := by
  have hagrees := s.agrees_over m
  unfold Setup.Agrees at hagrees
  unfold Setup.SharedAlone
  constructor
  · intro h
    rw [h] at hagrees
    exact hagrees
  · rintro ⟨hname, hpath⟩
    rw [hname, hpath] at hagrees
    split at hagrees
    · exact nomatch hagrees.1
    · rename_i n' hsource
      rw [hsource, Option.some.inj (Except.ok.inj hagrees.1)]
    · rcases hagrees.2 with ⟨_, hn⟩ | ⟨hp, _⟩
      · exact nomatch hn
      · exact absurd rfl hp
    · rcases hagrees.2 with ⟨hp, _⟩ | ⟨hn, _⟩
      · exact nomatch hp
      · exact nomatch hn

/-- **When a keytab is fetched.**  With a store, and exactly a shared keytab named, asking for the file
    is fetching that name for the name of the cluster, after a log line; in every other case asking
    leaves nothing but log lines. -/
structure Fetches (s : Setup) (store : Option SharedStore) (h : Host)
    (r : Except Failure String × Host) : Prop where
  fetched : ∀ st n, store = some st → s.SharedAlone n →
    ∃ h₁, Host.Logged h h₁ ∧ r = (s.stager.fetch st (.str n) s.clusterName).on h₁
  otherwise : (∀ st n, store = some st → ¬ s.SharedAlone n) → Host.Logged h r.2

theorem keytabFile_fetches (s : Setup) (m : Mappings) (store : Option SharedStore)
    (principal : String) (h : Host) :
    Fetches (s.over m) store h (((s.over m).keytabFile store principal).on h) := by
  have hshared := source_shared_iff s m
  unfold Setup.keytabFile
  rw [Act.on_bind, Act.on_ofExcept]
  rcases hsource : (s.over m).source with f | path | n
  · refine ⟨fun st n _ hn => ?_, fun _ => Host.Logged.refl h⟩
    exact nomatch hsource.symm.trans ((hshared n).mpr hn)
  · refine ⟨fun st n _ hn => ?_, fun _ => Host.Logged.of_log _ _ _ _ h⟩
    exact nomatch hsource.symm.trans ((hshared n).mpr hn)
  · have halone : (s.over m).SharedAlone n := (hshared n).mp hsource
    rcases store with _ | st
    · exact ⟨nofun, fun _ => Host.Logged.refl h⟩
    · refine ⟨fun st' n' hst hn => ?_, fun hno => absurd halone (hno st n rfl)⟩
      cases hst
      cases hsource.symm.trans ((hshared n').mpr hn)
      exact Act.on_log_bind _ _ _ _ _ h

/-! ## Sessions -/

/-- **What is asked in a session**, and over which mappings: those that the changes so far have made.
    No question has a part in it. -/
def asked : Mappings → List Step → List (Mappings × Query)
  | _, [] => []
  | m, .query q :: steps => (m, q) :: asked m steps
  | m, .change f :: steps => asked (f m) steps
  | m, .world _ :: steps => asked m steps

/-- The answer to a question that only reads the mappings. -/
def Setup.reading? (s : Setup) : Query → Option (Except Failure Answer)
  | .enabled => some (.flag <$> s.isEnabled)
  | .source => some (.source <$> s.source)
  | .localPath => some (.setting <$> s.setting? localKeytabKey)
  | .sharedName => some (.setting <$> s.setting? sharedKeytabKey)
  | .clusterName => some (.ok (.value s.clusterName))
  | .shown => some (.text <$> s.shown)
  | .cluster => some (.ok (.value s.cluster))
  | .components => some (.ok (.value (.map s.components)))
  | .component name => some (.ok (.value (s.components.component name)))
  | .settings => some (.ok (.value s.settings))
  | .principal | .validate | .keytabFile _ _ => none

/-- What stands in for a principal that is not set: the short name of the identity, if there is one. -/
def standIn : Except Failure (Option LoginIdentity) → Except Failure Answer
  | .ok (some identity) => .ok (.text identity.shortName)
  | .ok none => .error (.setup .identityGone none)
  | .error f => .error f

/-- **A question was answered as its moment calls for.** -/
structure Setup.Current (s : Setup) (x : Moment) : Prop where
  /-- What only reads the mappings reads them as they are, and leaves the host alone. -/
  reads : ∀ r, (s.over x.mappings).reading? x.query = some r → x.outcome = r ∧ x.after = x.before
  /-- Any mappings with the same four settings would have got the same answer on the same host. -/
  determined : x.query.isDecision = true → ∀ m, SameSettings m x.mappings →
    ((s.over m).answer x.query).on x.before = (x.outcome, x.after)
  /-- Looking through the set-up is making a new one. -/
  validates : x.query = .validate →
    let made := (Setup.make (.map x.mappings.cluster) (some x.mappings.components) s.clusterName
      s.provider s.stager).on x.before
    x.outcome = (made.1.map fun _ => .done) ∧ x.after = made.2
  /-- A principal that is set is the answer, by its text, and no identity is looked up. -/
  configured : x.query = .principal → isSet (x.mappings.master.field principalKey) = true →
    x.outcome = .text <$> (x.mappings.master.field principalKey).written ∧ x.after = x.before
  /-- Without one it is the short name of the identity that is looked up now. -/
  lookedUp : x.query = .principal → isSet (x.mappings.master.field principalKey) = false →
    x.outcome = standIn (s.provider.lookUp.on x.before).1
  /-- A keytab is fetched when exactly a shared one is named and there is a store. -/
  fetches : ∀ store principal, x.query = .keytabFile store principal →
    ∃ r, x.outcome = .text <$> r ∧ Fetches (s.over x.mappings) store x.before (r, x.after)

theorem reading?_on {s : Setup} {q : Query} {r : Except Failure Answer} (h : s.reading? q = some r)
    (g : Host) : (s.answer q).on g = (r, g) := by
  have hmap : ∀ {α : Type} (f : α → Answer) (e : Except Failure α),
      (Act.ofExcept e >>= fun a => pure (f a)).on g = (f <$> e, g) := by
    intro α f e
    rw [Act.on_bind_pure, Act.on_ofExcept]
    rfl
  cases q with
  | enabled =>
    cases h
    exact hmap Answer.flag _
  | source =>
    cases h
    exact hmap Answer.source _
  | localPath =>
    cases h
    exact hmap Answer.setting _
  | sharedName =>
    cases h
    exact hmap Answer.setting _
  | shown =>
    cases h
    exact hmap Answer.text _
  | clusterName | cluster | components | component | settings =>
    cases h
    rfl
  | principal | validate | keytabFile => exact nomatch h

/-- The answer to the question for the principal, when one is set. -/
theorem answer_configured (s : Setup) (m : Mappings) (h : Host)
    (hset : isSet (m.master.field principalKey) = true) :
    ((s.over m).answer .principal).on h =
      (.text <$> (m.master.field principalKey).written, h) := by
  show ((s.over m).principal >>= fun p => pure (Answer.text p)).on h = _
  have hprincipal : (s.over m).principal.on h = ((m.master.field principalKey).written, h) := by
    unfold Setup.principal principalOf
    rw [settings_over, fieldOf_map, Act.on_bind_ok (Act.on_ofExcept _ h), if_pos hset]
    rcases (m.master.field principalKey).written with _ | _ <;> rfl
  rw [Act.on_bind_pure, hprincipal]
  rfl

/-- The answer to the question for the principal, when none is set. -/
theorem answer_lookedUp (s : Setup) (m : Mappings) (h : Host)
    (hset : isSet (m.master.field principalKey) = false) :
    (((s.over m).answer .principal).on h).1 = standIn (s.provider.lookUp.on h).1 := by
  show (((s.over m).principal >>= fun p => pure (Answer.text p)).on h).1 = _
  unfold Setup.principal principalOf
  rw [Act.on_bind_pure, settings_over, fieldOf_map, Act.on_bind_ok (Act.on_ofExcept _ h),
    if_neg (Bool.eq_false_iff.mp hset)]
  show ((s.provider.lookUp >>= _ : Act String).on h).1.map _ = _
  rw [Act.on_bind]
  rcases s.provider.lookUp.on h with ⟨f | identity, h₁⟩
  · rfl
  · rcases identity with _ | identity <;> rfl

/-- **One question.** -/
theorem Setup.current_answer {s : Setup} (hn : s.clusterName ≠ .none) (m : Mappings) (q : Query)
    (h : Host) :
    s.Current ⟨m, q, h, (((s.over m).answer q).on h).1, (((s.over m).answer q).on h).2⟩ where
  reads r hr := by
    have hon := reading?_on hr h
    exact ⟨congrArg Prod.fst hon, congrArg Prod.snd hon⟩
  determined hq m' a := by rw [answer_congr s a hq]
  validates hq := by
    cases hq
    intro made
    have hv : (s.over m).validate.on h = (made.1.map fun _ => (), made.2) := validate_eq_make hn m h
    have hon : ((s.over m).answer .validate).on h = (made.1.map fun _ => .done, made.2) := by
      show ((s.over m).validate >>= fun _ => pure Answer.done).on h = _
      rw [Act.on_bind_pure, hv]
      rcases made.1 with _ | _ <;> rfl
    exact ⟨congrArg Prod.fst hon, congrArg Prod.snd hon⟩
  configured hq hset := by
    cases hq
    have hon := answer_configured s m h hset
    exact ⟨congrArg Prod.fst hon, congrArg Prod.snd hon⟩
  lookedUp hq hset := by
    cases hq
    exact answer_lookedUp s m h hset
  fetches store principal hq := by
    cases hq
    have hon : ((s.over m).answer (.keytabFile store principal)).on h = _ :=
      Act.on_bind_pure Answer.text ((s.over m).keytabFile store principal) h
    have hafter : (((s.over m).answer (.keytabFile store principal)).on h).2 =
        (((s.over m).keytabFile store principal).on h).2 := congrArg Prod.snd hon
    refine ⟨_, congrArg Prod.fst hon, ?_⟩
    show Fetches _ store h (_, (((s.over m).answer (.keytabFile store principal)).on h).2)
    rw [hafter]
    exact keytabFile_fetches s m store principal h

/-- What is recorded is what was asked. -/
theorem Setup.session_asked (s : Setup) (m : Mappings) (steps : List Step) (h : Host) :
    (s.session m steps h).map (fun x => (x.mappings, x.query)) = asked m steps := by
  induction steps generalizing m h with
  | nil => rfl
  | cons step steps ih =>
    cases step with
    | query q => exact congrArg ((m, q) :: ·) (ih m _)
    | change f => exact ih (f m) h
    | world f => exact ih m (f h)

/-- **A whole session.** -/
theorem Setup.current_session {s : Setup} (hn : s.clusterName ≠ .none) (m : Mappings)
    (steps : List Step) (h : Host) : ∀ x ∈ s.session m steps h, s.Current x := by
  induction steps generalizing m h with
  | nil => exact fun x hx => absurd hx List.not_mem_nil
  | cons step steps ih =>
    cases step with
    | query q =>
      intro x hx
      rcases List.mem_cons.mp hx with rfl | hx
      · exact s.current_answer hn m q h
      · exact ih m _ x hx
    | change f => exact ih (f m) h
    | world f => exact ih m (f h)

/-- A set-up that was made is built on the mappings that it was made from. -/
theorem eq_of_make {m : Mappings} {name : Value} {provider : IdentityProvider}
    {stager : KeytabStager} {h h' : Host} {s : Setup}
    (hmade : (Setup.make (.map m.cluster) (some m.components) name provider stager).on h =
      (.ok s, h')) :
    name ≠ .none ∧ s = ⟨.map m.cluster, m.components, name, provider, stager⟩ := by
  have hn : name ≠ .none := by
    rintro rfl
    exact nomatch hmade
  refine ⟨hn, ?_⟩
  rw [make_eq (nofun : Value.map m.cluster ≠ .none) hn] at hmade
  obtain ⟨_, _, _, hlast⟩ := Act.on_bind_eq_ok hmade
  exact (Except.ok.inj (congrArg Prod.fst hlast)).symm

/-- **No answer is stale.**  For every set-up that was made, and every order of changes of its mappings,
    of other happenings on the host and of questions: the questions are asked over the mappings as the
    changes have made them and none of them has a part in that; each is answered as the mappings of
    the moment call for, with the name, the provider and the stager of the beginning; and at all times
    the way to the keytab agrees with the settings it is chosen from. -/
theorem Setup.session_current {m₀ : Mappings} {name : Value} {provider : IdentityProvider}
    {stager : KeytabStager} {h₀ h₁ : Host} {s : Setup}
    (hmade : (Setup.make (.map m₀.cluster) (some m₀.components) name provider stager).on h₀ =
      (.ok s, h₁)) (steps : List Step) :
    (s.over m₀ = s ∧ s.clusterName = name ∧ s.provider = provider ∧ s.stager = stager) ∧
      (s.session m₀ steps h₁).map (fun x => (x.mappings, x.query)) = asked m₀ steps ∧
      (∀ x ∈ s.session m₀ steps h₁, s.Current x) ∧
      ∀ m, (s.over m).Agrees := by
  obtain ⟨hn, rfl⟩ := eq_of_make hmade
  exact ⟨⟨rfl, rfl, rfl, rfl⟩, Setup.session_asked _ m₀ steps h₁, Setup.current_session hn m₀ steps h₁,
    Setup.agrees_over _⟩

/-- Mappings of which the master's settings are all there is of the components. -/
def Mappings.ofMaster (cluster master : Entries) : Mappings where
  cluster := cluster
  components := [(.str masterComponent, .map master)]
  master := master
  isMaster := component_singleton masterComponent master

/-- Mappings of a secure cluster with a principal and a keytab on the host. -/
def hostKeytab : Mappings :=
  .ofMaster [(.str authenticationKey, .str "kerberos")]
    [(.str principalKey, .str "am"), (.str localKeytabKey, .str "/k")]

theorem hostKeytab_fields :
    hostKeytab.master.field principalKey = .str "am" ∧
      hostKeytab.master.field localKeytabKey = .str "/k" ∧
      hostKeytab.master.field sharedKeytabKey = .none := by
  have hmaster : hostKeytab.master =
      [(.str principalKey, .str "am"), (.str localKeytabKey, .str "/k")] := rfl
  rw [hmaster]
  refine ⟨?_, ?_, ?_⟩
  · rw [Entries.field_cons_str, if_pos rfl]
  · rw [Entries.field_cons_str, if_neg (by decide), Entries.field_cons_str, if_pos rfl]
  · rw [Entries.field_cons_str, if_neg (by decide), Entries.field_cons_str, if_neg (by decide)]
    rfl

/-- A set-up can be made from them. -/
theorem hostKeytab_made :
    ∃ s h, (Setup.make (.map hostKeytab.cluster) (some hostKeytab.components) (.str "c") .prepared
      ⟨.ofString "/tmp"⟩).on {} = (.ok s, h) := by
  obtain ⟨hp, hl, hr⟩ := hostKeytab_fields
  have hn : Value.str "c" ≠ .none := nofun
  obtain ⟨h, hm, _⟩ := make_on hostKeytab.cluster hostKeytab.isMaster hn .prepared
    ⟨.ofString "/tmp"⟩ {}
  have hnone : problem? hostKeytab.cluster hostKeytab.master
      (IdentityProvider.prepared.lookUp.on {}).1 = none := by
    refine (problem?_eq_none _ _ _).mpr (.inr ⟨.inl ?_, ?_, ?_⟩)
    · rw [hp]
      decide
    · unfold ChoosesOne
      rw [hl, hr]
      decide
    · intro key hkey _
      rcases List.mem_cons.mp hkey with rfl | hkey
      · rw [hl]
        rfl
      · rw [List.mem_singleton.mp hkey, hr]
        rfl
  rw [hnone] at hm
  exact ⟨_, h, hm⟩

/-- A setting of the master after one was changed. -/
theorem field_setMaster (m : Mappings) (key name : String) (value : Value) :
    (m.setMaster key value).master.field name = if key = name then value else m.master.field name :=
  Entries.field_insert m.master key name value

/-- The mappings come to name a shared keytab instead, and the next answer is that keytab. -/
theorem session_current_change :
    ∃ s h₁ x, (Setup.make (.map hostKeytab.cluster) (some hostKeytab.components) (.str "c") .prepared
        ⟨.ofString "/tmp"⟩).on {} = (.ok s, h₁) ∧
      s.session hostKeytab [.change (·.setMaster localKeytabKey .none),
        .change (·.setMaster sharedKeytabKey (.str "n")), .query .source] h₁ = [x] ∧
      x.outcome = .ok (.source (.shared "n")) := by
  obtain ⟨s, h₁, hmade⟩ := hostKeytab_made
  let m := (hostKeytab.setMaster localKeytabKey .none).setMaster sharedKeytabKey (.str "n")
  let steps : List Step := [.change (·.setMaster localKeytabKey .none),
    .change (·.setMaster sharedKeytabKey (.str "n")), .query .source]
  let asks := ((s.over m).answer .source).on h₁
  obtain ⟨_, _, hcurrent, _⟩ := Setup.session_current hmade steps
  have hx : s.Current ⟨m, .source, h₁, asks.1, asks.2⟩ := hcurrent _ (List.mem_singleton.mpr rfl)
  refine ⟨s, h₁, ⟨m, .source, h₁, asks.1, asks.2⟩, hmade, rfl, ?_⟩
  have hlocal : m.master.field localKeytabKey = .none := by
    rw [field_setMaster, if_neg (by decide), field_setMaster, if_pos rfl]
  have hshared : m.master.field sharedKeytabKey = .str "n" := by
    rw [field_setMaster, if_pos rfl]
  have hsource : (s.over m).source = .ok (.shared "n") := by
    rw [source_over, ofSettings_map, hlocal, hshared]
    rfl
  have hreads : asks.1 = .source <$> (s.over m).source := (hx.reads _ rfl).1
  rw [hsource] at hreads
  exact hreads

/-- Asking for the way to the keytab and for its two settings, one after another. -/
theorem session_sources (s : Setup) (m : Mappings) (h : Host) :
    (s.session m [.query .source, .query .localPath, .query .sharedName] h).map (·.outcome) =
      [.source <$> (s.over m).source, .setting <$> (s.over m).setting? localKeytabKey,
        .setting <$> (s.over m).setting? sharedKeytabKey] := by
  have hsource : ((s.over m).answer .source).on h = (.source <$> (s.over m).source, h) :=
    reading?_on rfl h
  have hpath : ((s.over m).answer .localPath).on h =
      (.setting <$> (s.over m).setting? localKeytabKey, h) := reading?_on rfl h
  have hname : ((s.over m).answer .sharedName).on h =
      (.setting <$> (s.over m).setting? sharedKeytabKey, h) := reading?_on rfl h
  simp only [Setup.session, hsource, hpath, hname, List.map]

/-- Asking for the principal alone. -/
theorem session_principal (s : Setup) (m : Mappings) (h : Host)
    (hset : isSet (m.master.field principalKey) = true) :
    (s.session m [.query .principal] h).map (·.outcome) =
      [.text <$> (m.master.field principalKey).written] := by
  simp only [Setup.session, answer_configured s m h hset, List.map]

/-- **A setting can come to have no text.**  With a whole number of too many digits as the path, a set-up
    is left with exactly one keytab setting, but the way to the keytab is neither a path nor a name, and
    it is no bad configuration either; with such a number as the principal, there is no answer to the
    question for it. -/
theorem session_current_number_too_long :
    ∃ s h₁, (Setup.make (.map hostKeytab.cluster) (some hostKeytab.components) (.str "c") .prepared
        ⟨.ofString "/tmp"⟩).on {} = (.ok s, h₁) ∧
      (s.session hostKeytab [.change (·.setMaster localKeytabKey (.int Value.numberBound)),
        .query .source, .query .localPath, .query .sharedName] h₁).map (·.outcome) =
        [.error (.invalid .numberTooLong), .error (.invalid .numberTooLong), .ok (.setting none)] ∧
      (s.session hostKeytab [.change (·.setMaster principalKey (.int Value.numberBound)),
        .query .principal] h₁).map (·.outcome) = [.error (.invalid .numberTooLong)] := by
  obtain ⟨s, h₁, hmade⟩ := hostKeytab_made
  have hwritten : (Value.int Value.numberBound).written = .error (.invalid .numberTooLong) := by
    rw [written_eq, Value.isWritable_of_le (Nat.le_refl _)]
    rfl
  refine ⟨s, h₁, hmade, ?_, ?_⟩
  -- the keytab of the host is the number: what asks for a text fails, the shared name is still there
  · let m := hostKeytab.setMaster localKeytabKey (.int Value.numberBound)
    have hlocal : m.master.field localKeytabKey = .int Value.numberBound := by
      rw [field_setMaster, if_pos rfl]
    have hshared : m.master.field sharedKeytabKey = .none := by
      rw [field_setMaster, if_neg (by decide)]
      exact hostKeytab_fields.2.2
    have hsource : (s.over m).source = .error (.invalid .numberTooLong) := by
      rw [source_over, ofSettings_map, hlocal, hshared, hwritten]
      rfl
    have hpath : (s.over m).setting? localKeytabKey = .error (.invalid .numberTooLong) := by
      rw [setting?_over, hlocal, hwritten]
      rfl
    have hname : (s.over m).setting? sharedKeytabKey = .ok none := by
      rw [setting?_over, hshared]
      rfl
    have houtcomes := session_sources s m h₁
    rw [hsource, hpath, hname] at houtcomes
    exact houtcomes
  -- the principal is the number
  · let m := hostKeytab.setMaster principalKey (.int Value.numberBound)
    have hprincipal : m.master.field principalKey = .int Value.numberBound := by
      rw [field_setMaster, if_pos rfl]
    have houtcomes := session_principal s m h₁ (by rw [hprincipal]; rfl)
    rw [hprincipal, hwritten] at houtcomes
    exact houtcomes

end SecureStartup.Security
