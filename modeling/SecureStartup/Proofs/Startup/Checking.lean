import SecureStartup.Proofs.Host.Asking
import SecureStartup.Proofs.Startup.Twins
import SecureStartup.Proofs.Store.Moving

/-!
  A start-up that only checks.

  1. **Program** — `resolve_security` with `stage_keytab=False`, which `--validate-only` asks for: the
     set-up is made and validated, the principal and the way to the keytab are found, and that is all.

  2. **Specification** — such a run is there to tell what a full one would meet.  Two things are asked
     of it: that it FORETELLS the full run, from the same host (`Foretells`), and that it leaves the host
     alone, but for questions and log lines (`Act.Consults`).

  3. **The idea** — both are proved along the text of `resolve`.  The runs have the same text up to the
     keytab, so they ask the same questions and are given the same answers; what the full run does after
     that may only fail in addition (`foretells_resolve`).  That nothing is asked of the store is
     said through whatever stands in front of it (`resolveVia`), for instance one that records
     (`SharedStore.recorded`): a run that only checks never comes to the store at all
     (`resolveVia_checks`).

  4. **What is left over** — questions and log lines do touch the disk: a directory for temporary files
     is found by making a file in it and deleting it again (`Event.probe`), and lines come to log files
     (`resolve_checks_limits`).
-/

namespace SecureStartup

open SecureStartup.Act SecureStartup.Security

/-! ## What asks only -/

theorem consults_listCommand (lister : String) (cache : Value) :
    Consults (listCommand lister cache) := by
  unfold listCommand
  refine (consults_note rfl).bind fun _ => consults_get_bind fun h => ?_
  split
  · exact consults_throw _
  · exact consults_pure _

theorem consults_cachedIdentity (lister : String) (cache : Value) :
    Consults (cachedIdentity lister cache) := by
  unfold cachedIdentity
  refine (consults_listCommand lister cache).bind fun argv => (consults_note rfl).bind fun _ =>
    consults_get_bind fun h => (consults_ofExcept _).bind fun r => ?_
  split
  · exact (consults_log _ _ _ _).bind fun _ => consults_pure _
  · exact consults_pure _

/-- **Looking up an identity** asks only, whichever way. -/
theorem consults_lookUp (provider : IdentityProvider) : Consults provider.lookUp := by
  unfold IdentityProvider.lookUp
  cases provider with
  | process => exact consults_get_bind fun h => (consults_ofExcept _).bind fun user => consults_pure _
  | ticketCache lister cache => exact consults_cachedIdentity lister cache
  | prepared =>
    refine (consults_note rfl).bind fun _ => consults_get_bind fun h =>
      (consults_answers _).bind fun _ => ?_
    split
    · exact consults_pure _
    · exact (consults_ofExcept _).bind fun found => consults_pure _

namespace Security

theorem consults_checkPrincipal (provider : IdentityProvider) (settings : Value) :
    Consults (checkPrincipal provider settings) := by
  unfold checkPrincipal
  refine (consults_ofExcept _).bind fun configured => ?_
  split
  · refine ((consults_lookUp provider).tryCatch fun f => ?_).bind fun found => ?_
    · split
      · exact consults_throw _
      · exact consults_throw _
    · split
      · exact consults_throw _
      · exact consults_pure _
  · exact consults_pure _

theorem consults_principalOf (provider : IdentityProvider) (settings : Value) :
    Consults (principalOf provider settings) := by
  unfold principalOf
  refine (consults_ofExcept _).bind fun configured => ?_
  split
  · exact consults_ofExcept _
  · refine (consults_lookUp provider).bind fun found => ?_
    split
    · exact consults_throw _
    · exact (consults_log _ _ _ _).bind fun _ => consults_pure _

theorem Setup.consults_validate (s : Setup) : Consults s.validate := by
  unfold validate
  refine (consults_ofExcept _).bind fun enabled => ?_
  split
  · refine (consults_checkPrincipal _ _).bind fun _ => (consults_ofExcept _).bind fun source => ?_
    exact consults_log _ _ _ _
  · exact consults_log _ _ _ _

/-- **A set-up is made**, or refused, by asking only. -/
theorem Setup.consults_make (cluster : Value) (components : Option InstanceDefinition)
    (clusterName : Value) (provider : IdentityProvider) (stager : KeytabStager) :
    Consults (make cluster components clusterName provider stager) := by
  rcases make_cases cluster components clusterName provider stager with ⟨f, hf⟩ | ⟨setup, _, hm⟩
  · rw [hf]
    exact consults_throw f
  · rw [hm]
    exact (consults_validate setup).bind fun _ => consults_pure setup

end Security

namespace Startup

open SecureStartup.Store

theorem consults_ofRoot (root : Value) : Consults (KeytabStager.ofRoot root) := by
  unfold KeytabStager.ofRoot
  split
  · exact (consults_ofExcept _).bind fun path => consults_pure _
  · exact consults_tempDir.bind fun dir => consults_pure _

theorem consults_setupOf (c : AppConfig) (provider : Except Failure IdentityProvider) :
    Consults (setupOf c provider) := by
  unfold setupOf
  exact (consults_ofExcept _).bind fun _ => (consults_ofExcept _).bind fun _ =>
    (consults_ofRoot _).bind fun _ => Setup.consults_make _ _ _ _ _

/-- **Checking asks only**: the keytab is what a start-up changes its host for. -/
theorem consults_resolve (c : AppConfig) (provider : Except Failure IdentityProvider)
    (clients : Clients) : Consults (resolve c false provider clients) := by
  unfold resolve
  refine (consults_setupOf c provider).bind fun s => (consults_ofExcept _).bind fun enabled => ?_
  split
  · unfold resolveEnabled Setup.principal
    refine (consults_principalOf _ _).bind fun principal => (consults_ofExcept _).bind fun source => ?_
    rw [if_neg Bool.false_ne_true]
    exact (consults_pure _).bind fun keytab => (consults_log _ _ _ _).bind fun _ => consults_pure _
  · exact (consults_log _ _ _ _).bind fun _ => consults_pure _

/-! ## Foretelling -/

/-- What is found out without the keytab. -/
def Outcome.withoutKeytab : Outcome → Outcome
  | .disabled cluster => .disabled cluster
  | .enabled cluster principal source _ => .enabled cluster principal source none

/-- **One action foretells another**: where it fails, the other fails with the same failure and leaves
    the same host, and what the other finds out, it finds out but for the keytab. -/
def Foretells (short full : Act Outcome) : Prop :=
  ∀ h, (∀ f g, short.on h = (.error f, g) → full.on h = (.error f, g)) ∧
    ∀ o g, full.on h = (.ok o, g) → (short.on h).1 = .ok o.withoutKeytab

/-- After a common beginning. -/
theorem Foretells.bind {α : Type} (x : Act α) {short full : α → Act Outcome}
    (a : ∀ u, Foretells (short u) (full u)) : Foretells (x >>= short) (x >>= full) := by
  intro h
  rcases hx : x.on h with ⟨f | u, g⟩
  · rw [on_bind_error hx, on_bind_error hx]
    exact ⟨fun _ _ hf => hf, fun _ _ hok => nomatch congrArg Prod.fst hok⟩
  · rw [on_bind_ok hx, on_bind_ok hx]
    exact a u g

theorem foretells_pure {o : Outcome} (ho : o.withoutKeytab = o) : Foretells (pure o) (pure o) := by
  refine fun h => ⟨fun _ _ hf => hf, fun o' g hok => ?_⟩
  cases hok
  rw [ho]
  rfl

/-- **Checking foretells the full run**: with security on, all that the full run has in addition is the
    keytab. -/
theorem foretells_resolve (c : AppConfig) (provider : Except Failure IdentityProvider)
    (clients : Clients) :
    Foretells (resolve c false provider clients) (resolve c true provider clients) := by
  unfold resolve
  refine Foretells.bind _ fun s => Foretells.bind _ fun enabled => ?_
  split
  · unfold resolveEnabled
    refine Foretells.bind _ fun principal => Foretells.bind _ fun source => fun h => ?_
    rw [if_neg Bool.false_ne_true, if_pos rfl, on_bind_ok (on_pure none h)]
    refine ⟨fun f g hf => ?_, fun o g hok => ?_⟩
    · -- there is nothing left that could fail
      exact nomatch congrArg Prod.fst hf
    · obtain ⟨keytab, _, _, hok⟩ := on_bind_eq_ok hok
      obtain ⟨_, _, _, hok⟩ := on_bind_eq_ok hok
      cases hok
      rfl
  · exact Foretells.bind _ fun _ => foretells_pure rfl

/-- **Checking does not come to the store**: what stands in front of it makes no difference. -/
theorem resolveVia_checks (view : SharedStore → SharedStore) (c : AppConfig)
    (provider : Except Failure IdentityProvider) (clients : Clients) :
    resolveVia view c false provider clients = resolve c false provider clients := by
  unfold resolveVia resolve resolveEnabled report
  simp only [Bool.false_eq_true, if_false]

/-- A secure cluster with a keytab on the host, and nobody named to log in as. -/
def hostKeytabConfig : AppConfig where
  clusterName := .str "c"
  cluster := .map [(.str authenticationKey, .str kerberos)]
  components := .map [(.str masterComponent, .map [(.str localKeytabKey, .str "/k")])]

/-- A host on which somebody is logged in, and somebody else a little later. -/
def changingHost : Host where
  tempDir := some "/t"
  answers := [.ok (some "first@REALM"), .ok (some "am/host@REALM")]

/-- What an outcome says about logging in. -/
def Outcome.login? : Outcome → Option (String × String × Option String)
  | .disabled _ => none
  | .enabled _ principal source keytab => some (principal, source, keytab)

/-- A cluster that is not secure, and a root for the stager. -/
def insecureConfig : AppConfig where
  clusterName := .str "c"
  stagingRoot := .str "/d"

end Startup

end SecureStartup
