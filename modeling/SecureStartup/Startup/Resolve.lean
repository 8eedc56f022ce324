import SecureStartup.Security.Setup
import SecureStartup.Store.Choice

/-!
  Resolving the security of a start-up (`resolve_security`): whether it is on, and then the principal,
  the way to the keytab, and the keytab file.

  1. **The set-up** — `setupOf` (`build_security_configuration`).  With it the stager is made, which may
     have to find the directory for temporary files even if nothing is staged afterwards, and even if
     security turns out to be off.
  2. **On or off** — with security off that is the whole answer.
  3. **The principal, then the source** — `resolveEnabled`; the principal may be looked up a second time.
  4. **The keytab** — `keytabOf`, only when it is wanted: the shared store is made, and the keytab file is
     asked for.

  `Outcome` has the two shapes of the answer; without a keytab its path is nothing.  The provider of
  identities may have failed to be made, which shows at its place among the steps; how clients of HDFS
  are made is an argument.
-/

namespace SecureStartup.Startup

open SecureStartup.Security

/-- The logger of the start-up. -/
def logger : String := "appmaster.__main__"

/-- What a start-up found out. -/
inductive Outcome where
  | disabled (cluster : Value)
  | enabled (cluster : Value) (principal source : String) (keytab : Option String)
  deriving Inhabited

namespace Outcome

/-- An outcome as a mapping. -/
def shown : Outcome → Value
  | disabled cluster => .ofFields [("cluster_name", cluster), ("security_enabled", .bool false)]
  | enabled cluster principal source keytab =>
    .ofFields [("cluster_name", cluster), ("security_enabled", .bool true),
      ("principal", .str principal), ("keytab_source", .str source),
      ("keytab_path", keytab.elim .none .str)]

end Outcome

/-- The provider that a configuration asks for. -/
def providerOf (c : AppConfig) : Except Failure IdentityProvider :=
  IdentityProvider.ofSource c.loginIdentity "klist" .none

/-- The security set-up of a configuration. -/
def setupOf (c : AppConfig) (provider : Except Failure IdentityProvider) : Act Setup := do
  let components ← Act.ofExcept c.instanceDefinition
  let provider ← Act.ofExcept provider
  let stager ← KeytabStager.ofRoot c.stagingRoot
  Setup.make c.cluster (some components) c.clusterName provider stager

/-- The keytab file of a set-up, staged from the configured store if need be. -/
def keytabOf (c : AppConfig) (s : Setup) (principal : String) (clients : Store.Clients) :
    Act String := do
  let store ← Store.ofSettings c.sharedStore clients
  s.keytabFile (store.map (·.shared)) principal

/-- The outcome with security on: the principal, the way to the keytab, and the keytab if it is
    wanted. -/
def resolveEnabled (c : AppConfig) (s : Setup) (stage : Bool) (clients : Store.Clients) :
    Act Outcome := do
  let principal ← s.principal
  let source ← Act.ofExcept s.source
  let keytab ← if stage then some <$> keytabOf c s principal clients else pure none
  Act.log logger Log.info "Security configuration resolved"
    [("principal", .str principal), ("keytab_source", .str source.describe),
     ("keytab_path", keytab.elim .none .str)]
  return .enabled c.clusterName principal source.describe keytab

/-- **Resolve the security** of a configuration; `stage` says whether the keytab is wanted too. -/
def resolve (c : AppConfig) (stage : Bool) (provider : Except Failure IdentityProvider)
    (clients : Store.Clients) : Act Outcome := do
  let s ← setupOf c provider
  if ← Act.ofExcept s.isEnabled then resolveEnabled c s stage clients
  else
    Act.log logger Log.info "Cluster security is disabled; no Kerberos login required" []
    return .disabled c.clusterName

end SecureStartup.Startup
