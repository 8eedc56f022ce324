import SecureStartup.Identity.Basic
import SecureStartup.Keytab.Locator
import SecureStartup.Text.Caseless

/-!
  The security set-up of the application master (`SecurityConfiguration`).

  A set-up is validated when it is made: with security on, there has to be a principal or a login
  identity to stand in for one, and the settings have to choose exactly one way to a keytab.  With
  security off nothing else is looked at.  The queries read the settings as they are when they are
  asked, so a change of the settings shows in the next answer.

    * `isSecure` — `is_cluster_secure`;
    * `checkPrincipal`, `Setup.validate` — `ConfigValidator`, and its `_validate_principal`;
    * `principalOf` — `PrincipalResolver.get_principal`: the identity is looked up anew, and its short
      name is taken as it is, even if it is empty;
    * `Setup.make` — the constructor, with the three arguments that have to be there;
    * `Setup.isEnabled`, `.principal`, `.source`, `.setting?`, `.keytabFile`, `.shown` — the methods and
      properties.

  The two lookups of one start-up fail differently: that of the validation is turned into a bad state,
  with the system's failure behind it, while that of the principal passes through.
-/

namespace SecureStartup.Security

open SecureStartup.Config SecureStartup.Text

/-- The logger of the set-up. -/
def logger : String := "core.security.security_config"

/-! ## Security on or off -/

/-- **Whether a cluster is secure**: its authentication method, blanks and case apart, is Kerberos.
    Only mappings have settings. -/
def isSecure (cluster : Value) : Except Failure Bool := do
  match ← fieldOf cluster authenticationKey with
  | .str s => return (trim s.toList).map lower == kerberos.toList
  | _ => return false

/-! ## Principals -/

/-- The principal of some settings: the configured one, else the login identity's short name. -/
def principalOf (provider : IdentityProvider) (settings : Value) : Act String := do
  let configured ← Act.ofExcept (fieldOf settings principalKey)
  if isSet configured then return ← Act.ofExcept configured.written
  match ← provider.lookUp with
  | none => throw (.setup .identityGone none)
  | some identity =>
    let principal := identity.shortName
    Act.log logger Log.info
      ("No principal set in the application configuration. Will use AM login "
        ++ s!"identity {principal} to attempt keytab-based login")
      [("principal", .str principal), ("login_user", .str identity.userName)]
    return principal

/-- There is a principal, or a login identity to stand in for one. -/
def checkPrincipal (provider : IdentityProvider) (settings : Value) : Act Unit := do
  let configured ← Act.ofExcept (fieldOf settings principalKey)
  if !isSet configured then
    let found ← tryCatch provider.lookUp fun f =>
      if f.isSystem then throw (.setup .lookupFailed (some f)) else throw f
    if found.isNone then throw (.setup .noPrincipal none)

/-! ## The set-up -/

/-- A security set-up. -/
structure Setup where
  /-- Settings of the ambient cluster. -/
  cluster : Value
  /-- Settings of each component. -/
  components : InstanceDefinition
  clusterName : Value
  provider : IdentityProvider
  stager : KeytabStager
  deriving Inhabited

namespace Setup

/-- The settings of the application master. -/
def settings (s : Setup) : Value := s.components.component masterComponent

/-- Whether security is on. -/
def isEnabled (s : Setup) : Except Failure Bool := isSecure s.cluster

/-- The way to the keytab. -/
def source (s : Setup) : Except Failure KeytabSource := KeytabSource.ofSettings s.settings

/-- The text of a setting that is set. -/
def setting? (s : Setup) (key : String) : Except Failure (Option String) := do
  let value ← fieldOf s.settings key
  if isSet value then return some (← value.written) else return none

/-- **Validate a set-up** as its settings are now. -/
def validate (s : Setup) : Act Unit := do
  if ← Act.ofExcept s.isEnabled then
    checkPrincipal s.provider s.settings
    let source ← Act.ofExcept s.source
    Act.log logger Log.debug "Security configuration validated"
      [("keytab_source", .str source.kind), ("security_enabled", .bool true)]
  else
    Act.log logger Log.debug "Cluster security is disabled; skipping security validation" []

/-- **Make a set-up.**  The first three parts have to be there, and the set-up has to be valid. -/
def make (cluster : Value) (components : Option InstanceDefinition) (clusterName : Value)
    (provider : IdentityProvider) (stager : KeytabStager) : Act Setup := do
  if cluster matches .none then throw (.invalid (.missing "configuration"))
  match components with
  | none => throw (.invalid (.missing "instance_definition"))
  | some components =>
    if clusterName matches .none then throw (.invalid (.missing "cluster_name"))
    let s : Setup := ⟨cluster, components, clusterName, provider, stager⟩
    s.validate
    return s

/-- The principal to log in as. -/
def principal (s : Setup) : Act String := principalOf s.provider s.settings

/-- **The keytab file** for a principal; a shared keytab needs a store. -/
def keytabFile (s : Setup) (store : Option SharedStore) (principal : String) : Act String := do
  let source ← Act.ofExcept s.source
  match source, store with
  | .shared name, none => throw (.setup (.noStore name) none)
  | _, _ => source.file s.stager (store.getD .absent) s.clusterName principal

/-- How a set-up is shown. -/
def shown (s : Setup) : Except Failure String := do
  let enabled := if ← s.isEnabled then "True" else "False"
  return s!"SecurityConfiguration(cluster_name={s.clusterName.shown}, security_enabled={enabled})"

/-! ## Changing settings -/

/-- Change a setting of the cluster. -/
def setCluster (s : Setup) (key : String) (value : Value) : Setup :=
  match s.cluster with
  | .map es => { s with cluster := .map (Entries.insert es (.str key) value) }
  | _ => s

/-- Change a setting of a component, which comes into being if it is not there. -/
def setComponent (s : Setup) (name key : String) (value : Value) : Setup :=
  let old := match Entries.field s.components name with
    | .map es => es
    | _ => []
  let new := Value.map (Entries.insert old (.str key) value)
  { s with components := Entries.insert s.components (.str name) new }

end Setup

end SecureStartup.Security
