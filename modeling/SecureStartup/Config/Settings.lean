import SecureStartup.Config.Merge
import SecureStartup.Disk.Operations

/-!
  The configuration of the application master (`AppMasterConfig`).

  The loader fills these fields from a document, and the fields keep whatever values the document
  held: `validate` says which of them start-up can work with.  It looks at one thing after another
  and reports the first that is wrong:

  1. the name of the cluster is given;
  2. the source of the identity is one of two words (`identitySources`);
  3. every component has settings or nothing (`checkComponents`);
  4. a shared store that is given is of a known kind and has what its kind needs (`checkStore`);
  5. a staging root that is given is a directory (`checkStagingRoot`), the only question to the disk.

  What the security set-up makes of the settings is not looked at here.  `instanceDefinition` is the
  property `instance_definition`: for every component a mapping of its own, the empty one for nothing.
-/

namespace SecureStartup

open SecureStartup.Config

/-- The configuration of the application master.  Fields may hold values of any kind. -/
structure AppConfig where
  clusterName : Value := .str ""
  /-- Settings of the ambient cluster. -/
  cluster : Value := .map []
  /-- Settings of each component of the application. -/
  components : Value := .map []
  /-- Where the login identity comes from. -/
  loginIdentity : Value := .str "process"
  /-- The shared store: its kind and where it is. -/
  sharedStore : Value := .map []
  /-- Where staging directories are made. -/
  stagingRoot : Value := .none
  logDir : Value := .none
  logJson : Value := .bool true
  deriving Inhabited

/-- The settings of each component: component names and their mappings. -/
abbrev InstanceDefinition := Entries

/-- The settings of a component; nothing given means no settings. -/
def InstanceDefinition.component (i : InstanceDefinition) (name : String) : Value :=
  (Entries.field i name).orElse (.map [])

/-- A value as a path: texts and paths are paths. -/
def Value.asPath : Value → Except Failure PurePath
  | .str s => .ok (.ofString s)
  | .path p => .ok (.ofString p)
  | _ => .error (.mismatch .wrongType)

/-- The sources of the login identity. -/
def identitySources : List String := ["process", "ticket_cache"]

/-- The kinds of shared stores. -/
def storeKinds : List String := ["local", "webhdfs"]

/-- Whether a value is one of several words. -/
def Value.isOneOf (v : Value) (words : List String) : Bool := words.any fun w => v.same (.str w)

namespace AppConfig

/-- Every component has settings or nothing. -/
def checkComponents : List (Value × Value) → Except Failure Unit
  | [] => .ok ()
  | (name, settings) :: rest =>
    match settings with
    | .none | .map _ => checkComponents rest
    | _ => name.refusedAs (.componentNotMapping name settings)

/-- The kind of a shared store; stores are local unless they say otherwise. -/
def storeKind (settings : Entries) : Value := (settings.get? (.str "type")).getD (.str "local")

/-- A shared store that is given has a known kind and what that kind needs. -/
def checkStore (store : Value) : Except Failure Unit := do
  if store.truthy then
    let settings ← entriesOf store
    let kind := storeKind settings
    if !kind.isOneOf storeKinds then kind.refusedAs (.storeTypeSetting kind)
    if kind.same (.str "local") && !(settings.field "base_path").truthy then
      throw (.invalid .storeBasePathSetting)
    if kind.same (.str "webhdfs") && !(settings.field "url").truthy then
      throw (.invalid .storeUrlSetting)

/-- A staging root that is given is a directory of the disk. -/
def checkStagingRoot (root : Value) (d : Disk) (cwd : Location) : Except Failure Unit :=
  match root with
  | .none => .ok ()
  | _ => do
    let path := (← root.asPath).text
    -- a text that is no path for the system is no directory, and is not asked about
    let isDirectory ←
      if (Invalid.forSystem? path).isSome then pure false
      else match d.isDirectory? cwd path with
        | .ok b => pure b
        | .error r => throw (.refused r path)
    if !isDirectory then throw (.invalid (.stagingRootSetting root))

/-- **What start-up can work with**: the first thing that is wrong, if anything is. -/
def validate (c : AppConfig) (d : Disk) (cwd : Location) : Except Failure Unit := do
  if !c.clusterName.truthy then throw (.invalid .clusterNameRequired)
  if !c.loginIdentity.isOneOf identitySources then
    c.loginIdentity.refusedAs (.identitySourceSetting c.loginIdentity)
  checkComponents (← entriesOf c.components)
  checkStore c.sharedStore
  checkStagingRoot c.stagingRoot d cwd

/-- The settings of each component as mappings of their own, nothing being the empty one. -/
def instanceDefinition (c : AppConfig) : Except Failure InstanceDefinition := do
  (← entriesOf c.components).mapM fun e => do
    return (e.1, .map (← toEntriesOrEmpty e.2))

/-- The configuration as a mapping. -/
def shown (c : AppConfig) : Value :=
  .ofFields [("cluster_name", c.clusterName), ("cluster", c.cluster),
    ("components", c.components), ("login_identity", c.loginIdentity),
    ("shared_fs", c.sharedStore), ("staging_root", c.stagingRoot), ("log_dir", c.logDir),
    ("log_json", c.logJson)]

end AppConfig

end SecureStartup
