import SecureStartup.Config.Reference
import SecureStartup.Config.Settings
import SecureStartup.Host.Basic

/-!
  Loading the configuration (`load_config`).

  A load goes through the same stations every time, and the first one that refuses ends it:

  1. **The path** — `resolvePath` (`resolve_config_path`): the file asked for, else the one that the
     variable `AMSECURITY_CONFIG` names, else the default one.  It has to be there.
  2. **The document** — `readShared` and `readDocument` (`load_yaml`): the text of the file, with its
     line breaks unified, as the reader of YAML understands it.  The reader is a function of the host;
     nothing here depends on how it works.
  3. **The references** — `expandDocument` (`_expand_env_vars`), over the whole document, not over the
     section alone: a reference outside the section can still be refused.
  4. **The section** — `sectionOf` and `override`: the part under `appmaster`, with the caller's
     overrides laid over it (`_deep_merge`).  Overrides come AFTER the expansion and are taken as they
     are.
  5. **The fields** — `ofSection`, with `setting` (`get_config_value`) and `stringKeys`
     (`_stringify_settings`).  A cluster name in the environment wins over the section's, and so over
     an override's.
  6. **The check** — `AppConfig.validate`, after the load was reported.

  A document may hold values of any kind in any place, and most of what can go wrong is an operation on
  a value of the wrong kind; so every step says what it does with each of them, and the failures are
  those that the operations have by themselves (`Failure.mismatch`).
-/

namespace SecureStartup.Config

open SecureStartup.Text

/-- The logger of the loader. -/
def logger : String := "config.config"

/-! ## The file -/

/-- The variable that names the configuration file. -/
def pathVariable : String := "AMSECURITY_CONFIG"

/-- The path of the configuration file: the given one, the environment's, or the default. -/
def resolvePath (given : Value) (h : Host) : Except Failure String :=
  match given with
  | .none =>
    let named := (h.env? pathVariable).getD ""
    .ok (if named == "" then h.defaultConfig else normalPath named)
  | .str p | .path p => .ok (normalPath p)
  | _ => .error (.mismatch .noPart)

/-- A text with every line break as a line feed. -/
def unifyBreaks : List Char → List Char
  | '\r' :: '\n' :: r => '\n' :: unifyBreaks r
  | '\r' :: r => '\n' :: unifyBreaks r
  | c :: r => c :: unifyBreaks r
  | [] => []

/-- Whether there is something at a path. -/
def pathExists (path : String) : Act Bool := do
  if (Invalid.forSystem? path).isSome then return false
  Act.onDisk path fun d cwd => d.exists? cwd path

/-- The document in a file, and which of its places hold one thing; a file that is not there, and an
    empty one, hold the empty mapping. -/
def readShared (path : String) : Act (Value × Yaml.Sharing) := do
  -- a file that went away since it was looked for counts as an empty one
  if !(← pathExists path) then return (.map [], .plain)
  let text ← Act.onDisk path fun d cwd => d.read cwd path
  let (v, sharing) ← Act.ofExcept ((← get).yaml (String.ofList (unifyBreaks text.toList)))
  return (v.orElse (.map []), sharing)

/-- The document in a file. -/
def readDocument (path : String) : Act Value := (·.1) <$> readShared path

/-! ## The section -/

/-- Whether a document holds something under a name: as a key, as an item, or as a part of a text. -/
def holds (doc : Value) (name : String) : Except Failure Bool :=
  match doc with
  | .map es => .ok (Entries.has es (.str name))
  | .list xs | .tuple xs | .set xs | .frozenset xs => .ok (xs.any (·.same (.str name)))
  | .str s => .ok (contains name.toList s.toList)
  | _ => .error (.mismatch .wrongType)

/-- The section of a document; only a mapping has one. -/
def sectionOf (doc : Value) : Except Failure Value := do
  if !(← holds doc "appmaster") then throw (.invalid .noSection)
  match doc with
  | .map es => return (Entries.field es "appmaster").orElse (.map [])
  | _ => throw (.mismatch .wrongType)

/-! ## The fields -/

/-- A setting: the environment's value, else the document's, else a default. -/
def setting (h : Host) (name : String) (written fallback : Value) : Value :=
  ((h.env? name).elim Value.none Value.str).orElse (written.orElse fallback)

/-- A setting whose variable may have any name: it has to be one that can be asked for. -/
def askSetting (h : Host) (name : String) (written fallback : Value) : Except Failure Value :=
  match Invalid.forBytes? name with
  | some why => .error (.invalid why)
  | none => .ok (setting h name written fallback)

/-- The components of a section, with texts for names and for the keys of their settings. -/
def componentsOf (components : Value) : Except Failure Value := do
  let es ← entriesOf (components.orElse (.map []))
  return .map (Entries.ofPairs (← es.mapM fun e => do
    return (.str (← e.1.written), ← stringKeys e.2)))

/-- The configuration that a section describes. -/
def ofSection (h : Host) (sec : Value) : Except Failure AppConfig := do
  -- the fields are read in this order: of two that are wrong, the first decides
  let components ← componentsOf (← fieldOf sec "components")
  let staging := (← fieldOf sec "staging").orElse (.map [])
  let logging := (← fieldOf sec "logging").orElse (.map [])
  let name ← (setting h "CLUSTER_NAME" (← fieldOf sec "cluster_name") (.str "")).written
  let cluster ← stringKeys (← fieldOf sec "cluster")
  let store ← toEntriesOrEmpty (← fieldOf sec "shared_fs")
  let stagingRoot := (← fieldOf staging "root").orElse .none
  let logDir := (← fieldOf logging "dir").orElse .none
  let logJson := ((← entriesOf logging).get? (.str "json")).getD (.bool true)
  return {
    clusterName := .str name
    cluster := cluster
    components := components
    loginIdentity := (← fieldOf sec "login_identity").orElse (.str "process")
    sharedStore := .map store
    stagingRoot := stagingRoot
    logDir := logDir
    logJson := .bool logJson.truthy }

/-- Lay overrides over a section, when any are given. -/
def override (sec overrides : Value) : Act Value := do
  if overrides.truthy then
    let es ← Act.ofExcept (entriesOf overrides)
    Act.log logger Log.debug s!"Applying overrides: {(Value.list (Entries.keys es)).shown}" []
    Act.ofExcept (mergeValues sec overrides)
  else return sec

/-- Say what was loaded. -/
def reportLoaded (c : AppConfig) : Act Unit := do
  let say := fun (s : String) => Act.log logger Log.debug s []
  let names := (Entries.keys (c.components.asEntries?.getD [])).map (·.text)
  let kind := ((c.sharedStore.asEntries?.getD []).get? (.str "type")).getD (.str "none")
  say "Configuration loaded successfully:"
  say s!"  - Cluster name: {c.clusterName.text}"
  say s!"  - Components configured: {(Value.list ((Value.sortTexts names).map .str)).shown}"
  say s!"  - Shared filesystem: {← Act.ofExcept kind.written}"

/-- **Load the configuration** from a file, with overrides. -/
def load (given overrides : Value) : Act AppConfig := do
  let path ← Act.ofExcept (resolvePath given (← get))
  if !(← pathExists path) then
    throw (.systemText "FileNotFoundError"
      s!"Configuration file not found: {path}\nExpected file: config/config.yaml")
  Act.log logger Log.info s!"Loading configuration from file: {path}" []
  let doc ← Act.ofExcept (expandDocument (← get).env? (← readDocument path))
  -- what was expanded is done with: overrides are taken as they are
  let sec ← override (← Act.ofExcept (sectionOf doc)) overrides
  let c ← Act.ofExcept (ofSection (← get) sec)
  -- said before the validation, so that a refused configuration is reported too
  reportLoaded c
  Act.log logger Log.debug "Validating configuration..." []
  let h ← get
  Act.ofExcept (c.validate h.disk h.workDir)
  Act.log logger Log.debug "Configuration validation passed" []
  return c

end SecureStartup.Config
