import SecureStartup.Config.Report
import SecureStartup.EnvFile.Apply
import SecureStartup.Log.Call
import SecureStartup.Log.Setup
import SecureStartup.Startup.Resolve

/-!
  The start-up program (`main`).

  It takes over the environment file, reads its arguments, loads the configuration, sets up logging,
  resolves the security and prints the result.  A failure is logged and printed, and its category
  decides the exit code; a configuration that cannot be loaded has the code of a bad configuration.

    * `specs`, `readRequest` — `parse_args`;
    * `setUpLogging` — `_setup_logging`: the directory of log files is the option's, else that of the
      variable `LOG_DIR`, else the configuration's;
    * `printOutcome`, `printFailure` — `_print_result`, `_print_error`;
    * `logFailure` — `log_exception`, as the program calls it;
    * `finish`, `run` — `main`, from the configuration on and as a whole.

  Two of its steps are guarded, and the guards differ.  Around the load, only a missing file and a
  wrong value are reported (`run`); around resolving, also every other refusal of the system
  (`codeOf?`).  Whatever a guard does not take leaves the program without an exit code.
-/

namespace SecureStartup.Startup

open SecureStartup.CommandLine SecureStartup.Config

/-- The name of the program in its own messages. -/
def program : String := "appmaster"

/-- The options of the program. -/
def specs : List Spec :=
  [helpSpec, ⟨["--config"], "config", .path⟩, ⟨["--validate-only"], "validate_only", .nothing⟩,
   ⟨["--json"], "json", .nothing⟩,
   ⟨["--log-level"], "log_level", .oneOf ["DEBUG", "INFO", "WARNING", "ERROR"]⟩,
   ⟨["--log-dir"], "log_dir", .text⟩]

/-- What the program is asked to do. -/
structure Request where
  /-- The configuration file, if one is named. -/
  config : Value
  validateOnly : Bool
  json : Bool
  logLevel : Value
  logDir : Value

/-- The request of a command line. -/
def readRequest (argv : List String) : Act Request := do
  let fields ← readOn program specs argv
  let level := match field fields "log_level" with
    | .none => .str "INFO"
    | v => v
  return ⟨field fields "config", isGiven fields "validate_only", isGiven fields "json", level,
    field fields "log_dir"⟩

/-- A request as a mapping. -/
def Request.shown (r : Request) : Value :=
  .ofFields [("config", r.config), ("validate_only", .bool r.validateOnly), ("json", .bool r.json),
    ("log_level", r.logLevel), ("log_dir", r.logDir)]

/-- Set up logging for a request, with what the configuration says if there is one. -/
def setUpLogging (r : Request) (c : Option AppConfig) : Act Unit := do
  let h ← get
  let named := (h.env? "LOG_DIR").elim Value.none Value.str
  let dir := r.logDir.orElse (named.orElse ((c.map (·.logDir)).getD .none))
  let dir ← if dir.truthy then some <$> Act.ofExcept dir.asPath else pure none
  -- the names of levels are the keys of a table, so only a text can be looked up
  let level ← match r.logLevel with
    | .str s => pure (Log.levelOf s)
    | _ => throw (.mismatch .wrongType)
  let _ ← Log.setUp {
    name := .str program
    cluster := (c.map (·.clusterName)).getD .none
    component := .str Security.masterComponent
    dir := dir
    json := (c.map (·.logJson)).getD (.bool true)
    consoleLevel := .int level }

/-- Log a failure. -/
def logFailure (f : Failure) (message : String) (traced : Bool) (fields : Entries) : Act Unit := do
  let call := Log.Call.ofFailure (← get).words f (.str message) (.int Log.error) traced fields
  Log.perform (call.bind (·.record logger))

/-- Print a failure: as JSON, or for people on the error stream. -/
def printFailure (f : Failure) (code : Nat) (json : Bool) : Act Unit := do
  let text ← Act.ofExcept (f.text (← get).words)
  if json then
    let fields : List (String × Value) :=
      [("error", .str text), ("error_type", .str f.name), ("exit_code", .int code)]
    let context := match f.context? with
      | some c => if c.truthy then [("context", c)] else []
      | none => []
    printJson Json.lenient (.ofFields (fields ++ context))
  else Act.printErrorLine s!"{badSign} {text}"

/-- Print an outcome. -/
def printOutcome (o : Outcome) (json : Bool) : Act Unit := do
  if json then printJson Json.pretty o.shown
  else
    match o with
    | .disabled cluster =>
      Act.printLine s!"Cluster: {cluster.text}"
      Act.printLine "Security: disabled"
    | .enabled cluster principal source keytab =>
      Act.printLine s!"Cluster: {cluster.text}"
      Act.printLine "Security: kerberos"
      Act.printLine s!"Principal: {principal}"
      Act.printLine s!"Keytab source: {source}"
      if let some path := keytab then
        Act.printLine s!"Keytab file: {path}"

/-- The exit code of a bad configuration. -/
def badConfiguration : Nat := Category.badConfiguration.exitCode

/-- The exit code of a failure to resolve the security, where the program reports it: set-up and
    system failures by their category, wrong values as a bad configuration. -/
def codeOf? (f : Failure) : Option Nat :=
  if f.isSetup || f.isSystem then some f.exitCode
  else if f.isInvalid then some badConfiguration
  else none

/-- The outcome of an action or its failure, with the failure as a value. -/
def attempt {α : Type} (act : Act α) : Act (Except Failure α) :=
  tryCatch (.ok <$> act) fun f => return .error f

/-- Resolve the security of a configuration and print the result: the exit code. -/
def finish (r : Request) (c : AppConfig) (provider : Option IdentityProvider)
    (clients : Store.Clients) : Act Nat := do
  setUpLogging r c
  match ← attempt (resolve c (!r.validateOnly) (provider.elim (providerOf c) .ok) clients) with
  | .ok o =>
    printOutcome o r.json
    return 0
  | .error f =>
    match codeOf? f with
    | some code =>
      logFailure f "Security setup failed" true [(.str "exit_code", .int code)]
      printFailure f code r.json
      return code
    | none => throw f

/-- **The start-up program**: its exit code.  A given provider takes the place of the configured
    one. -/
def run (argv : List String) (provider : Option IdentityProvider) (clients : Store.Clients) :
    Act Nat := do
  EnvFile.apply
  let r ← readRequest argv
  match ← attempt (load r.config .none) with
  | .ok c => finish r c provider clients
  | .error f =>
    if f.isMissingFile || f.isInvalid then
      setUpLogging r none
      logFailure f "Unable to load application master configuration" false []
      printFailure f badConfiguration r.json
      return badConfiguration
    else throw f

end SecureStartup.Startup
