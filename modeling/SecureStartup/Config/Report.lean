import SecureStartup.CommandLine.Usage
import SecureStartup.Config.Load
import SecureStartup.Json.Writer
import SecureStartup.Yaml.Writer

/-!
  The configuration tool: validates the configuration file and shows it, for people or as JSON
  (`_cli_main`).

    * `reportSpecs`, `readReportRequest` — its command line (`_build_cli_parser`);
    * `useToolSink` — log lines on the error stream (`_configure_cli_logging`);
    * `printValid`, and the member `validation` of `jsonSections` — `_build_validation_output`;
    * `printMerged`, and the member `merged_config` — `_build_merged_config_output`;
    * `printFailure` — `_handle_cli_error`;
    * `report`, `runReport` — `_cli_main` itself.

  A configuration that does not load is reported and gives status 1 when the file is missing or a
  value is wrong; every other failure ends the tool.  So does a failure to write the output: for JSON
  that is any part that JSON has no form for, and for people a whole number of too many digits.
-/

namespace SecureStartup.Config

open SecureStartup.CommandLine

/-- The options of the tool. -/
def reportSpecs : List Spec :=
  [helpSpec, ⟨["--validate"], "validate", .nothing⟩, ⟨["--show-merged"], "show_merged", .nothing⟩,
   ⟨["--config"], "config", .path⟩, ⟨["--json"], "json", .nothing⟩,
   ⟨["--verbose", "-v"], "verbose", .nothing⟩]

/-- What the tool is asked to do. -/
structure ReportRequest where
  validate : Bool
  showMerged : Bool
  /-- The configuration file, if one is named. -/
  config : Value
  json : Bool
  verbose : Bool

/-- The name of the tool in its own messages. -/
def reportProgram : String := "config"

/-- The request of a command line. -/
def readReportRequest (argv : List String) : Act ReportRequest := do
  let fields ← readOn reportProgram reportSpecs argv
  return ⟨isGiven fields "validate", isGiven fields "show_merged", field fields "config",
    isGiven fields "json", isGiven fields "verbose"⟩

/-- A request as a mapping. -/
def ReportRequest.shown (r : ReportRequest) : Value :=
  .ofFields [("validate", .bool r.validate), ("show_merged", .bool r.showMerged),
    ("config", r.config), ("json", .bool r.json), ("verbose", .bool r.verbose)]

/-- Log lines go to the error stream from now on. -/
def useToolSink (verbose : Bool) : Act Unit :=
  modify fun h => { h with log := { h.log with
    rootLevel := if verbose then Log.debug else Log.info
    sinks := if h.log.sinks.isEmpty then [.tool] else h.log.sinks } }

/-- The sign in front of a good result, and of a bad one. -/
def goodSign : String := "✓"
def badSign : String := "✗"

/-- Say that the configuration is valid, and what it says. -/
def printValid (c : AppConfig) : Act Unit := do
  let names := Value.sortTexts ((Entries.keys (c.components.asEntries?.getD [])).map (·.text))
  let store := c.sharedStore.asEntries?.getD []
  let listed := if names.isEmpty then "none" else ", ".intercalate names
  Act.printLine s!"{goodSign} Configuration validation passed"
  Act.printLine s!"  - Cluster: {c.clusterName.text}"
  Act.printLine s!"  - Components: {listed}"
  Act.printLine s!"  - Login identity source: {c.loginIdentity.text}"
  if !store.isEmpty then
    Act.printLine s!"  - Shared filesystem: {(AppConfig.storeKind store).text}"

/-- A line across the page. -/
def rule : String := String.ofList (List.replicate 80 '=')

/-- Show the document with its references expanded. -/
def printMerged (doc : Value) (sharing : Yaml.Sharing) : Act Unit := do
  Act.printLine "\nConfiguration:"
  Act.printLine rule
  if !doc.isWritable then throw (.invalid .numberTooLong)
  Act.printLine (Yaml.write doc sharing)
  Act.printLine rule

/-- The sections of the JSON output that are asked for. -/
def jsonSections (r : ReportRequest) (doc : Value) : Value :=
  let passed := Value.ofFields [("passed", .bool true), ("errors", .list [])]
  .ofFields ((if r.validate then [("validation", passed)] else [])
    ++ if r.showMerged then [("merged_config", doc)] else [])

/-- Print a value as JSON; nothing is printed of one that has a part which is refused. -/
def printJson (style : Json.Style) (v : Value) : Act Unit := do
  Act.printLine (← Act.ofExcept (Json.write style v))

/-- Load and report. -/
def report (r : ReportRequest) : Act Unit := do
  let c ← load r.config .none
  let path ← Act.ofExcept (resolvePath r.config (← get))
  let (written, sharing) ← readShared path
  let doc ← Act.ofExcept (expandDocument (← get).env? written)
  if r.json then printJson Json.pretty (jsonSections r doc)
  else
    if r.validate then printValid c
    if r.showMerged then printMerged doc sharing

/-- Report a failure to load, under a label. -/
def printFailure (r : ReportRequest) (label : String) (f : Failure) : Act Unit := do
  let text ← Act.ofExcept (f.text (← get).words)
  if r.json then
    let text := if label == "Error" then text else s!"{label}: {text}"
    printJson Json.plain (.ofFields [("error", .str text)])
  else
    Act.printErrorLine s!"{badSign} {label}: {text}"
    if r.verbose then
      Act.printErrorLine "Traceback (most recent call last):"

/-- **The configuration tool**: its exit status. -/
def runReport (argv : List String) : Act Nat := do
  let r ← readReportRequest argv
  useToolSink r.verbose
  if !r.validate && !r.showMerged then
    Act.printLine (usageLine reportProgram reportSpecs)
    return 0
  else
    tryCatch (do
      report r
      return 0) fun f => do
      if f.isMissingFile then
        printFailure r "Error" f
        return 1
      else if f.isInvalid then
        printFailure r "Validation error" f
        return 1
      else throw f

end SecureStartup.Config
