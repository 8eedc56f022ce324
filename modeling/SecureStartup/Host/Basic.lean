import SecureStartup.EnvFile.Variables
import SecureStartup.Log.ConsoleLine
import SecureStartup.Log.JsonLine
import SecureStartup.Log.Rotation
import SecureStartup.Yaml.Document

/-!
  The host that start-up runs on.

  Everything start-up depends on or changes is part of one value: the environment, the disk, the
  clock, the user database, the credential cache, what was written to the standard streams, the log,
  and the trace of EVENTS, the questions and requests that the security set-up made, in order.  What is
  not decided in this library at all, the readers of YAML and of environment files, the words that the
  runtime has for a mistake, the names that it tries, is a function of the host.

  `Act α` is an action on a host that gives an `α` or fails; the changes that were made before a
  failure stay made.  There is no other state in the library, so "nothing else changes" can be said.

  Time does not pass on a host.  What would come from outside in the course of a run is prepared in it:
  answers to lookups, readings of the clock, random suffixes, faults of single calls, the turns of log
  files.  A statement about all hosts is therefore one about all schedules of these.

  Logging is part of the host and not of an action's result: a record that cannot be written is said on
  the error stream, and the action goes on (`formatTrouble`).
-/

namespace SecureStartup

/-! ## What start-up asks of its surroundings -/

/-- One request, recorded before it is answered. -/
inductive Event where
  /-- A file that is made and deleted again to see whether a directory may be written. -/
  | probe (path : String)
  | makeDir (path mode : String)
  | setMode (path mode : String)
  | lookUp
  | which (name : String)
  | run (argv : List String)
  | build (keytab cluster : Value)
  | copy (remote target : String) (deleteSource : Bool)
  | download (remote target : String) (overwrite : Bool)
  | delete (remote : String)
  deriving Inhabited

/-- What a program that was run left behind. -/
structure RunResult where
  status : Int
  out : String
  err : String
  deriving Inhabited

/-- The tool that lists the credential cache: where it is, and what running it gives. -/
structure CacheLister where
  place : Option String
  outcome : Except Failure RunResult

instance : Inhabited CacheLister := ⟨⟨none, .ok ⟨0, "", ""⟩⟩⟩

/-! ## Where log records go -/

/-- A place that log records are written to. -/
inductive Sink where
  /-- Console lines on standard output. -/
  | console (level : Int)
  /-- Lines in a file, as JSON or plain; the file is put aside from time to time. -/
  | file (level : Int) (file : Log.LogFile)
  /-- Level and message on the error stream. -/
  | tool
  deriving Inhabited

/-- The state of logging. -/
structure LogState where
  context : Log.Context := {}
  /-- Records below this level are dropped, unless their logger has a level of its own. -/
  rootLevel : Int := Log.warning
  /-- Loggers (and all below them) with a level of their own. -/
  levels : List (String × Int) := []
  sinks : List Sink := []
  /-- Every record made, whether or not it was written anywhere, latest first. -/
  made : List Log.Record := []
  deriving Inhabited

/-! ## The host -/

/-- A host. -/
structure Host where
  /-- The environment: names and values. -/
  env : List (String × String) := []
  disk : Disk := Disk.empty
  /-- The working directory. -/
  workDir : Location := []
  /-- The rights that are withheld from everything that is made (the umask). -/
  withheld : Nat := 0o022
  /-- The directory for temporary files, once it has been found. -/
  tempDir : Option String := none
  /-- The names that are tried in a directory, to see whether it may be written. -/
  probeName : String → Nat → String := fun _ n => "tmp" ++ toString n
  /-- The directory that the default files lie in. -/
  home : String := "/"
  now : DateTime := ⟨⟨1970, 1, 1⟩, 0, 0, 0, 0, none⟩
  /-- Nanoseconds since the epoch. -/
  nanos : Int := 0
  /-- Where random hexadecimal digits come from. -/
  token : String := ""
  /-- The user's name in the user database. -/
  userRecord : Option String := none
  lister : CacheLister := default
  /-- What a prepared identity provider answers next (a user name or none), the last answer
      repeating. -/
  answers : List (Except Failure (Option String)) := []
  /-- Readings of the millisecond clock to come, the last one repeating; none: from `nanos`. -/
  readings : List Int := []
  /-- Random suffixes to come, the last one repeating; none: from `token`. -/
  suffixes : List String := []
  /-- Failures of the next attempts to make a directory, and to set a mode, of the keytab
      stager. -/
  makeDirFaults : List (Option Fault) := []
  setModeFaults : List (Option Fault) := []
  /-- Whether, before the record with this number, a period of the log file is over, and when it
      began. -/
  logTurns : Nat → Option DateTime := fun _ => none
  /-- The reader of YAML: the value of a text, and which of its places hold one thing. -/
  yaml : String → Except Failure (Value × Yaml.Sharing) := Yaml.readShared
  /-- The reader of environment files: the lines that it cannot read, and the variables, which may
      refer to those of an environment. -/
  dotenv : (String → Option String) → String → List Nat × EnvFile.Variables :=
    EnvFile.readVariables
  /-- The runtime's words for a failure of its own making. -/
  words : Failure → String := Failure.name
  /-- Events so far, latest first. -/
  trace : List Event := []
  log : LogState := {}
  /-- What was written to standard output and to the error stream. -/
  out : String := ""
  err : String := ""
  deriving Inhabited

/-- An action on a host. -/
abbrev Act (α : Type) := ExceptT Failure (StateM Host) α

namespace Act

/-- The outcome of an action and the host afterwards. -/
def on {α : Type} (act : Act α) (h : Host) : Except Failure α × Host := act.run h

/-- Turn a failure or a value into an action. -/
def ofExcept {α : Type} : Except Failure α → Act α
  | .ok a => pure a
  | .error f => throw f

/-- A path that there can be something at. -/
def checkPath (path : String) : Act Unit :=
  match Invalid.forSystem? path with
  | some why => throw (.invalid why)
  | none => return ()

/-- An operation on the disk that a refusal of which is reported with the path as it was given. -/
def onDisk {α : Type} (path : String) (op : Disk → Location → Except Refusal α) : Act α := do
  checkPath path
  let h ← get
  match op h.disk h.workDir with
  | .ok a => pure a
  | .error r => throw (.refused r path)

/-- An operation that changes the disk. -/
def changeDisk (path : String) (op : Disk → Location → Except Refusal Disk) : Act Unit := do
  let d ← onDisk path op
  modify fun h => { h with disk := d }

end Act

namespace Host

/-- The value of an environment variable. -/
def env? (h : Host) (name : String) : Option String :=
  (h.env.find? fun e => e.1 == name).map (·.2)

/-- The default configuration file. -/
def defaultConfig (h : Host) : String := normalPath (h.home ++ "/config/config.yaml")

/-- The file of additional environment variables. -/
def envFile (h : Host) : String := normalPath (h.home ++ "/.env")

/-- The events so far, in order. -/
def events (h : Host) : List Event := h.trace.reverse

/-- The log records so far, in order. -/
def records (h : Host) : List Log.Record := h.log.made.reverse

/-- The first `n` random hexadecimal digits. -/
def randomHex (h : Host) (n : Nat) : String := String.ofList (Text.takeLetters n h.token.toList)

/-- The first of some prepared values, and those that are left: the last one stays. -/
def takeNext {α : Type} : List α → Option α × List α
  | [] => (none, [])
  | [x] => (some x, [x])
  | x :: xs => (some x, xs)

/-- The mode that a new entry gets when this one is asked for. -/
def granted (h : Host) (mode : Nat) : Nat := Disk.grantedMode h.withheld mode

/-- Write to standard output. -/
def print (h : Host) (s : String) : Host := { h with out := h.out ++ s }

/-- Write to the error stream. -/
def printError (h : Host) (s : String) : Host := { h with err := h.err ++ s }

/-- Record an event. -/
def note (h : Host) (e : Event) : Host := { h with trace := e :: h.trace }

/-! ## Logging -/

/-- Whether a logger is one of a name's own or lies below it. -/
def isAtOrBelow (logger name : String) : Bool :=
  logger == name || Text.startsWith (name ++ ".").toList logger.toList

/-- The level that a logger's records have to reach. -/
def levelFor (s : LogState) (logger : String) : Int :=
  ((s.levels.find? fun l => isAtOrBelow logger l.1).map (·.2)).getD s.rootLevel

/-- A record that a sink could not format or write: the error stream says so. -/
def formatTrouble (h : Host) : Host :=
  h.printError "--- Logging error ---\nTraceback (most recent call last):\n"

/-- Put a log file aside if its period is over; whether it can be written to now. -/
def turn (h : Host) (file : Log.LogFile) : Bool × Host :=
  match h.logTurns h.log.made.length with
  | none => (true, h)
  | some began =>
    let (r, d) := (file.putAside (h.granted 0o666) h.workDir began).run h.disk
    (r.isOk, { h with disk := d })

/-- Write a record's line at the end of a log file. -/
def writeLine (h : Host) (file : Log.LogFile) (r : Log.Record) : Host :=
  match if file.json then Log.jsonLine h.now h.log.context r else .ok (Log.plainLine h.now r) with
  | .ok line =>
    match h.disk.append (h.granted 0o666) h.workDir file.path (line ++ "\n") with
    | .ok d => { h with disk := d }
    | .error _ => h.formatTrouble
  | .error _ => h.formatTrouble

/-- Write a record to a sink. -/
def write (h : Host) (r : Log.Record) (sink : Sink) : Host :=
  match sink with
  | .console level =>
    if r.level < level then h
    else
      match Log.consoleLine false h.now h.log.context r with
      | .ok line => h.print (line ++ "\n")
      | .error _ => h.formatTrouble
  | .file level file =>
    if r.level < level then h
    else
      match h.turn file with
      | (true, h) => h.writeLine file r
      | (false, h) => h.formatTrouble
  | .tool => h.printError (Log.toolLine r ++ "\n")

/-- **Log a record**: it is remembered, and written to every sink when its level is high enough.
    While there is no sink, warnings and errors go to the error stream. -/
def logRecord (h : Host) (r : Log.Record) : Host :=
  let h := { h with log := { h.log with made := r :: h.log.made } }
  if r.level < levelFor h.log r.logger then h
  else
    match h.log.sinks with
    | [] => if Log.warning ≤ r.level then h.printError (Log.bareLine r ++ "\n") else h
    | sinks => sinks.foldl (fun h s => h.write r s) h

end Host

namespace Act

/-- Record an event. -/
def note (e : Event) : Act Unit := modify (·.note e)

/-- Log a message with fields. -/
def log (logger : String) (level : Int) (message : String)
    (fields : List (String × Value)) : Act Unit :=
  modify (·.logRecord
    { logger := logger, level := level, message := message, file := logger
      extras := fields.map fun f => (.str f.1, f.2) })

/-- Print a line on standard output. -/
def printLine (s : String) : Act Unit := modify (·.print (s ++ "\n"))

/-- Print a line on the error stream. -/
def printErrorLine (s : String) : Act Unit := modify (·.printError (s ++ "\n"))

end Act

end SecureStartup
