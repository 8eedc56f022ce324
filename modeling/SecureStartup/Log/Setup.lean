import SecureStartup.Config.Settings
import SecureStartup.Host.Basic
import SecureStartup.Text.UpperCase

/-!
  Setting up logging (`setup_logging`, `get_log_file_path`, `generate_trace_id`).

  Console lines always go to standard output.  With a log directory there is a file too, in a folder
  for the cluster and the day: `DIR/CLUSTER/2026-01-05/CLUSTER_COMPONENT_0105_1430.log`.  The context
  of the lines is set first, and a set-up that fails later leaves it and the console in place.

    * `filePath` — `get_log_file_path`: the names of cluster and component go into it unchecked;
    * `newTrace` — `generate_trace_id`;
    * `Plan` — the arguments of `setup_logging`, with its defaults;
    * `asLevel`, `noisyLoggers` — the levels, of the console and of two talkative libraries;
    * `addFile` — the directories, the log file, and its place among the sinks;
    * `setUp` — `setup_logging`.

  The log file is opened before it is known whether the period that it is written to for makes sense
  (`periodOf`), and a new file at its path takes its place when a period is over (`Log.Rotation`).
-/

namespace SecureStartup.Log

open SecureStartup.Text

/-- The name that stands for a cluster without one. -/
def defaultName : String := "amsecurity"

/-- **The path of a log file.** -/
def filePath (dir : PurePath) (cluster component : Value) (now : DateTime) :
    Except Failure PurePath := do
  let lead := cluster.orElse (.str defaultName)
  let base :=
    if component.truthy then s!"{lead.text}_{component.text}_{now.fileStamp}"
    else s!"{lead.text}_{now.fileStamp}"
  let folder ← lead.asPath
  return ((dir.join folder).child (String.ofList now.date.logText)).child (base ++ ".log")

/-- A new trace id. -/
def newTrace (h : Host) : String := s!"s-{h.now.traceStamp}-{h.randomHex 4}"

/-- How logging is to be set up. -/
structure Plan where
  name : Value := .str defaultName
  cluster : Value := .none
  component : Value := .none
  dir : Option PurePath := none
  json : Value := .bool true
  consoleLevel : Value := .int info
  fileLevel : Value := .int debug
  /-- When a log file is put aside and a new one begun. -/
  rotation : Value := .str "midnight"
  /-- How many log files that were put aside are kept. -/
  keep : Int := 7
  quiet : Value := .bool true
  trace : Value := .none
  deriving Inhabited

/-- The words that stand for levels. -/
def levelWords : List (String × Int) :=
  [("CRITICAL", critical), ("FATAL", critical), ("ERROR", error), ("WARN", warning),
   ("WARNING", warning), ("INFO", info), ("DEBUG", debug), ("NOTSET", 0)]

/-- A value as a level. -/
def asLevel (v : Value) : Except Failure Int :=
  match v with
  | .str s =>
    match levelWords.find? fun w => w.1 == s with
    | some (_, n) => .ok n
    | none => .error (.invalid (.other s!"Unknown level: {quoted s}"))
  | _ =>
    match v.asInt? with
    | some n => .ok n
    | none => .error (.mismatch .wrongType)

/-- The loggers that talk too much, and the level that they are held to. -/
def noisyLoggers : List (String × Int) :=
  [("urllib3", warning), ("requests", warning), ("hdfs.client", warning), ("hdfs.util", warning)]

/-- The units of the times at which log files are put aside; midnight is the end of a day. -/
def periodWords : List (String × Period) :=
  [("S", .second), ("M", .minute), ("H", .hour), ("D", .day), ("MIDNIGHT", .day)]

/-- What a log file is written to for, by the time at which it is put aside: a unit, midnight, or a
    day of the week. -/
def periodOf (v : Value) : Except Failure Period :=
  match v with
  | .str s =>
    let word := Text.upperText s.toList
    let text := String.ofList word
    match periodWords.find? fun w => w.1 == text with
    | some (_, p) => .ok p
    | none =>
      match word with
      | 'W' :: rest =>
        match rest with
        | [d] =>
          if '0' ≤ d && d ≤ '6' then .ok .day
          else .error (.invalid (.other s!"Invalid day specified for weekly rollover: {text}"))
        | _ => .error (.invalid (.other
            s!"You must specify a day for weekly rollover from 0 to 6 (0 is Monday): {text}"))
      | _ => .error (.invalid (.other s!"Invalid rollover interval specified: {text}"))
  | _ => .error (.mismatch .noPart)

/-- Open a log file, with the directories above it: its absolute path. -/
def openFile (file : PurePath) : Act String := do
  let h ← get
  let folder := file.parent
  Act.checkPath folder.text
  match Disk.makeDirs (h.granted 0o777) h.workDir (folder.parts.length + 1) h.disk folder with
  | .error (r, path) => throw (.refused r path)
  | .ok d => set { h with disk := d }
  let cwd := PurePath.ofString (Disk.locationText h.workDir)
  let path := (cwd.join file).collapsed.text
  Act.changeDisk path fun d cwd => (·.2) <$> d.openForWriting (h.granted 0o666) cwd path
  return path

/-- Change the state of logging. -/
def change (f : LogState → LogState) : Act Unit := modify fun h => { h with log := f h.log }

/-- Add a log file to the places that records go to: its path as it was planned. -/
def addFile (plan : Plan) (dir : PurePath) : Act PurePath := do
  let file ← Act.ofExcept (filePath dir plan.cluster plan.component (← get).now)
  let path ← openFile file
  let period ← Act.ofExcept (periodOf plan.rotation)
  let level ← Act.ofExcept (asLevel plan.fileLevel)
  let target : LogFile := ⟨path, plan.json.truthy, period, plan.keep⟩
  change fun s => { s with sinks := s.sinks ++ [.file level target] }
  return file

/-- The name of a logger; the one without a name is the root. -/
def loggerName (name : Value) : Except Failure String :=
  if !name.truthy then .ok "root"
  else
    match name with
    | .str s => .ok s
    | _ => .error (.mismatch .wrongType)

/-- **Set up logging**: the name of the logger that was asked for. -/
def setUp (plan : Plan) : Act String := do
  let trace := plan.trace.orElse (.str (newTrace (← get)))
  change fun s => { s with context := s.context.update plan.cluster plan.component trace }
  let level ← Act.ofExcept (asLevel plan.consoleLevel)
  change fun s => { s with rootLevel := debug, sinks := [.console level] }
  let file ← plan.dir.mapM (addFile plan)
  if plan.quiet.truthy then
    change fun s => { s with
      levels := s.levels.filter (fun l => !noisyLoggers.any fun n => n.1 == l.1) ++ noisyLoggers }
  let name ← Act.ofExcept (loggerName plan.name)
  let text := match file with
    | none => "Logging initialized: console only"
    | some f => s!"Logging initialized: file={f.text}, json={plan.json.text}"
  Act.log name debug text []
  return name

/-- Make a call on a logger. -/
def perform (call : Except Failure Record) : Act Unit := do
  let r ← Act.ofExcept call
  modify (·.logRecord r)

end SecureStartup.Log
