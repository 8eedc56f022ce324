import SecureStartup.Startup.Run
import SecureStartup.Store.Connect

/-!
  The start-up program on the command line.

  All decisions are made by `Startup.run` on a value of type `Host`; what is left for this layer is to
  read such a value from the machine and to carry out afterwards what the run changed in it.  The
  program sees the files below its working directory and the system's directory for temporary files,
  and the environment variables that start-up knows or that some file there refers to.  The arguments
  after `config` go to the configuration tool.

  The readers of YAML and of environment files, and the clients of HDFS, are the ones that this library
  has itself.

  Nothing is proved about this layer.  It is kept so thin that it can be read: no branch in it depends
  on a setting, and what a run asks of its surroundings only afterwards happens here.
-/

namespace SecureStartup.Machine

open SecureStartup.Config

/-- Directories below the working directory that are looked into, one inside another. -/
def depth : Nat := 12

/-- Put what lies in a directory on a disk. -/
def readEntries : Nat → List IO.FS.DirEntry → Location → Disk → IO Disk
  | 0, _, _, d => return d
  | fuel + 1, entries, at_, d =>
    entries.foldlM (fun d e => do
      try
        let here := at_ ++ [Text.spelled e.fileName]
        match (← e.path.metadata).type with
        | .dir =>
          readEntries fuel (← e.path.readDir).toList here (d.put here (.directory 0o755))
        | .file =>
          let content ← IO.FS.readFile e.path
          let d := (d.setData d.nextId ⟨0o644, Text.spelled content⟩).put here (.file d.nextId)
          return { d with nextId := d.nextId + 1 }
        | _ => return d
      catch _ => return d) d

/-- A disk with the working directory and what lies below it. -/
def readDisk (cwd : Location) : IO Disk := do
  let above := (List.range (cwd.length + 1)).filter (0 < ·)
  let d := Disk.empty.put ["tmp"] (.directory 0o777)
  let d := above.foldl (fun d n => d.put (cwd.take n) (.directory 0o755)) d
  readEntries depth (← (← IO.currentDir).readDir).toList cwd d

/-- The variables that start-up itself knows. -/
def knownVariables : List String :=
  [pathVariable, "CLUSTER_NAME", "LOG_DIR"] ++ userVariables ++ Host.tempVariables

/-- The names of the references in a text. -/
def referredTo (text : String) : List String :=
  (pieces text.toList).filterMap fun p =>
    match p with
    | .reference r => some (String.ofList r.name)
    | _ => none

/-- The environment, as far as it matters for what is on a disk. -/
def readEnvironment (d : Disk) : IO (List (String × String)) := do
  let names := (knownVariables ++ d.files.flatMap fun f => referredTo f.2.content).eraseDups
  names.filterMapM fun n => do
    return (← IO.getEnv (Text.plainText n)).map fun v => (n, Text.spelled v)

/-- The time, from the stamp of a new file. -/
def readClock : IO (Nat × Nat) := do
  let (_, path) ← IO.FS.createTempFile
  let t := (← path.metadata).modified
  IO.FS.removeFile path
  return (t.sec.toNat, t.nsec.toNat)

/-- Random hexadecimal digits. -/
def readToken : IO String := do
  let bytes ← IO.getRandomBytes 16
  return String.ofList (bytes.toList.flatMap fun b => Text.paddedHex 2 b.toNat)

/-- The host that the program runs on. -/
def readHost : IO Host := do
  let cwd := (pathNames (Text.spelled (← IO.currentDir).toString)).filter (· != "")
  let d ← readDisk cwd
  let (seconds, nanos) ← readClock
  return {
    env := ← readEnvironment d
    disk := d
    workDir := cwd
    home := Disk.locationText cwd
    now := .ofEpoch seconds nanos
    nanos := seconds * 1000000000 + nanos
    token := ← readToken
    yaml := Yaml.readShared
    dotenv := EnvFile.readVariables }

/-- The rights that a mode gives. -/
def rightsOf (mode : Nat) : IO.FileRight :=
  let rights := fun (n : Nat) =>
    { read := n / 4 % 2 == 1, write := n / 2 % 2 == 1, execution := n % 2 == 1 : IO.AccessRight }
  { user := rights (mode / 64), group := rights (mode / 8), other := rights mode }

/-- Carry out one entry of a disk that was not there before, or not like this. -/
def carryOut (before after : Disk) (l : Location) (e : Entry) : IO Unit := do
  let path := Text.plainText (Disk.locationText l)
  match e with
  | .directory mode =>
    if before.entryAt? l != some e then
      IO.FS.createDirAll path
      IO.setAccessRights path (rightsOf mode)
  | .file id =>
    if before.data? id != after.data? id then
      if let some f := after.data? id then
        IO.FS.writeFile path (Text.plainText f.content)
        IO.setAccessRights path (rightsOf f.mode)
  | .link _ | .special _ => return ()

/-- Carry out what changed on a disk, directories before what is in them. -/
def carryOutAll (before after : Disk) : IO Unit := do
  let entries := after.entries.mergeSort fun a b => a.1.length ≤ b.1.length
  entries.forM fun (l, e) => carryOut before after l e

/-- Run an action on the machine's host: its exit code. -/
def perform (act : Act Nat) : IO UInt32 := do
  let before ← readHost
  let (r, after) := act.on before
  IO.print (Text.plainText after.out)
  IO.eprint (Text.plainText after.err)
  carryOutAll before.disk after.disk
  match r with
  | .ok code => return code.toUInt32
  | .error (.exit code) => return code.toUInt32
  | .error f =>
    let text := match f.text after.words with
      | .ok text => text
      | .error _ => "<exception str() failed>"
    IO.eprintln (Text.plainText s!"{f.name}: {text}")
    return 1

end SecureStartup.Machine

/-- The command line. -/
def main (args : List String) : IO UInt32 :=
  match args.map SecureStartup.Text.spelled with
  | "config" :: rest => SecureStartup.Machine.perform (SecureStartup.Config.runReport rest)
  | args => SecureStartup.Machine.perform (SecureStartup.Startup.run args none SecureStartup.Store.connect)
