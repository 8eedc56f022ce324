import SecureStartup.Config.Settings
import SecureStartup.Host.TempDir
import SecureStartup.Store.Basic

/-!
  Staging a keytab: a private copy of a shared keytab on the host (`SecureKeytabFetcher`).

  A staging makes a directory of its own, `keytab-MILLISECONDS-RANDOM`, that only the owner may
  enter, copies the keytab into it, and takes away the right to write the copy.  Every step is
  complete before the next one starts, nothing is retried, and nothing is cleaned up: a directory
  that exists already is a failure.

    * `ofRoot` — the constructor.  Without a staging root it asks for the directory for temporary
      files, which has to be found then;
    * `newDir` — `new_staging_dir`, one reading of the clock and one random suffix;
    * `createDir` — `_create_staging_dir`: `makeDir`, then `setMode`;
    * `protect` — `_set_mode`, for the directory and for the staged file;
    * `fetch` — the method of the same name.

  The mode of the directory is set once more after it was made: what making it gives is the mode that
  was asked for less the rights that the process withholds (`Host.granted`), and with an unusual umask
  not even the owner could enter the directory then.

  Failures of the system while a directory is made or a mode is set become failures of staging
  (`stagingStep`), with the system's failure behind them; those of building a path and of copying pass
  through.  `makeDir` and `setMode` can be told to fail at a certain call (`takeFault`), so that every
  schedule of faults is a host.
-/

namespace SecureStartup

/-- The mode of a staging directory: all rights for the owner, none for others. -/
def stagingDirMode : Nat := 0o700

/-- The mode of a staged keytab: the owner may read it. -/
def stagedKeytabMode : Nat := 0o400

/-- A mode as text. -/
def modeText (mode : Nat) : String := "0o" ++ String.ofList (Nat.toDigits 8 mode)

/-- A stager, by the directory that its staging directories are made in. -/
structure KeytabStager where
  root : PurePath
  deriving Inhabited

namespace KeytabStager

/-- The logger of a stager. -/
def logger : String := "core.security.keytab"

/-- The stager for a configured root.  If none is given, it is the directory for temporary files,
    which has to be found now. -/
def ofRoot (root : Value) : Act KeytabStager := do
  if root.truthy then return ⟨← Act.ofExcept root.asPath⟩
  else return ⟨.ofString (← Act.tempDir)⟩

/-- The next reading of the millisecond clock. -/
def reading : Act Int := do
  let h ← get
  let (r, rest) := Host.takeNext h.readings
  set { h with readings := rest }
  return r.getD (Int.fdiv h.nanos 1000000)

/-- The next random suffix. -/
def suffix : Act String := do
  let h ← get
  let (s, rest) := Host.takeNext h.suffixes
  set { h with suffixes := rest }
  return s.getD (h.randomHex 8)

/-- A fresh staging directory's path; nothing is made yet. -/
def newDir (s : KeytabStager) : Act PurePath := do
  let ms ← reading
  let token ← suffix
  let cwd := PurePath.ofString (Disk.locationText (← get).workDir)
  return (cwd.join s.root).child s!"keytab-{ms}-{token}"

/-- Turn a system failure into the failure of a staging step, which says why; other failures pass. -/
def stagingStep (issue : (reason : String) → SetupIssue) (act : Act Unit) : Act Unit :=
  tryCatch act fun f => do
    if f.isSystem then
      let reason ← Act.ofExcept (f.reason (← get).words)
      throw (.setup (issue reason) (some f))
    else throw f

/-- The first prepared fault of a list, and the rest of the list. -/
def takeFault (fs : List (Option Fault)) : Option Failure × List (Option Fault) :=
  (fs.head?.join.map (·.failure), fs.drop 1)

/-- Make a directory, unless a fault is due. -/
def makeDir (path : String) : Act Unit := do
  Act.note (.makeDir path (modeText stagingDirMode))
  let h ← get
  let (fault, rest) := takeFault h.makeDirFaults
  set { h with makeDirFaults := rest }
  match fault with
  | some f => throw f
  | none => Act.changeDisk path fun d cwd => d.makeDir cwd path (h.granted stagingDirMode)

/-- Set a mode, unless a fault is due. -/
def setMode (path : String) (mode : Nat) : Act Unit := do
  Act.note (.setMode path (modeText mode))
  let (fault, rest) := takeFault (← get).setModeFaults
  modify fun h => { h with setModeFaults := rest }
  match fault with
  | some f => throw f
  | none => Act.changeDisk path fun d cwd => d.setMode cwd path mode

/-- Set the mode of something staged. -/
def protect (path : String) (mode : Nat) : Act Unit :=
  stagingStep (.cannotProtect path (modeText mode)) (setMode path mode)

/-- Make a staging directory. -/
def createDir (s : KeytabStager) : Act PurePath := do
  let dir ← s.newDir
  stagingStep (.cannotCreate dir.text) (makeDir dir.text)
  -- making a directory holds back rights, so the mode is set once more
  protect dir.text stagingDirMode
  return dir

/-- The name of a staged keytab: the last part of its path in the store, else of its own name. -/
def fileName (remote : String) (keytab : Value) : Except Failure String := do
  let name := (PurePath.ofString remote).name
  if name == "" then return (← keytab.asPath).name else return name

/-- **Stage a keytab**: the path of a private, read-only copy of the keytab of a cluster. -/
def fetch (s : KeytabStager) (store : SharedStore) (keytab cluster : Value) : Act String := do
  let dir ← s.createDir
  Act.log logger Log.debug "Created keytab staging directory"
    [("staging_dir", .str dir.text), ("file_mode", .str (modeText stagingDirMode))]
  let remote ← store.build keytab cluster
  let file := (dir.child (← Act.ofExcept (fileName remote keytab))).text
  store.copy remote file false
  -- only now: the copy itself needs the right to write
  protect file stagedKeytabMode
  Act.log logger Log.info "Staged keytab from shared filesystem"
    [("keytab_name", keytab), ("remote_path", .str remote), ("keytab_path", .str file),
     ("file_mode", .str (modeText stagedKeytabMode))]
  return file

end KeytabStager

end SecureStartup
