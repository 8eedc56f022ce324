import SecureStartup.Config.Settings
import SecureStartup.Store.Basic
import SecureStartup.Store.Layout

/-!
  A shared store that is mounted on the host (`LocalSharedFileSystem`).

  The store is a directory, known by its canonical location (`at_`, the constructor).  A path may only
  be read from it when its own canonical location, all links followed, is that directory or lies below
  it (`locate`, which is `_validate_remote_path`).

  1. **Locate.**  `resolve` asks for the canonical location, which fails for a text that is no path, and
     for a link that leads back to itself.
  2. **Copy.**  `copyFile` is `shutil.copyfile`, with its own order of checks: the two paths must not be
     one file, neither may be a named pipe, and the source is opened before the target.  Bytes that could
     be read are written even if the source then ends before its end.
  3. **Log**, and then
  4. **Remove** the source, if that was asked for (`copy`, which is `copy_to_local`).

  The canonical location is found first and the file is opened afterwards by the path of that location:
  what is copied is what lies there then.
-/

namespace SecureStartup.Store

/-- A store mounted on the host, by its canonical location. -/
structure LocalStore where
  base : Location
  deriving DecidableEq, Inhabited, Repr

/-- The canonical location of a path on the host. -/
def resolve (path : String) : Act Location := do
  Act.checkPath path
  let h ← get
  match h.disk.canonical h.workDir path with
  | .ok l => return l
  | .error loop => throw (.linkLoop (Disk.locationText loop))

/-- Whether two places hold one file. -/
def isSame : Location × Entry → Location × Entry → Bool
  | (_, .file a), (_, .file b) => a == b
  | (l, .directory _), (m, .directory _) => l == m
  | (l, .special _), (m, .special _) => l == m
  | _, _ => false

/-- Named pipes are not copied. -/
def refusePipe (d : Disk) (cwd : Location) (path : String) : Except Failure Unit :=
  match d.stat cwd path with
  | .ok (_, .special s) =>
    if s.isPipe then .error (.systemText "SpecialFileError" s!"\x60{path}\x60 is a named pipe")
    else .ok ()
  | _ => .ok ()

/-- How a copy fails whose bytes cannot be written: the two paths are named when the space on the
    target's device has run out. -/
def writeTrouble (r : Refusal) (source target : String) : Failure :=
  let places : List Value :=
    match r with
    | .noSpace => [.path source, .none, .str target]
    | _ => []
  .system (systemKind r.code) ([.int r.code, .str r.text] ++ places)

/-- How a copy fails whose bytes cannot be read to the end. -/
def readTrouble (r : Refusal) : Failure := .system (systemKind r.code) [.int r.code, .str r.text]

/-- How a copy fails whose target cannot be opened.  That a directory is in the way is said as it is,
    unless the text only ends in a slash and nothing is there. -/
def openTrouble (d : Disk) (cwd : Location) (r : Refusal) (target : String) : Failure :=
  match r, d.stat cwd target with
  | .isDirectory, .error _ =>
    .systemText "FileNotFoundError" s!"Directory does not exist: {target}"
  | r, _ => .refused r target

/-- Copy a file to a path (`shutil.copyfile`).  A file is not copied onto itself, a named pipe not at
    all; then the source is opened, so its failure wins over the target's.  What can be read of the
    source is written, even if it ends before its end. -/
def copyFile (source target : String) : Act Unit := do
  Act.checkPath target
  let h ← get
  match h.disk.stat h.workDir source, h.disk.stat h.workDir target with
  | .ok a, .ok b => if isSame a b then throw (.sameFile source target)
  | _, _ => pure ()
  Act.ofExcept (refusePipe h.disk h.workDir source)
  Act.ofExcept (refusePipe h.disk h.workDir target)
  let (text, rest) ← Act.onDisk source fun d cwd => d.readOut cwd source
  match h.disk.openForWriting (h.granted 0o666) h.workDir target with
  | .error r => throw (openTrouble h.disk h.workDir r target)
  | .ok (o, d) =>
    set { h with disk := d }
    match d.fill o text with
    | .error r => throw (writeTrouble r source target)
    | .ok d =>
      set { h with disk := d }
      if let some r := rest then throw (readTrouble r)

namespace LocalStore

/-- The store at a path. -/
def at_ (path : Value) : Act LocalStore := do
  let p ← Act.ofExcept path.asPath
  return ⟨← resolve p.text⟩

/-- The path of the store. -/
def path (s : LocalStore) : String := Disk.locationText s.base

/-- How a store is shown. -/
def shown (s : LocalStore) : String := s!"LocalSharedFileSystem(base_path={Text.quoted s.path})"

/-- The canonical location of a path of the store. -/
def locate (s : LocalStore) (remote : String) : Act Location := do
  let l ← resolve (normalPath remote)
  if s.base.isPrefixOf l then return l else throw (.invalid (.escapesStore remote))

/-- **Copy a file of the store** to a path of the host. -/
def copy (s : LocalStore) (remote target : String) (deleteSource : Bool) : Act Unit := do
  let source := Disk.locationText (← s.locate remote)
  copyFile source target
  Act.log "core.storage.filesystem" Log.debug "Copied file from shared filesystem"
    [("remote_path", .str source), ("keytab_path", .str target), ("shared_fs", .str "local")]
  if deleteSource then
    Act.changeDisk source fun d cwd => d.unlink cwd source

/-- The store by its two operations. -/
def shared (s : LocalStore) : SharedStore where
  build keytab cluster := Act.ofExcept (keytabPath (.str s.path) cluster keytab)
  copy := s.copy

end LocalStore

end SecureStartup.Store
