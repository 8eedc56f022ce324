import SecureStartup.Host.Basic

/-!
  The directory for temporary files (`tempfile.gettempdir`).

  `SecureKeytabFetcher` asks for it when it is given no staging root, in its constructor.  The directory
  is looked for when it is first asked for, and kept.

  1. **Candidates** — `tempCandidates`: the directories that three variables name, those that a system
     has, and the working directory.
  2. **A directory is found fit** by making a file in it and deleting the file again (`usable?`), under a
     name of the runtime's choice; a name that is taken is passed over, any other refusal is the
     directory's.
  3. **The first fit one is the answer** (`findTempDir`).  When none is fit, the search fails.

  The file is gone when the search ends, so the disk is as it was; but it was asked for, and an event
  says so.
-/

namespace SecureStartup

namespace Disk

/-- Whether a file of its own can be made at a path: nothing is there, not even a link. -/
def probe (d : Disk) (cwd : Location) (path : String) : Except Refusal Unit := do
  match ← d.walk cwd path .name with
  | .found _ _ => throw .exists
  | .free dir _ => if d.mayChange dir then return () else throw .denied

/-- Whether files can be made in a directory, and under which of the names.  A name that is taken is
    passed over, every other refusal is the directory's. -/
def usable? (d : Disk) (cwd : Location) (dir : String) : List String → Option String
  | [] => none
  | name :: names =>
    let path := ((PurePath.ofString dir).child name).text
    match d.probe cwd path with
    | .ok () => some path
    | .error .exists => usable? d cwd dir names
    | .error _ => none

end Disk

namespace Host

/-- The variables that may name the directory, in order. -/
def tempVariables : List String := ["TMPDIR", "TEMP", "TMP"]

/-- The directories for temporary files that a system has. -/
def systemTempDirs : List String := ["/tmp", "/var/tmp", "/usr/tmp"]

/-- The directories that are tried, in order. -/
def tempCandidates (h : Host) : List String :=
  (tempVariables.filterMap fun v => (h.env? v).filter (· != ""))
    ++ systemTempDirs ++ [Disk.locationText h.workDir]

/-- A path from the root down, `.` and `..` taken out. -/
def absolutePath (h : Host) (path : String) : String :=
  ((PurePath.ofString (Disk.locationText h.workDir)).join (.ofString path)).collapsed.text

/-- How many names are tried in a directory. -/
def probesPerDir : Nat := 100

/-- The directory for temporary files that a search finds, and the file that it tried. -/
def findTempDir (h : Host) : Option (String × String) :=
  h.tempCandidates.findSome? fun dir =>
    let dir := h.absolutePath dir
    (h.disk.usable? h.workDir dir ((List.range probesPerDir).map (h.probeName dir))).map (dir, ·)

end Host

/-- **The directory for temporary files**, looked for if that has not been done. -/
def Act.tempDir : Act String := do
  let h ← get
  match h.tempDir with
  | some dir => return dir
  | none =>
    match h.findTempDir with
    | some (dir, tried) =>
      Act.note (.probe tried)
      modify fun h => { h with tempDir := some dir }
      return dir
    | none =>
      let tried := (Value.list (h.tempCandidates.map .str)).shown
      throw (.system "FileNotFoundError"
        [.int 2, .str s!"No usable temporary directory found in {tried}"])

end SecureStartup
