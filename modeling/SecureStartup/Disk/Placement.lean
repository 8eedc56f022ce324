import SecureStartup.Disk.Operations

/-!
  Putting files, directories and links in place.

  A placement names a path; the directories above it are made as needed.  Tests and sessions arrange a
  disk in this way, and so does everything that says "let there be a file": a placement obeys the modes
  of the directories, and can be refused.
-/

namespace SecureStartup

/-- What is to be at a path. -/
inductive Placement where
  | file (path content : String)
  | directory (path : String)
  | link (path target : String)
  /-- Nothing: what is there goes. -/
  | gone (path : String)
  deriving Inhabited

namespace Disk

/-- Make a directory and those above it. -/
def makeDirsAt (d : Disk) (withheld : Nat) (cwd : Location) (path : String) : Except Refusal Disk :=
  let p := PurePath.ofString path
  match makeDirs (grantedMode withheld 0o777) cwd (p.parts.length + 1) d p with
  | .ok d => .ok d
  | .error (r, _) => .error r

/-- Remove what is at a path, with everything below it. -/
def remove (d : Disk) (cwd : Location) (path : String) : Except Refusal Disk := do
  let (l, e) ← d.lstat cwd path
  match e with
  | .directory _ =>
    let d := d.empty? (d.entries.length + 1) l
    if (d.names l).isEmpty && d.mayChange l.dropLast then return d.drop l else throw .denied
  | _ => d.unlink cwd path

/-- Put one thing in place, seen from a directory, by a process that withholds some rights. -/
def place (d : Disk) (withheld : Nat) (cwd : Location) (p : Placement) : Except Refusal Disk := do
  let above := fun (path : String) => d.makeDirsAt withheld cwd (PurePath.ofString path).parent.text
  match p with
  | .file path content => (← above path).write (grantedMode withheld 0o666) cwd path content
  | .directory path => d.makeDirsAt withheld cwd path
  | .link path target => (← above path).makeLink cwd target path
  | .gone path => d.remove cwd path

/-- Put several things in place, one after another. -/
def placeAll (d : Disk) (withheld : Nat) (cwd : Location) (ps : List Placement) :
    Except Refusal Disk :=
  ps.foldlM (fun d p => d.place withheld cwd p) d

end Disk

end SecureStartup
