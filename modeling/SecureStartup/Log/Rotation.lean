import SecureStartup.Disk.Operations
import SecureStartup.Time.Calendar

/-!
  Log files that are put aside.

  A log file is written to for a period, a second or a day; when the period is over, what was written
  is put aside under a name that says when the period began, `NAME.2026-01-05`, the oldest files that
  were put aside are deleted, and a new file takes their place.  This is what the runtime's
  `TimedRotatingFileHandler` does, which `setup_logging` hands its log file to.

  A turn (`putAside`) is a series of requests to the system:

  1. delete what has the name already, then give the file this name, if it is there;
  2. list the directory, and delete the files that are outdated: of those whose names are the file's
     with a stamp behind it (`isAside`), all but the latest `keep`;
  3. open a new file at the path.

  Each may be refused, which ends the turn (`Requests`).  What was done before stays done, and the next
  record tries again.  Whether a turn is due is a matter of time, and the host's to say (`Host.logTurns`).
-/

namespace SecureStartup

namespace Disk

/-! ## Names in one directory -/

/-- The directory that a path names something in, and the name. -/
def nameOf (d : Disk) (cwd : Location) (path : String) : Except Refusal (Location × String) := do
  match ← d.walk cwd path .name with
  | .found l _ => return (l.dropLast, l.getLast?.getD "")
  | .free dir name => return (dir, name)

/-- Delete a name of a directory. -/
def removeName (d : Disk) (dir : Location) (name : String) : Except Refusal Disk :=
  match d.entryAt? (dir ++ [name]) with
  | none => .error .noEntry
  | some (.directory _) => if d.mayChange dir then .error .isDirectory else .error .denied
  | some _ => if d.mayChange dir then .ok (d.drop (dir ++ [name])) else .error .denied

/-- Give something that is no directory another name in its directory; what had the name is gone. -/
def rename (d : Disk) (dir : Location) (old new : String) : Except Refusal Disk :=
  if maxName < new.utf8ByteSize then .error .nameTooLong
  else
    match d.entryAt? (dir ++ [old]), d.entryAt? (dir ++ [new]) with
    | none, _ => .error .noEntry
    | some (.directory _), _ | _, some (.directory _) => .error .isDirectory
    | some e, _ =>
      if d.mayChange dir then .ok ((d.drop (dir ++ [old])).put (dir ++ [new]) e) else .error .denied

/-- The names in a directory, for who may read it. -/
def list (d : Disk) (dir : Location) : Except Refusal (List String) :=
  match d.entryAt? dir with
  | some (.directory m) => if mayRead m then .ok (d.names dir) else .error .denied
  | some _ => .error .notDirectory
  | none => .error .noEntry

/-- Requests that change a disk.  The first one that is refused ends them, and those before it are
    done. -/
abbrev Requests (α : Type) := ExceptT Refusal (StateM Disk) α

namespace Requests

/-- The disk as it is. -/
def look : Requests Disk := get

/-- One request. -/
def make (op : Disk → Except Refusal Disk) : Requests Unit := fun d =>
  match op d with
  | .ok d => (.ok (), d)
  | .error r => (.error r, d)

/-- A question. -/
def ask {α : Type} (question : Disk → Except Refusal α) : Requests α := fun d => (question d, d)

end Requests

end Disk

namespace Log

open SecureStartup.Text

/-! ## Periods -/

/-- What a log file is written to for. -/
inductive Period where
  | second
  | minute
  | hour
  | day
  deriving DecidableEq, Inhabited, Repr

namespace Period

/-- How many groups of two digits stand behind the date. -/
def groups : Period → Nat
  | second => 3
  | minute => 2
  | hour => 1
  | day => 0

/-- The beginning of a period, as it stands behind the name of a log file: the date, and as much of
    the time as tells one period from the next, `2026-01-05_14-30-07`. -/
def stamp (p : Period) (t : DateTime) : List Char :=
  let time := ([t.hour, t.minute, t.second].take p.groups).map (padded 2)
  t.date.logText ++ (if time.isEmpty then [] else '_' :: ['-'].intercalate time)

/-- The shape of a stamp, with `0` for every digit. -/
def shape (p : Period) : List Char :=
  "0000-00-00".toList
    ++ (if p.groups == 0 then [] else '_' :: ['-'].intercalate (List.replicate p.groups ['0', '0']))

/-- Whether a text has the shape of a stamp.  A line break at its end does not count. -/
def isStamp (p : Period) (s : List Char) : Bool :=
  let seen := s.map fun c => if isAsciiDigit c then '0' else c
  seen == p.shape || seen == p.shape ++ ['\n']

end Period

/-! ## Log files -/

/-- A log file: its path, whether its lines are JSON, how long it is written to, and how many files
    that were put aside are kept (all of them, if that is no positive number). -/
structure LogFile where
  path : String
  json : Bool
  period : Period := .day
  keep : Int := 7
  deriving Inhabited, Repr

namespace LogFile

/-- What follows a name when it is put aside. -/
def suffix (f : LogFile) (began : DateTime) : String := "." ++ String.ofList (f.period.stamp began)

/-- A name without what its last dot begins, unless nothing but dots is in front of that. -/
def stem (name : List Char) : List Char :=
  let ending := (name.reverse.takeWhile (· != '.')).reverse
  let lead := (name.take (name.length - ending.length)).dropLast
  if lead.all (· == '.') then name else lead

/-- Whether a name is one that a log file may have been put aside under. -/
def isAside (f : LogFile) (name other : String) : Bool :=
  startsWith name.toList other.toList &&
    match dropLead (stem name.toList ++ ['.']) other.toList with
    | some rest => (splitOn '.' rest).any f.period.isStamp
    | none => false

/-- The files put aside that are to go, the oldest ones, of the names in a directory. -/
def outdated (f : LogFile) (name : String) (names : List String) : List String :=
  let aside := names.filter (f.isAside name)
  aside.take (aside.length - f.keep.toNat)

/-- Whether a path leads to anything. -/
def isThere (d : Disk) (cwd : Location) (path : String) : Bool :=
  match d.stat cwd path with
  | .ok _ => true
  | .error _ => false

/-- **Put a log file aside** when a period is over that began then, delete the oldest files that were,
    and begin a new one.  Nothing is done to what is there but is no regular file. -/
def putAside (f : LogFile) (fresh : Nat) (cwd : Location) (began : DateTime) :
    Disk.Requests Unit := do
  let d ← Disk.Requests.look
  if isThere d cwd f.path && !d.isFile cwd f.path then return ()
  let (dir, name) ← Disk.Requests.ask (·.nameOf cwd f.path)
  let aside := name ++ f.suffix began
  -- a file that is there under the new name is in the way
  if isThere d cwd (f.path ++ f.suffix began) then
    Disk.Requests.make (·.removeName dir aside)
  if isThere d cwd f.path then
    Disk.Requests.make (·.rename dir name aside)
  if 0 < f.keep then
    let names ← Disk.Requests.ask (·.list dir)
    (f.outdated name names).forM fun old => Disk.Requests.make (·.removeName dir old)
  Disk.Requests.make fun d => (·.2) <$> d.openForWriting fresh cwd f.path

end LogFile

end Log

end SecureStartup
