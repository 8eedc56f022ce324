import SecureStartup.Disk.Walk

/-!
  What can be done with a disk by path.

  Every operation walks to its place first and refuses for the walk's reasons; then come its own
  rules: a new name needs a directory that may be written and searched, reading needs a readable
  file, writing an existing file needs a writable one.

  A new entry has the mode that the operation is given.  What a process asks for is one thing and what
  it gets another: it withholds rights from everything that it makes (`grantedMode`), and only setting
  a mode afterwards is exact (`setMode`).

  Reading can end early and writing can be refused half-way.  `readOut` gives what could be read, with
  the refusal that ended it; opening for writing empties the file at once, and what is then written is a
  step of its own (`openForWriting`, `fill`).  Special files take part in both.
-/

namespace SecureStartup.Disk

open SecureStartup.Text

/-! ## Looking -/

/-- The entry that a path leads to, links followed. -/
def stat (d : Disk) (cwd : Location) (path : String) : Except Refusal (Location × Entry) :=
  match d.walk cwd path .target with
  | .ok (.found l e) => .ok (l, e)
  | .ok (.free _ _) => .error .noEntry
  | .error r => .error r

/-- The entry itself, even when it is a link. -/
def lstat (d : Disk) (cwd : Location) (path : String) : Except Refusal (Location × Entry) :=
  match d.walk cwd path .name with
  | .ok (.found l e) => .ok (l, e)
  | .ok (.free _ _) => .error .noEntry
  | .error r => .error r

/-- Reasons that count as "not there" when one only looks. -/
def meansAbsent : Refusal → Bool
  | .noEntry | .notDirectory | .tooManyLinks => true
  | _ => false

/-- Whether something is there.  Refusals that do not mean absence are handed on. -/
def exists? (d : Disk) (cwd : Location) (path : String) : Except Refusal Bool :=
  match d.stat cwd path with
  | .ok _ => .ok true
  | .error r => if meansAbsent r then .ok false else .error r

/-- Whether there is a directory. -/
def isDirectory? (d : Disk) (cwd : Location) (path : String) : Except Refusal Bool :=
  match d.stat cwd path with
  | .ok (_, .directory _) => .ok true
  | .ok _ => .ok false
  | .error r => if meansAbsent r then .ok false else .error r

/-- Whether there is a regular file; every refusal means no. -/
def isFile (d : Disk) (cwd : Location) (path : String) : Bool :=
  match d.stat cwd path with
  | .ok (_, .file _) => true
  | _ => false

/-! ## Directories and modes -/

/-- The mode of a new entry: the one that was asked for, less the rights that are withheld. -/
def grantedMode (withheld mode : Nat) : Nat := mode &&& (0o777 ^^^ (withheld &&& 0o777))

/-- Whether a directory may get or lose names. -/
def mayChange (d : Disk) (dir : Location) : Bool :=
  match d.entryAt? dir with
  | some (.directory m) => mayWrite m && maySearch m
  | _ => false

/-- Make a directory, which gets just this mode. -/
def makeDir (d : Disk) (cwd : Location) (path : String) (mode : Nat) : Except Refusal Disk := do
  match ← d.walk cwd path .name with
  | .found _ _ => throw .exists
  | .free dir name =>
    if d.mayChange dir then return d.put (dir ++ [name]) (.directory mode)
    else throw .denied

/-- Set the mode of what a path leads to. -/
def setMode (d : Disk) (cwd : Location) (path : String) (mode : Nat) : Except Refusal Disk := do
  let (l, e) ← d.stat cwd path
  match e with
  | .directory _ => return d.put l (.directory mode)
  | .file id =>
    match d.data? id with
    | some f => return d.setData id { f with mode := mode }
    | none => return d
  | .link _ => return d
  | .special s => return d.put l (.special { s with mode := mode })

/-! ## Files -/

/-- What reading gives from beginning to end, and why it ends there if there would be more. -/
def readOut (d : Disk) (cwd : Location) (path : String) :
    Except Refusal (String × Option Refusal) := do
  let (_, e) ← d.stat cwd path
  if !mayRead (d.modeOf e) then throw .denied
  match e with
  | .file id => return (((d.data? id).map (·.content)).getD "", none)
  | .special s =>
    match s.closed with
    | some r => throw r
    | none => return (s.gives, s.breaks)
  | _ => throw .isDirectory

/-- The content of a file, which has to be readable to its end. -/
def read (d : Disk) (cwd : Location) (path : String) : Except Refusal String := do
  match ← d.readOut cwd path with
  | (text, none) => return text
  | (_, some r) => throw r

/-- What a path that was opened for writing leads to. -/
inductive Opened where
  | file (id : Nat)
  | special (s : Special)
  deriving DecidableEq, Inhabited, Repr

/-- Open a path for writing: what is there, or a new file of the mode `fresh`.  A path that asks for a
    directory is refused. -/
def openForWriting (d : Disk) (fresh : Nat) (cwd : Location) (path : String) :
    Except Refusal (Opened × Disk) := do
  match ← d.walk cwd path .newFile with
  | .found _ (.file id) =>
    if mayWrite (d.modeOf (.file id)) then return (.file id, d) else throw .denied
  | .found _ (.special s) =>
    if !mayWrite s.mode then throw .denied
    match s.closed with
    | some r => throw r
    | none => return (.special s, d)
  | .found _ _ => throw .isDirectory
  | .free dir name =>
    if d.mayChange dir then return (.file d.nextId, d.addFile (dir ++ [name]) fresh)
    else throw .denied

/-- Replace the content of an open file. -/
def setContent (d : Disk) (id : Nat) (content : String) : Disk :=
  match d.data? id with
  | some f => d.setData id { f with content := content }
  | none => d

/-- Write to what was opened: a file then holds just this text, and a special file has swallowed it,
    if it takes anything. -/
def fill (d : Disk) (o : Opened) (content : String) : Except Refusal Disk :=
  match o with
  | .file id => .ok (d.setContent id content)
  | .special s =>
    match s.full with
    | some r => if content == "" then .ok d else .error r
    | none => .ok d

/-- What was opened holds so far. -/
def held (d : Disk) : Opened → String
  | .file id => ((d.data? id).map (·.content)).getD ""
  | .special _ => ""

/-- Write a file, replacing what it held. -/
def write (d : Disk) (fresh : Nat) (cwd : Location) (path content : String) :
    Except Refusal Disk := do
  let (o, d) ← d.openForWriting fresh cwd path
  d.fill o content

/-- Write at the end of a file. -/
def append (d : Disk) (fresh : Nat) (cwd : Location) (path content : String) :
    Except Refusal Disk := do
  let (o, d) ← d.openForWriting fresh cwd path
  d.fill o (d.held o ++ content)

/-- Remove a name. -/
def unlink (d : Disk) (cwd : Location) (path : String) : Except Refusal Disk := do
  let (l, e) ← d.lstat cwd path
  if !d.mayChange l.dropLast then throw .denied
  match e with
  | .directory _ => throw .isDirectory
  | _ => return d.drop l

/-- Make a symbolic link. -/
def makeLink (d : Disk) (cwd : Location) (target path : String) : Except Refusal Disk := do
  if target == "" then throw .noEntry
  match ← d.walk cwd path .name with
  | .found _ _ => throw .exists
  | .free dir name =>
    if d.mayChange dir then return d.put (dir ++ [name]) (.link target) else throw .denied

/-! ## Whole trees -/

/-- Make a directory and the missing ones above it, all of one mode.  What is there already is fine;
    anything else in the way is refused with the path concerned.  `fuel` bounds the parts of the
    path. -/
def makeDirs (mode : Nat) (cwd : Location) : Nat → Disk → PurePath → Except (Refusal × String) Disk
  | 0, _, p => .error (.noEntry, p.text)
  | fuel + 1, d, p =>
    match d.makeDir cwd p.text mode with
    | .ok d => .ok d
    | .error .noEntry =>
      if p.parent == p then .error (.noEntry, p.text)
      else do
        let d ← makeDirs mode cwd fuel d p.parent
        match d.makeDir cwd p.text mode with
        | .ok d => .ok d
        | .error r => accept d p r
    | .error r => accept d p r
where
  /-- A directory in the way is none. -/
  accept (d : Disk) (p : PurePath) (r : Refusal) : Except (Refusal × String) Disk :=
    match d.isDirectory? cwd p.text with
    | .ok true => .ok d
    | .ok false => .error (r, p.text)
    | .error r' => .error (r', p.text)

/-- Remove everything in a directory as far as that is allowed, and keep the rest: a directory that
    cannot be listed or searched keeps its entries, and with them itself. -/
def empty? (d : Disk) (fuel : Nat) (dir : Location) : Disk :=
  match fuel with
  | 0 => d
  | fuel + 1 =>
    match d.entryAt? dir with
    | some (.directory m) =>
      if !mayRead m || !maySearch m then d
      else (d.names dir).foldl (fun d name => removeAt d fuel (dir ++ [name]) (mayWrite m)) d
    | _ => d
where
  /-- Remove one entry, with everything below it. -/
  removeAt (d : Disk) (fuel : Nat) (l : Location) (allowed : Bool) : Disk :=
    match d.entryAt? l with
    | some (.directory _) =>
      let d := empty? d fuel l
      if allowed && (d.names l).isEmpty then d.drop l else d
    | some _ => if allowed then d.drop l else d
    | none => d

end SecureStartup.Disk
