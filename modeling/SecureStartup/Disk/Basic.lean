import SecureStartup.Failure.System
import SecureStartup.Path.Basic
import SecureStartup.Text.Code

/-!
  A disk: directories, files, symbolic links and special files, with the modes that the owner is held
  to.

  A `Location` is the list of names from the root down to an entry, so every entry has exactly one
  location and "below" is "has as a leading part".  A file entry refers to its data by number, so two
  entries can be one file.  A special file (a device, a named pipe, a socket) has no data of its own:
  it is described by what reading it gives and by what becomes of what is written to it.

  All operations of `Disk` on locations are total and unconditional; who may do what, and where a
  path text leads, is decided in `Disk.Walk` and `Disk.Operations`.

  Modes are numbers, and only the owner's three bits are ever asked for (`mayRead`, `mayWrite`,
  `maySearch`): start-up runs as one user without privileges, who owns what it makes.  The entries are a
  list without an order that means anything; where one location stood twice, the first would count.
-/

namespace SecureStartup

/-- Names from the root down. -/
abbrev Location := List String

/-- A special file: a device, a named pipe or a socket.  What is written to it is gone, and reading
    it gives what it gives, every time. -/
structure Special where
  mode : Nat
  /-- It is a named pipe. -/
  isPipe : Bool := false
  /-- Why it cannot be opened, if it cannot: sockets are never opened by path. -/
  closed : Option Refusal := none
  /-- What reading it gives. -/
  gives : String := ""
  /-- Why reading ends there, if not because that was all. -/
  breaks : Option Refusal := none
  /-- Why nothing can be written to it, if nothing can. -/
  full : Option Refusal := none
  deriving DecidableEq, Inhabited, Repr

/-- What a location may hold. -/
inductive Entry where
  | directory (mode : Nat)
  | file (id : Nat)
  | link (target : String)
  | special (s : Special)
  deriving DecidableEq, Inhabited, Repr

/-- The data of a file. -/
structure FileData where
  mode : Nat
  content : String
  deriving DecidableEq, Inhabited, Repr

/-- All entries with their locations (the root directory is always there), and the files' data. -/
structure Disk where
  entries : List (Location × Entry)
  files : List (Nat × FileData)
  /-- A number that no file has. -/
  nextId : Nat
  deriving Inhabited, Repr

namespace Disk

/-- A disk with nothing but a root that may be read. -/
def empty : Disk := ⟨[], [], 0⟩

/-- The mode of the root directory. -/
def rootMode : Nat := 0o555

/-- The entry at a location. -/
def entryAt? (d : Disk) (l : Location) : Option Entry :=
  if l.isEmpty then some (.directory rootMode)
  else (d.entries.find? fun e => e.1 == l).map (·.2)

/-- The data of a file. -/
def data? (d : Disk) (id : Nat) : Option FileData :=
  (d.files.find? fun f => f.1 == id).map (·.2)

/-- Put an entry at a location, in place of the one that is there. -/
def put (d : Disk) (l : Location) (e : Entry) : Disk :=
  { d with entries := (l, e) :: d.entries.filter fun x => x.1 != l }

/-- Remove the entry at a location. -/
def drop (d : Disk) (l : Location) : Disk :=
  { d with entries := d.entries.filter fun x => x.1 != l }

/-- Set the data of a file. -/
def setData (d : Disk) (id : Nat) (f : FileData) : Disk :=
  { d with files := (id, f) :: d.files.filter fun x => x.1 != id }

/-- Put a new and empty file at a location, with a number of its own. -/
def addFile (d : Disk) (l : Location) (mode : Nat) : Disk :=
  { (d.setData d.nextId ⟨mode, ""⟩).put l (.file d.nextId) with nextId := d.nextId + 1 }

/-- The names in a directory, in order. -/
def names (d : Disk) (l : Location) : List String :=
  ((d.entries.filter fun e => e.1.length == l.length + 1 && l.isPrefixOf e.1).map fun e =>
    e.1.getLast?.getD "").mergeSort fun a b => Text.lexLE a.toList b.toList

/-! ## Modes -/

/-- The owner may read. -/
def mayRead (mode : Nat) : Bool := mode / 0o400 % 2 == 1

/-- The owner may write. -/
def mayWrite (mode : Nat) : Bool := mode / 0o200 % 2 == 1

/-- The owner may search a directory. -/
def maySearch (mode : Nat) : Bool := mode / 0o100 % 2 == 1

/-- The mode of an entry; links have none of their own. -/
def modeOf (d : Disk) : Entry → Nat
  | .directory m => m
  | .file id => ((d.data? id).map (·.mode)).getD 0
  | .link _ => 0o777
  | .special s => s.mode

/-! ## One lemma per operation -/

/-- Dropping the entries at one location hides nothing elsewhere. -/
theorem find?_filter_ne {α : Type} (xs : List (Location × α)) {l l' : Location} (h : l' ≠ l) :
    (xs.filter fun x => x.1 != l).find? (fun x => x.1 == l') = xs.find? fun x => x.1 == l' := by
  induction xs with
  | nil => rfl
  | cons x xs ih =>
    by_cases hx : x.1 = l
    · have : (x.1 == l') = false := by simpa [hx] using Ne.symm h
      simp [hx, ih, Ne.symm h]
    · by_cases hx' : x.1 = l' <;> simp [List.find?_cons, hx, hx', ih]
      simp [h]

/-- What was put is found, except at the root. -/
theorem entryAt?_put_self (d : Disk) (l : Location) (e : Entry) (h : l ≠ []) :
    (d.put l e).entryAt? l = some e := by
  have hl : l.isEmpty = false := by simpa using h
  simp [entryAt?, put, hl]

/-- Elsewhere nothing changes. -/
theorem entryAt?_put_of_ne (d : Disk) {l l' : Location} (e : Entry) (h : l' ≠ l) :
    (d.put l e).entryAt? l' = d.entryAt? l' := by
  have hl : (l == l') = false := by simpa using Ne.symm h
  simp only [entryAt?, put, List.find?_cons, hl]
  split
  · rfl
  · rw [find?_filter_ne _ h]

/-- What was set is read. -/
theorem data?_setData_self (d : Disk) (id : Nat) (f : FileData) :
    (d.setData id f).data? id = some f := by
  simp [data?, setData]

end Disk

end SecureStartup
