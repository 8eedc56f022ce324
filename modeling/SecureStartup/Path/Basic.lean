import SecureStartup.Text.Split

/-!
  Paths as texts: taking them apart and putting them together without looking at a disk.

  A path is a root (`""`, `/`, or exactly two slashes) and a list of parts.  Repeated slashes and `.`
  parts go, `..` stays, and the empty path is written `.`; so the text of a parsed path is its
  normal form, and parsing it again changes nothing.

  `appendPath` is another way to put paths together, on texts: it keeps every slash and every `.` as it
  was written.  The layout of a store is made in this way (`build_keytab_path`), while the places of
  staging directories and log files are made of parsed paths (`PurePath.join`).
-/

namespace SecureStartup

open SecureStartup.Text

/-- The parts of a path text: what stands between slashes, empty and `.` parts left out. -/
def pathParts (s : List Char) : List (List Char) :=
  (splitOn '/' s).filter fun p => !(p == [] || p == ['.'])

/-- A parsed path. -/
structure PurePath where
  /-- Nothing, one slash or two slashes. -/
  root : List Char
  parts : List (List Char)
  deriving DecidableEq, Inhabited, Repr

namespace PurePath

/-- The root that a text begins with: exactly two slashes are kept as they are, three or more are
    one. -/
def rootOf : List Char → List Char
  | '/' :: '/' :: '/' :: _ => ['/']
  | '/' :: '/' :: _ => ['/', '/']
  | '/' :: _ => ['/']
  | _ => []

/-- Parse a text. -/
def ofText (s : List Char) : PurePath := ⟨rootOf s, pathParts s⟩

/-- Parse a string. -/
def ofString (s : String) : PurePath := ofText s.toList

/-- The normal text of a path. -/
def text (p : PurePath) : String :=
  match p.root ++ joinWith ['/'] p.parts with
  | [] => "."
  | cs => String.ofList cs

/-- Whether a path starts at the root. -/
def isAbsolute (p : PurePath) : Bool := !p.root.isEmpty

/-- One path below another; an absolute path stands for itself. -/
def join (p q : PurePath) : PurePath :=
  if q.isAbsolute then q else ⟨p.root, p.parts ++ q.parts⟩

/-- A path below another, given as text. -/
def child (p : PurePath) (s : String) : PurePath := p.join (ofString s)

/-- The last part, or nothing. -/
def name (p : PurePath) : String := String.ofList (p.parts.getLast?.getD [])

/-- The path without its last part. -/
def parent (p : PurePath) : PurePath := ⟨p.root, p.parts.dropLast⟩

end PurePath

/-- The normal form of a path text. -/
def normalPath (s : String) : String := (PurePath.ofString s).text

/-- Put a text below a base as texts: one slash between them unless the base ends in one; an
    absolute text stands for itself. -/
def appendPath (base part : List Char) : List Char :=
  match part with
  | '/' :: _ => part
  | _ =>
    match base.getLast? with
    | none | some '/' => base ++ part
    | some _ => base ++ '/' :: part

/-- Follow `..` without looking at a disk: each drops the part before it; at the root it is lost,
    and in front of a relative path it stays. -/
def collapse (absolute : Bool) (parts : List (List Char)) : List (List Char) :=
  (parts.foldl step []).reverse
where
  /-- One part onto the reversed result. -/
  step (acc : List (List Char)) (p : List Char) : List (List Char) :=
    if p == ['.', '.'] then
      match acc with
      | [] => if absolute then [] else [p]
      | q :: r => if q == ['.', '.'] then p :: acc else r
    else p :: acc

/-- A path with `..` followed lexically. -/
def PurePath.collapsed (p : PurePath) : PurePath := ⟨p.root, collapse p.isAbsolute p.parts⟩

end SecureStartup
