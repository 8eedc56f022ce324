import SecureStartup.Disk.Basic

/-!
  Where a path text leads.

  Two questions are answered here, and they differ.

  * `walk` — what an operation on the path finds: names are looked up one after another, every
    directory on the way has to be searchable, links are followed (at most forty), and the outcome is
    an entry, a free place in an existing directory, or a refusal.
  * `canonical` — where the path would lie with all links followed, whether or not anything is
    there: a name that is missing or cannot be looked up stays as it is, and `..` takes one name
    back.  A link that leads back to itself ends the search; the names that are left are then put
    behind it without another look at the disk, and if a loop remains, that is the only failure.
-/

namespace SecureStartup

open SecureStartup.Text

/-- The names in a path text, `.` and `..` included.  A slash at the end leaves an empty name there:
    it asks for a directory. -/
def pathNames (s : String) : List String :=
  let names := ((splitOn '/' s.toList).filter fun p => !p.isEmpty).map String.ofList
  if s.toList.getLast? == some '/' then names ++ [""] else names

/-- Whether a path text starts at the root. -/
def startsAtRoot (s : String) : Bool := s.toList.head? == some '/'

/-- The longest name and the longest path, in bytes. -/
def maxName : Nat := 255
def maxPath : Nat := 4096

/-- How many links are followed on the way. -/
def maxLinks : Nat := 40

/-- What a walk is for: the entry that a path names, even a link; the entry that it leads to; or a
    place for a file that may be new. -/
inductive Aim where
  | name
  | target
  | newFile
  deriving DecidableEq, Repr

/-- What a walk ends at. -/
inductive Place where
  /-- An entry. -/
  | found (at_ : Location) (entry : Entry)
  /-- No entry, but a directory that could hold one. -/
  | free (dir : Location) (name : String)
  deriving Repr

namespace Disk

/-! ## Walking -/

/-- Look up names one after another from a location.  A link at the very end is followed unless the
    walk is for the name.  A new file cannot have a name that asks for a directory, and is refused
    before the name is looked up. -/
def walkFrom (d : Disk) (aim : Aim) (links : Nat) (here : Location) (names : List String) :
    Except Refusal Place :=
  match d.entryAt? here with
  | none => .error .noEntry
  | some entry =>
    match names with
    | [] => .ok (.found here entry)
    | name :: rest =>
      match entry with
      | .directory mode =>
        -- what follows the last name can only be empty names, the wish for a directory
        let isLast := rest.all (·.isEmpty)
        if name == "" then walkFrom d aim links here rest
        else if !maySearch mode then .error .denied
        else if aim == .newFile && isLast && !rest.isEmpty then .error .isDirectory
        else if name == "." then walkFrom d aim links here rest
        else if name == ".." then walkFrom d aim links here.dropLast rest
        else if maxName < name.utf8ByteSize then .error .nameTooLong
        else
          match d.entryAt? (here ++ [name]) with
          | none => if isLast then .ok (.free here name) else .error .noEntry
          | some (.link target) =>
            if rest.isEmpty && aim == .name then .ok (.found (here ++ [name]) (.link target))
            else
              match links with
              | 0 => .error .tooManyLinks
              -- the names of the link come first, seen from its directory, or from the root
              | links + 1 =>
                walkFrom d aim links (if startsAtRoot target then [] else here)
                  (pathNames target ++ rest)
          | some _ => walkFrom d aim links (here ++ [name]) rest
      | _ => .error .notDirectory
termination_by (links, names.length)

/-- **What an operation on a path text finds**, seen from a working directory. -/
def walk (d : Disk) (cwd : Location) (path : String) (aim : Aim) : Except Refusal Place :=
  if path == "" then .error .noEntry
  else if maxPath ≤ path.utf8ByteSize then .error .nameTooLong
  else walkFrom d aim maxLinks (if startsAtRoot path then [] else cwd) (pathNames path)

/-! ## The canonical location -/

/-- A location and how a search spells it: from the root, or from the working directory. -/
abbrev Spelled := Bool × Location

/-- The locations that are not being followed right now, in either spelling: what bounds the search
    below. -/
def linksLeft (d : Disk) (active : List Spelled) : Nat :=
  ((d.entries.flatMap fun e => [(true, e.1), (false, e.1)]).filter
    fun l => !active.contains l).length

/-- Of a list, one more member left out leaves fewer. -/
theorem length_filter_cons_lt {l : Spelled} {active : List Spelled} :
    (xs : List Spelled) → l ∈ xs → active.contains l = false →
    (xs.filter fun x => !(l :: active).contains x).length
      < (xs.filter fun x => !active.contains x).length
  | [], h, _ => by cases h
  | x :: xs, hx, ha => by
    -- Whatever else is in the list is counted less with one link more that is active.
    have mono : (xs.filter fun y => !(l :: active).contains y).length
        ≤ (xs.filter fun y => !active.contains y).length := by
      rw [← List.countP_eq_length_filter, ← List.countP_eq_length_filter]
      apply List.countP_mono_left
      intro y _ hy
      simp_all
    rcases List.mem_cons.1 hx with rfl | hx'
    · rw [List.filter_cons_of_neg (by simp), List.filter_cons_of_pos (by simpa using ha)]
      simp only [List.length_cons]
      omega
    · have lt := length_filter_cons_lt xs hx' ha
      by_cases new : (!(l :: active).contains x) = true <;>
        by_cases old : (!active.contains x) = true
      · rw [List.filter_cons, List.filter_cons, if_pos new, if_pos old, List.length_cons,
          List.length_cons]
        omega
      · simp at new old
        exact absurd old new.2
      · rw [List.filter_cons, List.filter_cons, if_neg new, if_pos old, List.length_cons]
        omega
      · rw [List.filter_cons, List.filter_cons, if_neg new, if_neg old]
        exact lt

/-- Following one more link of the disk leaves fewer. -/
theorem linksLeft_lt (d : Disk) {active : List Spelled} {rooted : Bool} {l : Location} {e : Entry}
    (h : (l, e) ∈ d.entries) (ha : active.contains (rooted, l) = false) :
    d.linksLeft ((rooted, l) :: active) < d.linksLeft active := by
  apply length_filter_cons_lt _ _ ha
  refine List.mem_flatMap.2 ⟨(l, e), h, ?_⟩
  cases rooted <;> simp

/-- The target of a link at a location. -/
def link? (d : Disk) (l : Location) : Option String :=
  match d.entries.find? fun e => e.1 == l with
  | some (_, .link target) => some target
  | _ => none

/-- A link is one of the disk's entries. -/
theorem mem_of_link? {d : Disk} {l : Location} {t : String} (h : d.link? l = some t) :
    (l, Entry.link t) ∈ d.entries := by
  unfold link? at h
  split at h
  · rename_i l' t' hf
    have hm := List.mem_of_find?_eq_some hf
    have hl := List.find?_some hf
    simp only [beq_iff_eq] at hl
    subst hl
    simp only [Option.some.injEq] at h
    subst h
    exact hm
  · cases h

/-- Whether names can be looked up at a location: it and all directories above it may be searched. -/
def isSearchable (d : Disk) (l : Location) : Bool :=
  (List.range (l.length + 1)).all fun n =>
    match d.entryAt? (l.take n) with
    | some (.directory mode) => maySearch mode
    | _ => false

/-- The target of a link, if it can be seen. -/
def visibleLink? (d : Disk) (dir : Location) (name : String) : Option String :=
  if d.isSearchable dir then d.link? (dir ++ [name]) else none

/-- A link that can be seen is one of the disk's entries. -/
theorem mem_of_visibleLink? {d : Disk} {l : Location} {n t : String}
    (h : d.visibleLink? l n = some t) : (l ++ [n], Entry.link t) ∈ d.entries := by
  unfold visibleLink? at h
  split at h
  · exact mem_of_link? h
  · cases h

/-- The parts of a path text between slashes, empty ones included; the slash at the root is not
    counted. -/
def pathPieces (s : String) : List String :=
  match s.toList with
  | '/' :: r => (splitOn '/' r).map String.ofList
  | r => (splitOn '/' r).map String.ofList

/-- Pieces put behind a location as text: pieces that begin with an empty one start at the root. -/
def behind (l : Location) (pieces : List String) : List String :=
  match pieces with
  | "" :: _ :: _ => pieces
  | _ => l ++ pieces

/-- Names are followed from a location, links and all; `active` are the links being followed.  When a
    link leads back to itself, the answer is its location with the pieces that were left behind it.
    A link that was reached from the working directory and leads to itself from the root counts as
    another the first time, so `rooted` says how the location came to be spelled. -/
def canonicalFrom (d : Disk) (active : List Spelled) (rooted : Bool) (here : Location)
    (pieces : List String) : Except (List String) Spelled :=
  match pieces with
  | [] => .ok (rooted, here)
  | name :: rest =>
    if name == "" || name == "." then canonicalFrom d active rooted here rest
    else if name == ".." then canonicalFrom d active rooted here.dropLast rest
    else
      match _h : d.visibleLink? here name with
      | none => canonicalFrom d active rooted (here ++ [name]) rest
      | some target =>
        let link := (rooted, here ++ [name])
        if _ha : active.contains link then .error (behind (here ++ [name]) rest)
        else
          let (rooted, start) := if startsAtRoot target then (true, []) else (rooted, here)
          match canonicalFrom d (link :: active) rooted start (pathPieces target) with
          | .ok (rooted, there) => canonicalFrom d active rooted there rest
          | .error loop => .error (behind loop rest)
termination_by (d.linksLeft active, pieces.length)
decreasing_by
  all_goals simp_wf
  · exact Prod.Lex.right _ (by omega)
  · exact Prod.Lex.right _ (by omega)
  · exact Prod.Lex.right _ (by omega)
  · exact Prod.Lex.left _ _ (linksLeft_lt d (mem_of_visibleLink? _h) (by simpa using _ha))
  · exact Prod.Lex.right _ (by omega)

/-- The text of a location. -/
def locationText (l : Location) : String := "/" ++ "/".intercalate l

/-- **The canonical location** of a path text, seen from a working directory; a failure names the
    location that a loop leaves. -/
def canonical (d : Disk) (cwd : Location) (path : String) : Except Location Location :=
  let rooted := startsAtRoot path
  match canonicalFrom d [] rooted (if rooted then [] else cwd) (pathPieces path) with
  | .ok (_, l) => .ok l
  | .error pieces =>
    let l := (PurePath.ofString (locationText pieces)).collapsed.parts.map String.ofList
    match d.walk cwd (locationText l) .target with
    | .error .tooManyLinks => .error l
    | _ => .ok l

end Disk

end SecureStartup
