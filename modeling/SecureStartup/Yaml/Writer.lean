import SecureStartup.Yaml.Scalar
import SecureStartup.Yaml.Sharing
import SecureStartup.Value.Text

/-!
  Writing a value as a YAML document in block style (`--show-merged`).

  Mappings and sequences stand in lines of their own, except when they are empty; a sequence inside a
  mapping is not indented.  A text is written plain where that reads back as the same text, else in
  single quotes, else, with escapes, in double quotes.  Lines are folded at spaces behind column 80.
  A key that is empty, long or of several lines is written with a question mark.  What stands in
  several places is written at the first and named at the others.

  A `Page` is what was written so far, with the state of its last line, on which it depends what the
  next mark needs in front of it: a space, an indentation, or a line of its own.  Everything is put on
  the page by functions that take a page and give the next one.
-/

namespace SecureStartup.Yaml

open SecureStartup.Text

/-- Lines are folded behind this column. -/
def lineWidth : Nat := 80

/-- A key written without a question mark is shorter than this, its tag included. -/
def simpleKeyWidth : Nat := 128

/-! ## Where the next character goes -/

/-- What is written so far, and the state of the current line. -/
structure Page where
  /-- What is written, the last piece first. -/
  pieces : List (List Char) := []
  column : Nat := 0
  /-- Whether the last character is a blank, or nothing is written on the line. -/
  spaced : Bool := true
  /-- Whether the line has only indentation and collection marks so far. -/
  indenting : Bool := true
  /-- The things that have names. -/
  shared : List Thing := []
  /-- Those of them that have been written. -/
  written : List Thing := []

namespace Page

/-- The text written. -/
def text (p : Page) : String := String.ofList p.pieces.reverse.flatten

/-- Write characters of one line. -/
def put (p : Page) (s : List Char) : Page :=
  { p with pieces := s :: p.pieces, column := p.column + s.length }

/-- End the line. -/
def newline (p : Page) : Page :=
  { p with pieces := ['\n'] :: p.pieces, column := 0, spaced := true, indenting := true }

/-- Go to an indentation, on a new line unless this one is still free there. -/
def indentTo (p : Page) (indent : Nat) : Page :=
  let p :=
    if !p.indenting || indent < p.column || (p.column == indent && !p.spaced) then p.newline else p
  if p.column < indent then
    { (p.put (List.replicate (indent - p.column) ' ')) with spaced := true }
  else p

/-- Write a mark; `apart` puts a blank in front unless there is one. -/
def mark (p : Page) (s : String) (apart keepsIndent : Bool) : Page :=
  let s := s.toList
  { (p.put (if p.spaced || !apart then s else ' ' :: s)) with
    spaced := false, indenting := p.indenting && keepsIndent }

/-- The name of what is in a place, if it has one. -/
def nameOf? (p : Page) (s : Sharing) : Option String := do
  let n ← p.shared.idxOf? (← s.thing?)
  return "id" ++ String.ofList (padded 3 (n + 1))

/-- Begin a place: the name goes first where a thing has one, and a thing that has been written needs
    nothing but its name.  `rest` writes the thing. -/
def place (p : Page) (s : Sharing) (rest : Page → Page) : Page :=
  match p.nameOf? s, s.thing? with
  | some name, some x =>
    if p.written.contains x then p.mark ("*" ++ name) true false
    else rest { p.mark ("&" ++ name) true false with written := x :: p.written }
  | _, _ => rest p

end Page

/-! ## How a text may be written -/

/-- The forms that a text admits. -/
structure Forms where
  multiline : Bool
  plain : Bool
  single : Bool
  literal : Bool

/-- Characters that a plain text cannot start with. -/
def leadMarks : List Char := "#,[]\x7b\x7d&*!|>'\"%@\x60".toList

/-- Whether one of the characters of a text, given what is before and after it, satisfies a
    condition. -/
def anyWithin (p : Option Char → Char → Option Char → Bool) : Option Char → List Char → Bool
  | _, [] => false
  | before, c :: r => p before c r.head? || anyWithin p (some c) r

/-- Whether a text has a mark that ends or changes a plain text. -/
def hasMark (s : List Char) : Bool :=
  let gap := fun (c : Option Char) => (c.map isGap).getD true
  startsWith "---".toList s || startsWith "...".toList s
    || anyWithin (fun before c after =>
      match before with
      | none => leadMarks.contains c || ((c == '?' || c == ':' || c == '-') && gap after)
      | some _ => (c == ':' && gap after) || (c == '#' && gap before)) none s

/-- The forms that a nonempty text admits. -/
def formsOf (s : List Char) : Forms :=
  let broken := s.any fun c => isBreak c && c != '\r'
  let special := s.any fun c => !(c == '\n' || (' ' ≤ c && c ≤ '~'))
  let edge := fun (c : Option Char) => c == some ' ' || c == some '\n'
  let spaceBreak := anyWithin (fun before c _ => before == some ' ' && c == '\n') none s
  let breakSpace := anyWithin (fun before c _ => before == some '\n' && c == ' ') none s
  let bad := spaceBreak || special
  { multiline := broken
    plain := !(edge s.head? || edge s.getLast? || breakSpace || bad || broken || hasMark s)
    single := !(breakSpace || bad)
    literal := !(s.getLast? == some ' ' || bad) }

/-- How a scalar is written. -/
inductive Look where
  | plain
  | single
  | double
  | literal
  deriving DecidableEq

/-- A scalar to be written: the short name of its tag, its text, and whether it is meant to stand in
    lines of its own. -/
structure Scalar where
  tag : String
  text : List Char
  block : Bool := false

namespace Scalar

/-- The forms that a scalar admits. -/
def forms (s : Scalar) : Forms :=
  if s.text.isEmpty then ⟨false, true, true, false⟩ else formsOf s.text

/-- Whether the text reads back with the right tag when it is plain. -/
def isImplied (s : Scalar) : Bool := impliedTag (String.ofList s.text) == standardTag s.tag

/-- The way a scalar is written; a key stands on one line. -/
def look (s : Scalar) (isKey : Bool) : Look :=
  let f := s.forms
  let split := isKey && f.multiline
  if !s.block && s.isImplied && f.plain && !split then .plain
  else if s.block then (if f.literal && !isKey then .literal else .double)
  else if f.single && !split then .single
  else .double

/-- Whether a scalar can be a key without a question mark; its name, if it has one, counts. -/
def isSimpleKey (s : Scalar) (name : Option String) : Bool :=
  (name.getD "").length + s.tag.length + 2 + letterCount s.text < simpleKeyWidth
    && !s.text.isEmpty && !s.forms.multiline

end Scalar

/-! ## Scalars on the page -/

/-- Runs of spaces, of line breaks and of other characters. -/
def runsOf (s : List Char) : List (List Char) :=
  let kind := fun (c : Char) => if c == ' ' then 0 else if c == '\n' then 1 else 2
  s.splitBy fun a b => kind a == kind b

/-- Plain text. -/
def putPlain (p : Page) (s : List Char) (indent : Nat) (fold : Bool) : Page :=
  if s.isEmpty then p
  else
    let p := if p.spaced then p else p.put [' ']
    (runsOf s).foldl (fun p run =>
      if run == [' '] && lineWidth < p.column && fold then
        { (p.indentTo indent) with spaced := false, indenting := false }
      else p.put run) { p with spaced := false, indenting := false }

/-- Runs of a text in single quotes. -/
def putSingleRuns (indent : Nat) (fold : Bool) : Page → Bool → List (List Char) → Page
  | p, _, [] => p
  | p, first, run :: more =>
    let p :=
      if run.head? == some '\n' then
        -- one break more than the text has, since a single one would read as a space
        (run.foldl (fun p _ => p.newline) p.newline).indentTo indent
      else if run == [' '] && lineWidth < p.column && fold && !first && !more.isEmpty then
        p.indentTo indent
      else p.put (run.flatMap fun c => if c == '\'' then ['\'', '\''] else [c])
    putSingleRuns indent fold p false more

/-- A text in single quotes. -/
def putSingle (p : Page) (s : List Char) (indent : Nat) (fold : Bool) : Page :=
  (putSingleRuns indent fold (p.mark "'" true false) true (runsOf s)).mark "'" false false

/-- A hexadecimal number in capitals. -/
def capitalHex (width n : Nat) : List Char := (paddedHex width n).map Char.toUpper

/-- A code that cannot stand in double quotes as it is, escaped. -/
def escaped? (n : Nat) : Option (List Char) :=
  if n != 34 && n != 92 && 32 ≤ n && n ≤ 126 then none
  else
    some ('\\' :: (match n with
      | 0 => ['0']
      | 7 => ['a']
      | 8 => ['b']
      | 9 => ['t']
      | 10 => ['n']
      | 11 => ['v']
      | 12 => ['f']
      | 13 => ['r']
      | 27 => ['e']
      | 34 => ['"']
      | 92 => ['\\']
      | 0x85 => ['N']
      | 0xa0 => ['_']
      | 0x2028 => ['L']
      | 0x2029 => ['P']
      | _ =>
        if n ≤ 0xff then 'x' :: capitalHex 2 n
        else if n ≤ 0xffff then 'u' :: capitalHex 4 n
        else 'U' :: capitalHex 8 n))

/-- The codes of a text in double quotes.  `held` are the characters, last first, that are not on the
    page yet; a line may be folded before a space or next to an escape, but not at either end. -/
def putDoubleCodes (indent : Nat) (fold : Bool) : Page → List Char → Bool → List Nat → Page
  | p, held, _, [] => p.put held.reverse
  | p, held, first, n :: r =>
    let foldHere := fun (p : Page) (held : List Char) (width : Int) (next : Option Nat) =>
      if !first && !r.isEmpty && fold && (n == 32 || held.isEmpty) && (lineWidth : Int) < width then
        let p := (p.put (held.reverse ++ ['\\'])).indentTo indent
        let p := { p with spaced := false, indenting := false }
        some (if next == some 32 then p.put ['\\'] else p)
      else none
    match escaped? n with
    | some e =>
      -- an escape stands on the page at once, so the line may be folded right behind it
      let p := (p.put held.reverse).put e
      let p := (foldHere p [] ((p.column : Int) - 1) r.head?).getD p
      putDoubleCodes indent fold p [] false r
    | none =>
      match foldHere p held (p.column + held.length) (some n) with
      | some p => putDoubleCodes indent fold p [Char.ofNat n] false r
      | none => putDoubleCodes indent fold p (Char.ofNat n :: held) false r

/-- A text in double quotes. -/
def putDouble (p : Page) (s : List Char) (indent : Nat) (fold : Bool) : Page :=
  (putDoubleCodes indent fold (p.mark "\"" true false) [] true (codes s)).mark "\"" false false

/-- A text in lines of its own; it ends with a line break. -/
def putLiteral (p : Page) (s : List Char) (indent : Nat) : Page :=
  ((splitOn '\n' s).filter fun line => !line.isEmpty).foldl
    (fun p line => ((p.indentTo indent).put line).newline) (p.mark "|" true false).newline

/-- The indentation one step deeper. -/
def deeper : Option Nat → Nat
  | none => 0
  | some i => i + 2

/-- A scalar, with its tag where that is not implied. -/
def putScalar (p : Page) (s : Scalar) (indent : Option Nat) (isKey : Bool) : Page :=
  let look := s.look isKey
  let implied := if look == .plain then s.isImplied else s.tag == "str"
  -- a plain scalar's tag follows from its text, a quoted one's is always that of texts
  let p := if implied then p else p.mark ("!!" ++ s.tag) true false
  let indent := (indent.map (· + 2)).getD 2
  match look with
  | .plain => putPlain p s.text indent (!isKey)
  | .single => putSingle p s.text indent (!isKey)
  | .double => putDouble p s.text indent (!isKey)
  | .literal => putLiteral p s.text indent

/-! ## Values -/

/-- The text of a double. -/
def floatText (x : Binary64) : List Char :=
  match x with
  | .nan => ".nan".toList
  | .infinite negative => if negative then "-.inf".toList else ".inf".toList
  | _ =>
    let s := x.text.toList
    if s.contains '.' then s else replace ['e'] ".0e".toList s

/-- A character of base 64. -/
def sixBitChar (n : Nat) : Char :=
  if n < 26 then Char.ofNat (n + 65)
  else if n < 52 then Char.ofNat (n + 71)
  else if n < 62 then Char.ofNat (n - 4)
  else if n == 62 then '+' else '/'

/-- Bytes in base 64. -/
def sixBits : List UInt8 → List Char
  | [] => []
  | [a] =>
    let n := a.toNat
    [sixBitChar (n / 4), sixBitChar (n % 4 * 16), '=', '=']
  | [a, b] =>
    let n := a.toNat * 256 + b.toNat
    [sixBitChar (n / 1024), sixBitChar (n / 16 % 64), sixBitChar (n % 16 * 4), '=']
  | a :: b :: c :: r =>
    let n := (a.toNat * 256 + b.toNat) * 256 + c.toNat
    sixBitChar (n / 262144) :: sixBitChar (n / 4096 % 64) :: sixBitChar (n / 64 % 64)
      :: sixBitChar (n % 64) :: sixBits r

/-- A text in lines of a width, each ended. -/
def inLines (width : Nat) : Nat → List Char → List Char
  | 0, _ => []
  | fuel + 1, s =>
    if s.isEmpty then [] else s.take width ++ '\n' :: inLines width fuel (s.drop width)

/-- The scalar of a value that is one. -/
def scalarOf : Value → Scalar
  | .none => ⟨"null", "null".toList, false⟩
  | .bool b => ⟨"bool", (if b then "true" else "false").toList, false⟩
  | .int i => ⟨"int", (toString i).toList, false⟩
  | .float x => ⟨"float", floatText x, false⟩
  | .bytes bs =>
    let s := sixBits bs
    ⟨"binary", inLines 76 (s.length + 1) s, true⟩
  | .date d => ⟨"timestamp", d.iso, false⟩
  | .datetime t => ⟨"timestamp", (t.textWith ' ').toList, false⟩
  | v => ⟨"str", v.text.toList, false⟩

/-- A key with its colon; what is no simple key stands after a question mark. -/
def putKey (indent : Nat) (k : Value) (s : Sharing) (p : Page) : Page :=
  let key := scalarOf k
  let p := p.indentTo indent
  if key.isSimpleKey (p.nameOf? s) then
    (p.place s fun p => putScalar p key (some indent) true).mark ":" false false
  else
    let p := (p.mark "?" true true).place s fun p => putScalar p key (some indent) false
    (p.indentTo indent).mark ":" true true

/-- The members of a set, as the keys of a mapping to nothing. -/
def putMembers (indent : Nat) : List Value → List Sharing → Page → Page
  | [], _, p => p
  | x :: xs, ss, p =>
    putMembers indent xs ss.tail
      (putScalar (putKey indent x (.first ss) p) (scalarOf .none) (some indent) false)

/-- A set. -/
def putSet (indent : Nat) (xs : List Value) (ss : List Sharing) (p : Page) : Page :=
  let p := p.mark "!!set" true false
  if xs.isEmpty then p.mark "\x7b\x7d" true false else putMembers indent xs ss p

/-- The indentation of a sequence: that of the mapping whose value it is, unless it starts on the
    line of a mark. -/
def sequenceIndent (indent : Option Nat) (inMapping : Bool) (p : Page) : Nat :=
  if inMapping && !p.indenting then indent.getD 0 else deeper indent

mutual

/-- A value below an indentation.  `inMapping` says that it is the value of a mapping. -/
def putValue (indent : Option Nat) (inMapping : Bool) : Value → Sharing → Page → Page
  | .list xs, s, p =>
    p.place s fun p =>
      if xs.isEmpty then p.mark "[]" true false
      else putItems (sequenceIndent indent inMapping p) xs s.parts p
  | .tuple xs, s, p =>
    p.place s fun p =>
      let p := p.mark "!!python/tuple" true false
      if xs.isEmpty then p.mark "[]" true false
      else putItems (sequenceIndent indent inMapping p) xs s.parts p
  | .set xs, s, p => p.place s (putSet (deeper indent) xs s.parts)
  | .frozenset xs, s, p => p.place s (putSet (deeper indent) xs s.parts)
  | .map es, s, p =>
    p.place s fun p =>
      if es.isEmpty then p.mark "\x7b\x7d" true false
      else putPairs (deeper indent) es s.parts p
  | v, s, p => p.place s fun p => putScalar p (scalarOf v) indent false

/-- The items of a sequence, a dash before each. -/
def putItems (indent : Nat) : List Value → List Sharing → Page → Page
  | [], _, p => p
  | x :: xs, ss, p =>
    putItems indent xs ss.tail
      (putValue (some indent) false x (.first ss) ((p.indentTo indent).mark "-" true true))

/-- The pairs of a mapping. -/
def putPairs (indent : Nat) : List (Value × Value) → List Sharing → Page → Page
  | [], _, p => p
  | (k, v) :: es, ss, p =>
    putPairs indent es (ss.drop 2)
      (putValue (some indent) true v (.first ss.tail) (putKey indent k (.first ss) p))

end

/-- **A value as a document**, given which of its places hold one thing. -/
def write (v : Value) (s : Sharing) : String :=
  ((putValue none false v s { shared := s.shared }).indentTo 0).text

end SecureStartup.Yaml
