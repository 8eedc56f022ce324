import SecureStartup.Yaml.Cursor
import SecureStartup.Yaml.Scalar
import SecureStartup.Json.Reader

/-!
  Reading the scalars, tags and directives of YAML from a place in a text.

  Every reader takes a place and gives what it read with the place after it, or nothing when the text
  breaks a rule.  Where a text can fail in other ways too — an escape with a number that is no
  character's, a version of too many digits — the reader gives the failure.  Loops are bounded by the
  length of the text that is left.

  Quoted scalars fold their lines, block scalars keep them or fold them as their header says, and plain
  scalars end where a mark of the structure begins.  What a scalar MEANS is not decided here; that is
  `Yaml.Scalar`.
-/

namespace SecureStartup.Yaml

open SecureStartup.Text

/-- What is read, where nothing means that the text breaks a rule. -/
def orMalformed {α : Type} (a : Option α) : Except Failure α :=
  match a with
  | some x => .ok x
  | none => .error .malformed

/-! ## Plain scalars -/

/-- Whether a plain scalar ends before a character (with the one after it). -/
def endsPlain (inFlow : Bool) (a b : Char) : Bool :=
  isGap a
    || (a == ':' && (isGap b || (inFlow && [',', '[', ']', '\x7b', '\x7d'].contains b)))
    || (inFlow && [',', '?', '[', ']', '\x7b', '\x7d'].contains a)

/-- The length of the run of a plain scalar that starts a text. -/
def plainRun (inFlow : Bool) : List Char → Nat
  | [] => 0
  | a :: r => if endsPlain inFlow a (r.head?.getD endMark) then 0 else 1 + plainRun inFlow r

/-- Spaces and line breaks inside a scalar, up to `fuel` of them: the breaks, or none when a document
    mark comes up. -/
def foldBreaks : Nat → Cursor → Option (List Char) × Cursor
  | 0, c => (some [], c)
  | fuel + 1, c =>
    if c.peek == ' ' then foldBreaks fuel c.next
    else if isBreak c.peek then
      let (b, c) := c.lineBreak
      if c.atDocumentMark then (none, c)
      else
        match foldBreaks fuel c with
        | (some bs, c) => (some (b ++ bs), c)
        | r => r
    else (some [], c)

/-- What stands for a line break and the breaks after it: a space, unless there are more. -/
def folded (first more : List Char) : List Char :=
  if first != ['\n'] then first ++ more else if more.isEmpty then [' '] else more

/-- The space after a run of a plain scalar: the text it stands for (empty at the scalar's end),
    whether a line was broken, and the place after it. -/
def plainSpace (c : Cursor) : List Char × Bool × Cursor :=
  let (blanks, c) := c.span (· == ' ')
  if isBreak c.peek then
    let (b, c) := c.lineBreak
    if c.atDocumentMark then ([], true, c)
    else
      match foldBreaks (c.left + 1) c with
      | (some bs, c) => (folded b bs, true, c)
      | (none, c) => ([], true, c)
  else (blanks, false, c)

/-- The runs of a plain scalar.  The result says whether a line was broken after the last run. -/
def plainRuns (inFlow : Bool) (indent : Int) :
    Nat → Cursor → List Char → Bool → List Char × Bool × Cursor
  | 0, c, _, broken => ([], broken, c)
  | fuel + 1, c, space, broken =>
    if c.peek == '#' then ([], broken, c)
    else
      let n := plainRun inFlow c.rest
      if n == 0 then ([], broken, c)
      else
        let run := c.rest.take n
        let (space', broken', c) := plainSpace (c.skip n)
        if space'.isEmpty || c.peek == '#' || (!inFlow && (c.column : Int) < indent) then
          (space ++ run, broken', c)
        else
          let (more, broken, c) := plainRuns inFlow indent fuel c space' broken'
          (space ++ run ++ more, broken, c)

/-- A plain scalar below an indentation: its text, whether a line was broken after it, and the place
    after it. -/
def plainScalar (inFlow : Bool) (indent : Int) (c : Cursor) : String × Bool × Cursor :=
  let (text, broken, c) := plainRuns inFlow (indent + 1) (c.left + 1) c [] false
  (String.ofList text, broken, c)

/-! ## Quoted scalars -/

/-- The escapes of one character. -/
def escapeOf? (c : Char) : Option Char :=
  match c with
  | '0' => some (Char.ofNat 0)
  | 'a' => some (Char.ofNat 7)
  | 'b' => some (Char.ofNat 8)
  | 't' | '\t' => some '\t'
  | 'n' => some '\n'
  | 'v' => some (Char.ofNat 11)
  | 'f' => some (Char.ofNat 12)
  | 'r' => some '\r'
  | 'e' => some (Char.ofNat 27)
  | ' ' => some ' '
  | '"' => some '"'
  | '\\' => some '\\'
  | '/' => some '/'
  | 'N' => some (Char.ofNat 0x85)
  | '_' => some (Char.ofNat 0xa0)
  | 'L' => some (Char.ofNat 0x2028)
  | 'P' => some (Char.ofNat 0x2029)
  | _ => none

/-- How many hexadecimal digits a numeric escape has. -/
def escapeWidth? (c : Char) : Option Nat :=
  match c with
  | 'x' => some 2
  | 'u' => some 4
  | 'U' => some 8
  | _ => none

/-- Line breaks in a quoted scalar with the blanks before each; a document mark is an error. -/
def quotedBreaks? : Nat → Cursor → Option (List Char × Cursor)
  | 0, _ => none
  | fuel + 1, c =>
    if c.atDocumentMark then none
    else
      let c := c.skipWhile fun a => a == ' ' || a == '\t'
      if isBreak c.peek then do
        let (b, c) := c.lineBreak
        let (bs, c) ← quotedBreaks? fuel c
        return (b ++ bs, c)
      else some ([], c)

/-- What an escape gives by its number. -/
def numberedText (n : Nat) : Except Failure (List Char) :=
  match spell? n with
  | some cs => .ok cs
  | none =>
    -- numbers of more than 31 bits are refused before they are looked at as characters
    if n < Nat.pow 2 31 then .error (.invalid (.other "chr() arg not in range(0x110000)"))
    else .error (.mismatch .outOfRange)

/-- An escape after its backslash. -/
def quotedEscape (c : Cursor) : Except Failure (List Char × Cursor) :=
  let a := c.peek
  match escapeOf? a, escapeWidth? a with
  | some e, _ => .ok ([e], c.next)
  | none, some n =>
    let c := c.next
    let ds := c.rest.take n
    if ds.length == n && ds.all Json.isHex then do
      return (← numberedText (natOfDigits 16 ds), c.skip n)
    else .error .malformed
  | none, none =>
    if isBreak a then
      let (_, c) := c.lineBreak
      orMalformed (quotedBreaks? (c.left + 1) c)
    else .error .malformed

/-- Blanks and line breaks between the words of a quoted scalar. -/
def quotedSpace? (c : Cursor) : Option (List Char × Cursor) :=
  let (blanks, c) := c.span fun a => a == ' ' || a == '\t'
  if c.peek == endMark then none
  else if isBreak c.peek then do
    let (b, c) := c.lineBreak
    let (bs, c) ← quotedBreaks? (c.left + 1) c
    return (folded b bs, c)
  else some (blanks, c)

/-- The rest of a quoted scalar up to and with its closing quote. -/
def quotedTail (double : Bool) : Nat → Cursor → Except Failure (List Char × Cursor)
  | 0, _ => .error .malformed
  | fuel + 1, c =>
    let a := c.peek
    let quote := if double then '"' else '\''
    let continued := fun (part : List Char) (c : Cursor) => do
      let (more, c) ← quotedTail double fuel c
      return (part ++ more, c)
    if a == quote then
      if !double && c.peekAt 1 == '\'' then continued ['\''] (c.skip 2) else .ok ([], c.next)
    else if double && a == '\\' then do
      let (part, c) ← quotedEscape c.next
      continued part c
    else if isGap a then do
      let (part, c) ← orMalformed (quotedSpace? c)
      continued part c
    else continued [a] c.next

/-- A quoted scalar from its opening quote. -/
def quotedScalar (double : Bool) (c : Cursor) : Except Failure (String × Cursor) := do
  let (text, c) ← quotedTail double (c.left + 1) c.next
  return (String.ofList text, c)

/-! ## Block scalars -/

/-- How the line breaks at the end of a block scalar are treated. -/
inductive Chomping where
  | strip
  | clip
  | keep
  deriving DecidableEq, Repr

/-- A chomping sign. -/
def chomping? (a : Char) : Option Chomping :=
  if a == '+' then some .keep else if a == '-' then some .strip else none

/-- The signs after the indicator of a block scalar: chomping and explicit indentation. -/
def blockSigns? (c : Cursor) : Option (Chomping × Option Nat × Cursor) := do
  let digit? := fun (a : Char) => if isAsciiDigit a then some (a.toNat - 48) else none
  let checked := fun (ch : Chomping) (n : Option Nat) (c : Cursor) =>
    if isSpaceOrEnd c.peek && n != some 0 then some (ch, n, c) else none
  match chomping? c.peek with
  | some ch =>
    match digit? c.next.peek with
    | some n => checked ch (some n) (c.skip 2)
    | none => checked ch none c.next
  | none =>
    match digit? c.peek with
    | some n =>
      match chomping? c.next.peek with
      | some ch => checked ch (some n) (c.skip 2)
      | none => checked .clip (some n) c.next
    | none => checked .clip none c

/-- The rest of the line that a block scalar or directive starts on: blanks and a comment. -/
def restOfLine? (c : Cursor) : Option Cursor :=
  let c := (c.skipWhile (· == ' ')).skipComment
  if isBreakOrEnd c.peek then some c.lineBreak.2 else none

/-- Empty lines in front of a block scalar: their breaks and the widest indentation among them. -/
def leadingBreaks : Nat → Cursor → Nat → List Char × Nat × Cursor
  | 0, c, widest => ([], widest, c)
  | fuel + 1, c, widest =>
    if c.peek == ' ' then
      let c := c.next
      leadingBreaks fuel c (max widest c.column)
    else if isBreak c.peek then
      let (b, c) := c.lineBreak
      let (bs, widest, c) := leadingBreaks fuel c widest
      (b ++ bs, widest, c)
    else ([], widest, c)

/-- Go past the spaces up to an indentation. -/
def toIndent (indent : Nat) : Nat → Cursor → Cursor
  | 0, c => c
  | fuel + 1, c => if c.column < indent && c.peek == ' ' then toIndent indent fuel c.next else c

/-- Empty lines inside a block scalar, up to the indentation of the next line. -/
def blockBreaks (indent : Nat) : Nat → Cursor → List Char × Cursor
  | 0, c => ([], c)
  | fuel + 1, c =>
    let c := toIndent indent (indent + 1) c
    if isBreak c.peek then
      let (b, c) := c.lineBreak
      let (bs, c) := blockBreaks indent fuel c
      (b ++ bs, c)
    else ([], c)

/-- The lines of a block scalar: its text, the last line break, and the breaks after it. -/
def blockLines (fold : Bool) (indent : Nat) :
    Nat → Cursor → List Char → List Char × List Char × List Char × Cursor
  | 0, c, breaks => ([], [], breaks, c)
  | fuel + 1, c, breaks =>
    let solid := fun (a : Char) => a != ' ' && a != '\t'
    let first := solid c.peek
    let (text, c) := c.span fun a => !isBreakOrEnd a
    let (b, c) := c.lineBreak
    let (breaks', c) := blockBreaks indent (c.left + 1) c
    if c.column == indent && c.peek != endMark then
      let glue :=
        if fold && b == ['\n'] && first && solid c.peek then
          (if breaks'.isEmpty then [' '] else [])
        else b
      let (more, b, bs, c) := blockLines fold indent fuel c breaks'
      (breaks ++ text ++ glue ++ more, b, bs, c)
    else (breaks ++ text, b, breaks', c)

/-- A block scalar from its indicator, inside an indentation. -/
def blockScalar? (fold : Bool) (indent : Int) (c : Cursor) : Option (String × Cursor) := do
  let (chomping, explicit, c) ← blockSigns? c.next
  let c ← restOfLine? c
  let least : Nat := (max (indent + 1) 1).toNat
  let (breaks, indent, c) := match explicit with
    | none =>
      let (bs, widest, c) := leadingBreaks (c.left + 1) c 0
      (bs, max least widest, c)
    | some n =>
      let indent := least + n - 1
      let (bs, c) := blockBreaks indent (c.left + 1) c
      (bs, indent, c)
  let (text, b, bs, c) :=
    if c.column == indent && c.peek != endMark then
      blockLines fold indent (c.left + 1) c breaks
    else ([], [], breaks, c)
  let tail := match chomping with
    | .strip => []
    | .clip => b
    | .keep => b ++ bs
  return (String.ofList (text ++ tail), c)

/-! ## Names, tags and directives -/

/-- The name of an anchor or alias after its indicator. -/
def anchorName? (c : Cursor) : Option (String × Cursor) :=
  let (name, c) := c.next.span isWordChar
  if name.isEmpty then none
  else if isGap c.peek || ['?', ':', ',', ']', '\x7d', '%', '@', '\x60'].contains c.peek then
    some (String.ofList name, c)
  else none

/-- Characters of a tag. -/
def isTagChar (c : Char) : Bool :=
  isWordChar c || ";/?:@&=+$,.!~*'()[]".toList.contains c

/-- Bytes written as `%XX`, at most `fuel` of them. -/
def percentBytes? : Nat → Cursor → Option (List UInt8 × Cursor)
  | 0, c => some ([], c)
  | fuel + 1, c =>
    if c.peek == '%' then
      let ds := (c.rest.drop 1).take 2
      if ds.length == 2 && ds.all Json.isHex then do
        let (bs, c) ← percentBytes? fuel (c.skip 3)
        return (UInt8.ofNat (natOfDigits 16 ds) :: bs, c)
      else none
    else some ([], c)

/-- The characters of a tag, escapes decoded. -/
def tagChars? : Nat → Cursor → Option (List Char × Cursor)
  | 0, c => some ([], c)
  | fuel + 1, c =>
    if c.peek == '%' then do
      let (bs, c) ← percentBytes? (c.left + 1) c
      let s ← String.fromUTF8? ⟨bs.toArray⟩
      let (more, c) ← tagChars? fuel c
      return (s.toList ++ more, c)
    else if isTagChar c.peek then do
      let (more, c') ← tagChars? fuel c.next
      return (c.peek :: more, c')
    else some ([], c)

/-- The text of a tag, not empty. -/
def tagText? (c : Cursor) : Option (String × Cursor) := do
  let (cs, c) ← tagChars? (c.left + 1) c
  if cs.isEmpty then none else return (String.ofList cs, c)

/-- A tag handle such as `!` or `!name!`. -/
def tagHandle? (c : Cursor) : Option (String × Cursor) :=
  if c.peek != '!' then none
  else if c.peekAt 1 == ' ' then some ("!", c.next)
  else
    let (name, c') := c.next.span isWordChar
    if c'.peek == '!' then some ("!" ++ String.ofList name ++ "!", c'.next)
    else none

/-- A tag: its handle, if it has one, and its text. -/
def tag? (c : Cursor) : Option ((Option String × String) × Cursor) := do
  let a := c.peekAt 1
  let (t, c) ←
    if a == '<' then do
      let (s, c) ← tagText? (c.skip 2)
      if c.peek == '>' then some ((none, s), c.next) else none
    else if isGap a then some ((none, "!"), c.next)
    else do
      let word := (c.rest.drop 1).takeWhile fun b => !isSpaceOrEnd b
      let (handle, c) ← if word.contains '!' then tagHandle? c else some ("!", c.next)
      let (s, c) ← tagText? c
      some ((some handle, s), c)
  if isSpaceOrEnd c.peek then return (t, c) else none

/-- A directive. -/
inductive Directive where
  | version (major : Nat)
  | tag (handle lead : String)
  | other
  deriving Repr

/-- A run of digits as a number. -/
def versionPart (c : Cursor) : Except Failure (Nat × Cursor) :=
  let (ds, c) := c.span isAsciiDigit
  if ds.isEmpty then .error .malformed
  else if Number.maxDigits < ds.length then .error (tooLong ds.length)
  else .ok (natOfDigits 10 ds, c)

/-- The version that a directive declares: its first part counts. -/
def version (c : Cursor) : Except Failure (Directive × Cursor) := do
  let (major, c) ← versionPart (c.skipWhile (· == ' '))
  if c.peek != '.' then throw .malformed
  let (_, c) ← versionPart c.next
  if isSpaceOrEnd c.peek then return (.version major, c) else throw .malformed

/-- The handle that a directive declares, with what it stands for. -/
def handle? (c : Cursor) : Option (Directive × Cursor) := do
  let (handle, c) ← tagHandle? (c.skipWhile (· == ' '))
  if c.peek != ' ' then none
  let (lead, c) ← tagText? (c.skipWhile (· == ' '))
  if isSpaceOrEnd c.peek then some (Directive.tag handle lead, c) else none

/-- A directive from its percent sign to the end of its line. -/
def directive (c : Cursor) : Except Failure (Directive × Cursor) := do
  let (name, c) := c.next.span isWordChar
  if name.isEmpty || !isSpaceOrEnd c.peek then throw .malformed
  let (d, c) ←
    if name == "YAML".toList then version c
    else if name == "TAG".toList then orMalformed (handle? c)
    else pure (Directive.other, c.skipWhile fun a => !isBreakOrEnd a)
  return (d, ← orMalformed (restOfLine? c))

end SecureStartup.Yaml
