import SecureStartup.Path.Basic
import SecureStartup.Text.Digit
import SecureStartup.Value.Basic

/-!
  Options on a command line.

  A long option may be cut to any length that leaves it unambiguous, its value follows it or stands
  behind an equals sign; short options without values may be written together.  There are no other
  arguments: a word that belongs to no option is wrong, but that is only found out at the end, so a
  request for help before it still counts.

  1. **Words are classified** (`wordsOf`): each is an option, with its value if one is attached, or it is
     none.  After `--` no word is an option.  An abbreviation that could be two options is wrong at once.
  2. **Options are read** from the left (`readWords`): each takes what it needs of the words that follow.
     The last of several uses of one option counts.
  3. **What is left over** is complained about.

  `parse_args` and `_build_cli_parser` are two lists of `Spec`, read by the same `read`.
-/

namespace SecureStartup.CommandLine

open SecureStartup.Text

/-- What an option takes. -/
inductive Takes where
  /-- Nothing: the option is there or not. -/
  | nothing
  /-- Nothing: the option asks for help. -/
  | help
  | path
  | text
  /-- One of several words. -/
  | oneOf (words : List String)

/-- Whether an option has a value. -/
def Takes.hasValue : Takes → Bool
  | .nothing | .help => false
  | _ => true

/-- An option: its spellings, the field it sets, and what it takes. -/
structure Spec where
  names : List String
  field : String
  takes : Takes

/-- The option that asks for help. -/
def helpSpec : Spec := ⟨["-h", "--help"], "help", .help⟩

/-- Why reading ends early. -/
inductive Stop where
  /-- The arguments are wrong. -/
  | wrong
  /-- Help was asked for. -/
  | help
  deriving DecidableEq, Inhabited

/-- A word of the command line, as seen before its neighbours are looked at. -/
inductive Word where
  /-- An option under one of its names (none when there is no such option), possibly with something
      attached, by an equals sign or without one. -/
  | option (spec : Option Spec) (name : List Char) (attached : Option (List Char)) (equals : Bool)
  | plain (text : String)
  /-- The mark after which all words are plain. -/
  | dashes

/-- Every name with its option. -/
def namesOf (specs : List Spec) : List (List Char × Spec) :=
  specs.flatMap fun s => s.names.map fun n => (n.toList, s)

/-- The option with a name. -/
def named? (specs : List Spec) (name : List Char) : Option Spec :=
  ((namesOf specs).find? fun n => n.1 == name).map (·.2)

/-- A minus sign and digits, possibly with a point; a line feed may end it. -/
def isNegativeNumber (s : List Char) : Bool :=
  let isDigit := fun c => (digitValue? c).isSome
  let s := if s.getLast? == some '\n' then s.dropLast else s
  match s with
  | '-' :: r =>
    match cutFirst '.' r with
    | (whole, none) => !whole.isEmpty && whole.all isDigit
    | (whole, some part) => whole.all isDigit && !part.isEmpty && part.all isDigit
  | _ => false

/-- The options that a word may stand for: cut short, or with a value run together with it. -/
def candidates (specs : List Spec) (s : List Char) : List Word :=
  match s with
  | '-' :: '-' :: _ =>
    let (lead, attached) := cutFirst '=' s
    ((namesOf specs).filter fun n => startsWith lead n.1).map fun n =>
      .option n.2 n.1 attached true
  | '-' :: c :: r =>
    (namesOf specs).filterMap fun n =>
      if n.1 == ['-', c] then some (.option n.2 n.1 r false)
      else if startsWith s n.1 then some (.option n.2 n.1 none false)
      else none
  | _ => []

/-- What a word is; a word that may stand for two options is wrong. -/
def classify (specs : List Spec) (word : String) : Except Stop Word :=
  let s := word.toList
  match s with
  | '-' :: _ :: _ =>
    match named? specs s with
    | some spec => .ok (.option spec s none false)
    | none =>
      let exact := match cutFirst '=' s with
        | (name, some value) => (named? specs name).map fun spec => Word.option spec name value true
        | _ => none
      match exact with
      | some w => .ok w
      | none =>
        match candidates specs s with
        | [w] => .ok w
        | _ :: _ :: _ => .error .wrong
        | [] =>
          if isNegativeNumber s || s.contains ' ' then .ok (.plain word)
          else .ok (.option none s none false)
  | _ => .ok (.plain word)

/-- The words of a command line. -/
def wordsOf (specs : List Spec) : List String → Except Stop (List Word)
  | [] => .ok []
  | a :: rest =>
    if a == "--" then .ok (.dashes :: rest.map .plain)
    else do
      let w ← classify specs a
      return w :: (← wordsOf specs rest)

/-- An option that was used, with its value. -/
abbrev Use := Spec × Option (List Char)

/-- What is read from one option: its uses, whether its value is the next word, and whether some of
    its characters are no option. -/
structure Reading where
  uses : List Use
  takesNext : Bool := false
  extra : Bool := false

/-- An option with nothing attached. -/
def bareReading (spec : Spec) (next : Option Word) : Except Stop Reading :=
  if spec.takes.hasValue then
    match next with
    | some (.plain v) => .ok ⟨[(spec, some v.toList)], true, false⟩
    | _ => .error .wrong
  else .ok ⟨[(spec, none)], false, false⟩

/-- One more use in front. -/
def Reading.cons (u : Use) (r : Reading) : Reading := { r with uses := u :: r.uses }

/-- An option without a value with a character attached: that character is a short option, which
    `more` reads. -/
def clustered (specs : List Spec) (spec : Spec) (short equals : Bool) (c : Char)
    (more : Spec → Except Stop Reading) : Except Stop Reading :=
  if !short || equals || c == '-' then .error .wrong
  else
    match named? specs ['-', c] with
    | none => .ok ⟨[(spec, none)], false, true⟩
    | some spec' => Reading.cons (spec, none) <$> more spec'

/-- What an option with something attached stands for.  Characters run together with a short option
    without a value are short options in turn, the last of which may have a value. -/
def attachedReading (specs : List Spec) (next : Option Word) (short equals : Bool) :
    List Char → Spec → Except Stop Reading
  | attached, spec =>
    if spec.takes.hasValue then .ok ⟨[(spec, some attached)], false, false⟩
    else
      match attached with
      | [] => .error .wrong
      | [c] => clustered specs spec short equals c fun s => bareReading s next
      | c :: '=' :: value =>
        clustered specs spec short equals c (attachedReading specs next true true value)
      | c :: c' :: more =>
        clustered specs spec short equals c (attachedReading specs next true false (c' :: more))
termination_by attached => attached.length

/-- What an option under one of its names stands for. -/
def readingOf (specs : List Spec) (next : Option Word) (spec : Spec) (name : List Char)
    (attached : Option (List Char)) (equals : Bool) : Except Stop Reading :=
  match attached with
  | none => bareReading spec next
  | some a => attachedReading specs next (name[1]? != some '-') equals a spec

/-- The value that a use gives its field. -/
def Use.value (u : Use) : Except Stop Value :=
  let text := String.ofList (u.2.getD [])
  match u.1.takes with
  | .help => .error .help
  | .nothing => .ok (.bool true)
  | .path => .ok (.path (normalPath text))
  | .text => .ok (.str text)
  | .oneOf words => if words.contains text then .ok (.str text) else .error .wrong

/-- A use sets its field, in place of what the field was. -/
def Use.set (fields : List (String × Value)) (u : Use) : Except Stop (List (String × Value)) := do
  let v ← u.value
  return (u.1.field, v) :: fields.filter fun f => f.1 != u.1.field

/-- Go through the words: the fields that are set, the last use winning.  `taken` says that the first
    word is the value of the option before it, and `extra` that a word belonged to no option. -/
def readWords (specs : List Spec) : List Word → (taken extra : Bool) → List (String × Value) →
    Except Stop (List (String × Value))
  | [], _, extra, fields => if extra then .error .wrong else .ok fields
  | _ :: rest, true, extra, fields => readWords specs rest false extra fields
  | .plain _ :: rest, false, _, fields => readWords specs rest false true fields
  | .dashes :: rest, false, _, fields => readWords specs rest false true fields
  | .option none _ _ _ :: rest, false, _, fields => readWords specs rest false true fields
  | .option (some spec) name attached equals :: rest, false, extra, fields => do
    let r ← readingOf specs rest.head? spec name attached equals
    readWords specs rest r.takesNext (extra || r.extra) (← r.uses.foldlM Use.set fields)

/-- **Read a command line**: the fields that its options set. -/
def read (specs : List Spec) (argv : List String) : Except Stop (List (String × Value)) := do
  readWords specs (← wordsOf specs argv) false false []

/-- A field that may have been set. -/
def field (fields : List (String × Value)) (name : String) : Value :=
  ((fields.find? fun f => f.1 == name).map (·.2)).getD .none

/-- Whether an option without a value was used. -/
def isGiven (fields : List (String × Value)) (name : String) : Bool := (field fields name).truthy

end SecureStartup.CommandLine
