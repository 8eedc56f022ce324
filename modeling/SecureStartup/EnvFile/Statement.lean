import SecureStartup.Text.Blank
import SecureStartup.Text.Split

/-!
  The statements of an environment file.

  A statement is a line `NAME=value`, possibly with `export` in front and a comment behind.  A value
  in quotes may hold line breaks; single quotes know two escapes, double quotes also those of control
  characters.  A line that is no statement is skipped, but it is remembered where it was.

  A reader takes characters from the front of a text and hands back the rest.  `statement` reads one
  statement, or skips one line; each consumes something, so the length of the text is fuel enough for
  all of them (`read`).
-/

namespace SecureStartup.EnvFile

open SecureStartup.Text

/-- A statement of an environment file. -/
inductive Statement where
  /-- A name and its value, if the statement gives one. -/
  | binding (name : String) (value : Option String)
  /-- Blank lines and comments. -/
  | blank
  /-- Text that is no statement, from this line on. -/
  | unreadable (line : Nat)
  deriving DecidableEq, Repr

/-- Blanks inside a line. -/
def isInlineBlank (c : Char) : Bool := isBlank c && c != '\n' && c != '\r'

/-- Go past blanks inside a line. -/
def skipInline (s : List Char) : List Char := s.dropWhile isInlineBlank

/-- The end of a line, or not. -/
def isLineEnd (c : Char) : Bool := c == '\n' || c == '\r'

/-- Go past `export` and the blanks behind it, if it is there. -/
def skipExport (s : List Char) : List Char :=
  match dropLead "export".toList s with
  | some (c :: r) => if isInlineBlank c then skipInline r else s
  | _ => s

/-- A quoted text up to its closing quote: a quote behind a backslash does not close it, unless
    there is no other. -/
def quotedBody? (quote : Char) : List Char → Option (List Char × List Char)
  | [] => none
  | [c] => if c == quote then some ([], []) else none
  | c :: c' :: r =>
    if c == quote then some ([], c' :: r)
    else if c == '\\' && c' == quote then
      match quotedBody? quote r with
      | some (body, rest) => some (c :: c' :: body, rest)
      | none => some ([c], r)
    else (quotedBody? quote (c' :: r)).map fun (body, rest) => (c :: body, rest)

/-- What a character stands for behind a backslash, in single or in double quotes. -/
def escapeOf? (quote c : Char) : Option Char :=
  if c == '\\' || c == '\'' then some c
  else if quote == '\'' then none
  else
    match c with
    | '"' => some '"'
    | 'a' => some (Char.ofNat 7)
    | 'b' => some (Char.ofNat 8)
    | 'f' => some (Char.ofNat 12)
    | 'n' => some '\n'
    | 'r' => some '\r'
    | 't' => some '\t'
    | 'v' => some (Char.ofNat 11)
    | _ => none

/-- A quoted text with its escapes replaced. -/
def unescaped (quote : Char) : List Char → List Char
  | '\\' :: c :: r =>
    match escapeOf? quote c with
    | some e => e :: unescaped quote r
    | none => '\\' :: unescaped quote (c :: r)
  | c :: r => c :: unescaped quote r
  | [] => []

/-- A text up to the blanks in front of the first `#` that has any. -/
def beforeComment : List Char → List Char
  | [] => []
  | c :: r =>
    if isBlank c && ((c :: r).dropWhile isBlank).head? == some '#' then []
    else c :: beforeComment r

/-- The value of a statement, from what follows the equals sign; on failure what is left. -/
def value? (s : List Char) : Option (List Char × List Char) :=
  match s with
  | [] => some ([], [])
  | c :: r =>
    if c == '\'' || c == '"' then
      (quotedBody? c r).map fun (body, rest) => (unescaped c body, rest)
    else if isLineEnd c then some ([], s)
    else
      let line := s.takeWhile fun c => !isLineEnd c
      some (trimEnd (beforeComment line), s.dropWhile fun c => !isLineEnd c)

/-- The name of a statement: none at a comment.  On failure what is left. -/
def name? (s : List Char) : Option (Option (List Char) × List Char) :=
  match s with
  | '#' :: _ => some (none, s)
  | '\'' :: r =>
    let body := r.takeWhile (· != '\'')
    match r.dropWhile (· != '\'') with
    | _ :: rest => if body.isEmpty then none else some (some body, rest)
    | [] => none
  | _ =>
    let isPart := fun c => !(c == '=' || c == '#' || isBlank c)
    let body := s.takeWhile isPart
    if body.isEmpty then none else some (some body, s.dropWhile isPart)

/-- Go past a comment and the end of the line; anything else there is a failure. -/
def lineEnd? (s : List Char) : Option (List Char) :=
  let s :=
    match skipInline s with
    | '#' :: r => r.dropWhile fun c => !isLineEnd c
    | _ => s
  match skipInline s with
  | [] => some []
  | '\r' :: '\n' :: r => some r
  | c :: r => if isLineEnd c then some r else none

/-- Go past the rest of a line. -/
def skipLine (s : List Char) : List Char := (s.dropWhile fun c => !isLineEnd c).drop 1

/-- One statement, starting on a line, and what follows it. -/
def statement (line : Nat) (s : List Char) : Statement × List Char :=
  let bad := fun (rest : List Char) => (Statement.unreadable line, skipLine rest)
  let s := s.dropWhile isBlank
  if s.isEmpty then (.blank, [])
  else
    let s := skipExport s
    match name? s with
    | none => bad s
    | some (name, s) =>
      let s := skipInline s
      let finish := fun (value : Option (List Char)) (s : List Char) =>
        match lineEnd? s with
        | none => bad s
        | some rest =>
          match name with
          | none => (Statement.blank, rest)
          | some n => (.binding (String.ofList n) (value.map String.ofList), rest)
      match s with
      | '=' :: r =>
        let r := skipInline r
        match value? r with
        | none => bad r
        | some (v, rest) => finish (some v) rest
      | _ => finish none s

/-- All statements; each takes at least one character, so the length of the text bounds them. -/
def statements : Nat → Nat → List Char → List Statement
  | 0, _, _ => []
  | fuel + 1, line, s =>
    if s.isEmpty then []
    else
      let (st, rest) := statement line s
      let passed := (s.take (s.length - rest.length)).count '\n'
      st :: statements fuel (line + passed) rest

/-- **The statements of a text.** -/
def read (text : String) : List Statement :=
  let s := text.toList
  statements (s.length + 1) 1 s

end SecureStartup.EnvFile
