import SecureStartup.Failure.Basic
import SecureStartup.Json.Convert
import SecureStartup.Json.Quoted

/-!
  Writing values as JSON.

  A style says whether text is kept to ASCII, how far members are indented (or that all stands on
  one line), and what becomes of a value that JSON has no form for: it is refused, replaced by its
  text, or converted (dates and paths to text, categories to their word, sets to sorted lists).
  Tuples are arrays.  A member's name is a string, or the JSON text of a number, a truth value or
  nothing; any other key is refused.  So is a whole number with too many digits, wherever it stands.
  The first part that is refused decides how writing fails; a set is put in order before its items
  are looked at.

  Four styles are in use, at the end of this file.  Lines of the log convert (`logLine`, of
  `JSONFormatter.format`); failures of the program are printed with the text of whatever has no form
  (`lenient`, of `_print_error`); outputs refuse it (`pretty`, of `_print_result` and of the
  configuration tool), and so do the failures of that tool (`plain`).
-/

namespace SecureStartup.Json

/-- What becomes of a value without a JSON form. -/
inductive Fallback where
  | refuse
  | asText
  | converted
  deriving DecidableEq, Repr

/-- How a document is written. -/
structure Style where
  /-- Only ASCII characters. -/
  ascii : Bool := true
  /-- Blanks per level, or everything on one line. -/
  indent : Option Nat := none
  fallback : Fallback := .refuse

/-- A double: JSON's own numbers, and the words `NaN`, `Infinity` and `-Infinity`. -/
def floatText (x : Binary64) : String := x.textWith "NaN" "Infinity"

/-- A whole number, unless it has too many digits. -/
def intText (i : Int) : Except Failure String :=
  if i.natAbs < Value.numberBound then .ok (toString i) else .error (.invalid .numberTooLong)

/-- The name of a member, if the key can be one. -/
def keyText : Value → Except Failure String
  | .str s => .ok s
  | .none => .ok "null"
  | .bool b => .ok (if b then "true" else "false")
  | .int i => intText i
  | .float x => .ok (floatText x)
  | _ => .error (.mismatch .wrongType)

/-- A line break and the indentation of a level; nothing on one line. -/
def Style.newline (st : Style) (level : Nat) : List Char :=
  match st.indent with
  | none => []
  | some n => '\n' :: List.replicate (n * level) ' '

/-- What separates two members: a comma and a blank, or a comma at the end of a line. -/
def Style.separator (st : Style) (level : Nat) : List Char :=
  match st.indent with
  | none => [',', ' ']
  | some _ => ',' :: st.newline level

/-- Members between brackets. -/
def Style.bracketed (st : Style) (level : Nat) (open_ close : Char) (parts : List (List Char)) :
    List Char :=
  match parts with
  | [] => [open_, close]
  | _ => open_ :: st.newline (level + 1) ++ (st.separator (level + 1)).intercalate parts
      ++ st.newline level ++ [close]

/-- Texts, if there is no failure among them; else the first one. -/
def joined (parts : List (Except Failure (List Char))) : Except Failure (List (List Char)) :=
  parts.mapM id

/-- A value that holds no other values. -/
def atomText (st : Style) (v : Value) : Except Failure (List Char) :=
  match v with
  | .none => .ok "null".toList
  | .bool b => .ok (if b then "true".toList else "false".toList)
  | .int i => (intText i).map String.toList
  | .float x => .ok (floatText x).toList
  | .str s => .ok (quote st.ascii s.toList)
  | _ =>
    match st.fallback with
    | .refuse => .error (.mismatch .wrongType)
    | .asText => v.written.map fun s => quote st.ascii s.toList
    | .converted => .ok (quote st.ascii v.convertedText.toList)

/-- A member, from its key and the text of its value. -/
def memberText (st : Style) (k : Value) (value : Except Failure (List Char)) :
    Except Failure (List Char) := do
  let name ← keyText k
  return quote st.ascii name.toList ++ ':' :: ' ' :: (← value)

/-- A set, from its items and their texts: they are put in order when sets are converted. -/
def setText (st : Style) (level : Nat) (whole : Value) (xs : List Value)
    (items : List (Except Failure (List Char))) : Except Failure (List Char) :=
  match st.fallback with
  | .refuse => .error (.mismatch .wrongType)
  | .asText => whole.written.map fun s => quote st.ascii s.toList
  | .converted =>
    match Value.sortBy? (fun (p : Value × Except Failure (List Char)) => p.1) (xs.zip items) with
    | none => .error (.mismatch .wrongType)
    | some sorted => (joined (sorted.map (·.2))).map (st.bracketed level '[' ']')

mutual

/-- The text of a value at a level of nesting. -/
def writeAt (st : Style) (level : Nat) : Value → Except Failure (List Char)
  | .list xs => (joined (writeItems st (level + 1) xs)).map (st.bracketed level '[' ']')
  | .tuple xs => (joined (writeItems st (level + 1) xs)).map (st.bracketed level '[' ']')
  | .set xs => setText st level (.set xs) xs (writeItems st (level + 1) xs)
  | .frozenset xs => setText st level (.frozenset xs) xs (writeItems st (level + 1) xs)
  | .map es => (joined (writeMembers st (level + 1) es)).map (st.bracketed level '\x7b' '\x7d')
  | v => atomText st v

/-- The texts of the items of an array. -/
def writeItems (st : Style) (level : Nat) : List Value → List (Except Failure (List Char))
  | [] => []
  | x :: xs => writeAt st level x :: writeItems st level xs

/-- The texts of the members of an object. -/
def writeMembers (st : Style) (level : Nat) :
    List (Value × Value) → List (Except Failure (List Char))
  | [] => []
  | (k, v) :: es => memberText st k (writeAt st level v) :: writeMembers st level es

end

/-- **A value as JSON text**, unless it holds a part that is refused. -/
def write (st : Style) (v : Value) : Except Failure String := (writeAt st 0 v).map String.ofList

/-- A value as JSON text, or none. -/
def write? (st : Style) (v : Value) : Option String := (write st v).toOption

/-- One line, ASCII only, nothing but JSON. -/
def plain : Style := {}

/-- Members on lines of their own, two blanks per level. -/
def pretty : Style := { indent := some 2 }

/-- One line, ASCII only, with the text of whatever has no JSON form. -/
def lenient : Style := { fallback := .asText }

/-- One line of a log: any character, and values converted. -/
def logLine : Style := { ascii := false, fallback := .converted }

end SecureStartup.Json
