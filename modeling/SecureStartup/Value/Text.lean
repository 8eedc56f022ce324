import SecureStartup.Value.Basic
import SecureStartup.Number.Reader
import SecureStartup.Number.Shortest
import SecureStartup.Text.Quoted

/-!
  The text of a value.

  `text` is what a value becomes when it is put into a message, `shown` what it becomes inside a list
  or a mapping.  They differ only where a reader could not tell a value from its surroundings:
  strings and byte strings are quoted inside a list, dates and paths say what they are.

  A whole number of more than 4300 digits has no text, and neither has any value that holds one
  (`isWritable`).  `text` is defined for these all the same; whoever needs a text of a value that comes
  from outside asks by `Value.written`, which refuses them.
-/

namespace SecureStartup.Value

open SecureStartup.Text

/-- A span of time as a whole number of days and the seconds of the last day. -/
def spanText (seconds : Int) : String :=
  let days := Int.fdiv seconds 86400
  let rest := Int.fmod seconds 86400
  if days == 0 then s!"datetime.timedelta(seconds={rest})"
  else if rest == 0 then s!"datetime.timedelta(days={days})"
  else s!"datetime.timedelta(days={days}, seconds={rest})"

/-- A time with its parts named, trailing zero seconds left out. -/
def datetimeShown (t : DateTime) : String :=
  let seconds :=
    if t.micro != 0 then s!", {t.second}, {t.micro}"
    else if t.second != 0 then s!", {t.second}"
    else ""
  let zone := match t.offset with
    | Option.none => ""
    | some 0 => ", tzinfo=datetime.timezone.utc"
    | some o => s!", tzinfo=datetime.timezone({spanText o})"
  s!"datetime.datetime({t.date.year}, {t.date.month}, {t.date.day}, {t.hour}, {t.minute}{seconds}{zone})"

/-- The shown form of values that hold no other values. -/
def shownAtom : Value → String
  | none => "None"
  | bool b => if b then "True" else "False"
  | int i => toString i
  | float x => x.text
  | str s => quoted s
  | bytes bs => quotedBytes bs
  | date d => s!"datetime.date({d.year}, {d.month}, {d.day})"
  | datetime t => datetimeShown t
  | path p => s!"PosixPath({quoted p})"
  | category c => s!"<ErrorCategory.{c.name}: {quoted c.word}>"
  | object t => t
  | _ => ""

/-- Pieces with a comma and a blank between them. -/
def commaed (parts : List String) : String := ", ".intercalate parts

mutual

/-- The text of a value inside a list or a mapping. -/
def shown : Value → String
  | list xs => s!"[{commaed (shownList xs)}]"
  | tuple xs => match shownList xs with
    | [x] => s!"({x},)"
    | parts => s!"({commaed parts})"
  | set xs => match shownList xs with
    | [] => "set()"
    | parts => "\x7b" ++ commaed parts ++ "\x7d"
  | frozenset xs => match shownList xs with
    | [] => "frozenset()"
    | parts => "frozenset(\x7b" ++ commaed parts ++ "\x7d)"
  | map es => "\x7b" ++ commaed (shownEntries es) ++ "\x7d"
  | v => shownAtom v

/-- The shown elements. -/
def shownList : List Value → List String
  | [] => []
  | x :: xs => shown x :: shownList xs

/-- The shown pairs, a colon and a blank between key and value. -/
def shownEntries : List (Value × Value) → List String
  | [] => []
  | (k, v) :: es => s!"{shown k}: {shown v}" :: shownEntries es

end

/-- **The text of a value**: strings, dates, paths and categories bare, all else as shown. -/
def text : Value → String
  | str s => s
  | date d => String.ofList d.iso
  | datetime t => t.textWith ' '
  | path p => p
  | category c => s!"ErrorCategory.{c.name}"
  | v => shown v

/-! ## Values without a text -/

/-- Whole numbers from this one on have too many digits to be written. -/
def numberBound : Nat := Nat.pow 10 Number.maxDigits

mutual

/-- Whether a value can be written: no whole number in it has too many digits. -/
def isWritable : Value → Bool
  | int i => i.natAbs < numberBound
  | list xs | tuple xs | set xs | frozenset xs => allWritable xs
  | map es => allEntriesWritable es
  | _ => true

/-- Whether all items can be written. -/
def allWritable : List Value → Bool
  | [] => true
  | x :: xs => isWritable x && allWritable xs

/-- Whether all keys and values can be written. -/
def allEntriesWritable : List (Value × Value) → Bool
  | [] => true
  | (k, v) :: es => isWritable k && isWritable v && allEntriesWritable es

end

/-- A whole number of too many digits cannot be written. -/
theorem isWritable_of_le {n : Nat} (h : numberBound ≤ n) : (int n).isWritable = false := by
  unfold isWritable
  exact decide_eq_false (Nat.not_lt.mpr h)

/-- The word for the kind of a value. -/
def kindName : Value → String
  | none => "NoneType"
  | bool _ => "bool"
  | int _ => "int"
  | float _ => "float"
  | str _ => "str"
  | bytes _ => "bytes"
  | date _ => "date"
  | datetime _ => "datetime"
  | path _ => "PosixPath"
  | category _ => "ErrorCategory"
  | object _ => "object"
  | list _ => "list"
  | tuple _ => "tuple"
  | set _ => "set"
  | frozenset _ => "frozenset"
  | map _ => "dict"

@[simp] theorem text_str (s : String) : text (str s) = s := rfl

end SecureStartup.Value
