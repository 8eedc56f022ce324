import SecureStartup.Json.Writer
import SecureStartup.Log.Record
import SecureStartup.Log.Redact
import SecureStartup.Number.Reader

/-!
  A record as one line of JSON (`JSONFormatter.format`).

  The members are the time, the level, the logger and the message, the parts of the context that are
  not empty, the place in the source for debug and error records, the known fields that are present,
  and the failure.  `duration_ms` is always a double and `exit_code` always an integer — or null when
  the value is no number — and credentials are taken out of URLs.

    * `toInteger`, `toDouble` — the two conversions of `_ensure_type`.  It takes the failures of reading
      a number for null, but not that of a number out of range;
    * `fieldValue` — `_ensure_type` and `_sanitize_value` for a field of some name;
    * `showsPlace` — `_should_include_source_location`;
    * `troubleValue` — `_inject_exception`;
    * `entry` — the members in order: `_base_log_entry`, `_inject_context`, the place, and
      `_inject_extra_fields`, which may replace a member that is there already.

  A failure's text is asked for here, when the line is written, so a line can fail for it.
-/

namespace SecureStartup.Log

/-! ## Numeric fields -/

/-- The text of bytes in which a number may be read: none of them is beyond ASCII. -/
def asciiText? (bs : List UInt8) : Option String :=
  if bs.all (· < 128) then some (String.ofList (bs.map fun b => Char.ofNat b.toNat)) else none

/-- A value as an integer: numbers are cut off towards zero, texts and bytes are read; null when that
    makes no sense.  An infinite number is out of range. -/
def toInteger (v : Value) : Except Failure Value :=
  match v with
  | .int i => .ok (.int i)
  | .bool b => .ok (.int (if b then 1 else 0))
  | .float (.infinite _) => .error (.mismatch .outOfRange)
  | .float x => .ok ((x.truncate?.map Value.int).getD .none)
  | .str s => .ok (((Number.readInt? s).map Value.int).getD .none)
  | .bytes bs => .ok ((((asciiText? bs).bind Number.readInt?).map Value.int).getD .none)
  | _ => .ok .none

/-- A value as a double: texts and bytes are read; null when that makes no sense.  An integer beyond
    all doubles is out of range. -/
def toDouble (v : Value) : Except Failure Value :=
  match v with
  | .float x => .ok (.float x)
  | .int i =>
    match Binary64.ofInt? i with
    | some x => .ok (.float x)
    | none => .error (.mismatch .outOfRange)
  | .bool b => .ok (.float (Binary64.ofRatio false (if b then 1 else 0) 1))
  | .str s => .ok (((Number.readFloat? s).map Value.float).getD .none)
  | .bytes bs => .ok ((((asciiText? bs).bind Number.readFloat?).map Value.float).getD .none)
  | _ => .ok .none

/-- The value that a field is written with. -/
def fieldValue (name : String) (v : Value) : Except Failure Value :=
  if name == "duration_ms" then toDouble v
  else if name == "exit_code" then toInteger v
  else if name == "shared_fs_url" || name == "remote_path" then
    match v with
    | .str s => .ok (.str (redactUrl s))
    | _ => .ok v
  else .ok v

/-! ## The line -/

/-- Whether the place in the source is worth a member. -/
def showsPlace (level : Int) : Bool := level == debug || level == error || level == critical

/-- The failure of a record as a value; it needs the failure's text. -/
def troubleValue : Trouble → Except Failure (Option Value)
  | .absent => .ok none
  | .empty => .ok (some (.ofFields
      [("type", .none), ("message", .none), ("stacktrace", .str traceback)]))
  | .failure f text => do
    return some (.ofFields
      [("type", .str f.name), ("message", .str (← text)), ("stacktrace", .str traceback)])

/-- The name of a file without the directories in front of it. -/
def baseName (path : String) : String :=
  String.ofList ((Text.splitOn '/' path.toList).getLast?.getD [])

/-- The members of a record's line. -/
def entry (now : DateTime) (c : Context) (r : Record) : Except Failure Entries := do
  let head : Entries := [(.str "ts", .str now.millisUtc), (.str "level", .str (levelName r.level)),
    (.str "logger", .str r.logger), (.str "message", .str r.message)]
  let given := [("cluster_name", c.cluster), ("component", c.component), ("trace_id", c.trace)]
    |>.filter fun f => f.2.truthy
  let context := given.map fun f => (Value.str f.1, f.2)
  let place : Entries :=
    if showsPlace r.level then [(.str "file", .str s!"{baseName r.file}:{r.line}")] else []
  let fields ← r.fields.mapM fun f => do return (f.1, ← fieldValue f.1 f.2)
  let all := fields.foldl (fun es f => es.insert (.str f.1) f.2) (head ++ context ++ place)
  match ← troubleValue r.trouble with
  | none => return all
  | some v => return all.insert (.str "exception") v

/-- **The JSON line of a record.** -/
def jsonLine (now : DateTime) (c : Context) (r : Record) : Except Failure String := do
  Json.write Json.logLine (.map (← entry now c r))

end SecureStartup.Log
