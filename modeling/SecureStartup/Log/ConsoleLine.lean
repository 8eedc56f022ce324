import SecureStartup.Log.Record

/-!
  A record as text: for a person at a console, for a plain log file, and for the bare error stream.

    * `levelText` — `_format_level_name`, with the colour of the level where colours are wanted;
    * `consoleLine` — `ConsoleFormatter.format`, with the part in front (`_build_prefix`) and the tags
      (`_build_tags`);
    * `plainLine` — the line that `setup_logging` asks for where log files are not JSON;
    * `toolLine` — the line of the configuration tool.

  The tag of a trace is the beginning of the trace, and a value that has no beginning, a number for
  instance, makes the line fail.
-/

namespace SecureStartup.Log

/-! ## The console -/

/-- The colour of a level. -/
def colour (level : Int) : Option String :=
  let code := fun (n : String) => some ("\x1b[" ++ n ++ "m")
  if level == debug then code "36"
  else if level == info then code "32"
  else if level == warning then code "33"
  else if level == error then code "31"
  else if level == critical then code "35"
  else none

/-- The level's name, coloured when that is wanted and the level has a colour. -/
def levelText (colours : Bool) (level : Int) : String :=
  match colours, colour level with
  | true, some c => c ++ levelName level ++ "\x1b[0m"
  | _, _ => levelName level

/-- The first eight characters of a trace (items of a list); other values have no beginning. -/
def traceStart (v : Value) : Except Failure String :=
  match v with
  | .str s => .ok (String.ofList (Text.takeLetters 8 s.toList))
  | .list xs => .ok (Value.list (xs.take 8)).text
  | .tuple xs => .ok (Value.tuple (xs.take 8)).text
  | .bytes bs => .ok (Value.bytes (bs.take 8)).text
  | _ => .error (.mismatch .wrongType)

/-- The tags in front of the message: the trace and the principal, when they are given. -/
def tags (c : Context) (r : Record) : Except Failure (List String) := do
  let trace := (r.extras.field "trace_id").orElse c.trace
  let principal := r.extras.field "principal"
  let second := if principal.truthy then [s!"[principal:{principal.text}]"] else []
  if trace.truthy then
    let start ← traceStart trace
    return s!"[{start}]" :: second
  else return second

/-- The message, with the stack trace below it for errors. -/
def messageText (r : Record) : String :=
  if r.trouble.present && error ≤ r.level then r.message ++ "\n" ++ traceback else r.message

/-- **The console line of a record.** -/
def consoleLine (colours : Bool) (now : DateTime) (c : Context) (r : Record) :
    Except Failure String := do
  let named := fun (v : Value) => if v.truthy then [s!"[{v.text}]"] else []
  let lead := " - ".intercalate
    ([now.stamp, levelText colours r.level] ++ named c.cluster ++ named c.component)
  let ts ← tags c r
  let tagText := " ".intercalate ts
  if ts.isEmpty then return s!"{lead} - {messageText r}"
  else return s!"{lead} - {tagText} {messageText r}"

/-! ## Plain files and the error stream -/

/-- A line of a plain log file. -/
def plainLine (now : DateTime) (r : Record) : String :=
  withTrace r s!"{now.stampMillis} - {r.logger} - {levelName r.level} - [{r.file}:{r.line}] - {r.message}"
where
  /-- The stack trace on a line of its own. -/
  withTrace (r : Record) (s : String) : String :=
    if r.trouble.present then s ++ (if s.toList.getLast? == some '\n' then "" else "\n") ++ traceback
    else s

/-- A line of the configuration tool: the level and the message. -/
def toolLine (r : Record) : String := plainLine.withTrace r s!"{levelName r.level}: {r.message}"

/-- A line of last resort: the message. -/
def bareLine (r : Record) : String := plainLine.withTrace r r.message

end SecureStartup.Log
