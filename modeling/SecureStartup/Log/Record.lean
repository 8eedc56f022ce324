import SecureStartup.Failure.Exit

/-!
  Log records, and the context they are written in (`set_log_context`).

  A record carries its logger's name, a level, a message and extra fields; it may carry a failure,
  or the information that there was none to carry.  The context names the cluster, the component and
  the trace of this start-up, and goes into every line.

  `fieldNames` is `JSONFormatter.EXTRA_FIELDS`, in the order in which a line has them: of all that a call
  may have in its extra fields, nothing else is written.
-/

namespace SecureStartup.Log

/-- The levels that have a name. -/
def debug : Int := 10
def info : Int := 20
def warning : Int := 30
def error : Int := 40
def critical : Int := 50

/-- The name of a level. -/
def levelName (n : Int) : String :=
  if n == 0 then "NOTSET"
  else if n == debug then "DEBUG"
  else if n == info then "INFO"
  else if n == warning then "WARNING"
  else if n == error then "ERROR"
  else if n == critical then "CRITICAL"
  else s!"Level {n}"

/-- The level of a name on the command line. -/
def levelOf (name : String) : Int :=
  if name == "DEBUG" then debug
  else if name == "WARNING" then warning
  else if name == "ERROR" then error
  else info

/-- What every line of a start-up has in common. -/
structure Context where
  cluster : Value := .str ""
  component : Value := .str ""
  trace : Value := .str ""
  deriving Inhabited

namespace Context

/-- Change the parts that are given. -/
def update (c : Context) (cluster component trace : Value) : Context :=
  let pick := fun (new old : Value) => match new with
    | .none => old
    | v => v
  ⟨pick cluster c.cluster, pick component c.component, pick trace c.trace⟩

/-- The context as a mapping. -/
def shown (c : Context) : Value :=
  .ofFields [("cluster_name", c.cluster), ("component", c.component), ("trace_id", c.trace)]

end Context

/-- The failure that a record reports. -/
inductive Trouble where
  /-- None was asked for. -/
  | absent
  /-- One was asked for, but there was none. -/
  | empty
  /-- A failure, and what becomes of asking for its text. -/
  | failure (f : Failure) (text : Except Failure String)

instance : Inhabited Trouble := ⟨.absent⟩

/-- Whether a record has anything to say about a failure. -/
def Trouble.present : Trouble → Bool
  | absent => false
  | _ => true

/-- A log record. -/
structure Record where
  logger : String
  level : Int
  message : String
  extras : Entries := []
  trouble : Trouble := .absent
  /-- Where the record was made: a file and a line. -/
  file : String := ""
  line : Int := 0
  deriving Inhabited

/-- The fields that go into a JSON line, in their order there. -/
def fieldNames : List String :=
  ["trace_id", "duration_ms", "principal", "login_user", "identity_source", "keytab_source",
   "keytab_name", "keytab_path", "remote_path", "staging_dir", "file_mode", "config_key",
   "config_keys", "config_path", "security_enabled", "shared_fs", "shared_fs_url", "base_path",
   "error_category", "error_message", "error_type", "exit_code"]

/-- The fields of a record that are present, in order. -/
def Record.fields (r : Record) : List (String × Value) :=
  fieldNames.filterMap fun name =>
    match r.extras.field name with
    | .none => none
    | v => some (name, v)

/-- The text that stands for a stack trace. -/
def traceback : String := "<traceback>"

end SecureStartup.Log
