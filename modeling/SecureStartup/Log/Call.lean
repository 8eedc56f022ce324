import SecureStartup.Log.Record

/-!
  What is asked of a logger (`log_with_context`, `log_exception`).

  A call carries a level, a message and extra fields.  Names that records use themselves are taken
  out of the extra fields, so that no call can be refused for them.  A call that reports a failure
  adds what the failure says about itself; text and kind always come from the failure, everything
  else from the caller first and from the failure's context second.

  `withFields` is `log_with_context`, and `ofKeywords` is `log_exception`; what the logger makes of a
  call is `record`.  Both functions take fields as keywords, so a field cannot have the name of one of
  their own arguments.

  `ofFailure` is the body of `log_exception`, step by step in its order: `withCategory`, `withContext`,
  the text, and `withText` with the text cut (`cutText`).  The order shows only where a failure cannot
  answer: asking it for its category, and for its text, can fail, and then no call is made.
-/

namespace SecureStartup.Log

/-- The names that records use themselves. -/
def reservedNames : List String :=
  ["name", "msg", "args", "levelname", "levelno", "pathname", "filename", "module", "lineno",
   "funcName", "created", "asctime", "msecs", "relativeCreated", "thread", "threadName",
   "processName", "process", "message", "exc_info", "exc_text", "stack_info"]

/-- Whether a key is a name that records use. -/
def isReserved (k : Value) : Bool := reservedNames.any fun n => k.same (.str n)

/-- What a call says about a failure. -/
inductive Report where
  /-- Nothing at all. -/
  | unasked
  /-- Whether the failure at hand, if any, is to be shown. -/
  | asked (v : Value)
  /-- A failure with its text. -/
  | failure (f : Failure) (text : String)
  deriving Inhabited

/-- A call of a logger. -/
structure Call where
  level : Value
  message : Value
  extra : Entries
  report : Report
  deriving Inhabited

namespace Call

/-- The fields that may go into a record. -/
def permitted (fields : Entries) : Entries := fields.filter fun e => !isReserved e.1

/-- No permitted field has a reserved name. -/
theorem not_isReserved_of_mem_permitted {fields : Entries} {e : Value × Value}
    (h : e ∈ permitted fields) : isReserved e.1 = false := by
  simpa using (List.mem_filter.1 h).2

/-- Fields whose names are arguments of the call cannot be passed beside these. -/
def clashes (arguments : List String) (fields : Entries) : Bool :=
  arguments.any fun a => fields.has (.str a)

/-- A field taken out of the others. -/
def without (fields : Entries) (name : String) : Entries :=
  fields.filter fun e => !e.1.same (.str name)

/-- **A call with fields** (`log_with_context`). -/
def withFields (level message : Value) (fields : Entries) : Except Failure Call :=
  if clashes ["logger", "level", "msg"] fields then .error (.mismatch .wrongType)
  else
    .ok ⟨level, message, permitted (without fields "exc_info"), .asked (fields.field "exc_info")⟩

/-- The longest failure text that is logged. -/
def longestText : Nat := 500

/-- A text, cut when it is too long. -/
def cutText (s : String) : String :=
  let cs := s.toList
  if longestText < Text.letterCount cs then
    String.ofList (Text.takeLetters longestText cs ++ "...".toList)
  else s

/-- Fields added where there are none of their name. -/
def addMissing (fields more : Entries) : Entries :=
  more.foldl (fun es e => if es.has e.1 then es else es.insert e.1 e.2) fields

/-- The caller's category, or else the failure's own. -/
def withCategory (f : Failure) (fields : Entries) : Except Failure Entries :=
  match fields.field "error_category" with
  | .none => do
    match ← f.categoryWord? with
    | some word => return fields.insert (.str "error_category") (.str word)
    | none => return fields
  | _ => .ok fields

/-- The failure's context, where the caller gives nothing. -/
def withContext (f : Failure) (fields : Entries) : Entries :=
  match f.context? with
  | some (.map context) => addMissing fields context
  | _ => fields

/-- The failure's text and kind, in place of whatever stands there. -/
def withText (f : Failure) (text : String) (fields : Entries) : Entries :=
  (fields.insert (.str "error_message") (.str (cutText text))).insert
    (.str "error_type") (.str f.name)

/-- **A call that reports a failure**: its category unless the caller gives one, its context where the
    caller gives nothing, its text and its kind.  A failure that cannot say what it is cannot be
    reported: then there is no call. -/
def ofFailure (words : Failure → String) (f : Failure) (message level : Value) (traced : Bool)
    (fields : Entries) : Except Failure Call := do
  let fields := withContext f (← withCategory f fields)
  let text ← f.text words
  return ⟨level, message, permitted (withText f text fields),
    if traced then .failure f text else .unasked⟩

/-- The arguments of `log_exception` that come before its keywords; no keyword may have their
    names. -/
def failureArguments : List String := ["logger", "exc", "msg"]

/-- The keywords that `log_exception` keeps to itself. -/
def failureKeywords : List String := ["level", "include_traceback"]

/-- **A call that reports a failure, with keywords** (`log_exception`).  Two keywords are arguments of
    its own, the level and whether a stack trace is wanted; all others are fields. -/
def ofKeywords (words : Failure → String) (f : Failure) (message : Value) (keywords : Entries) :
    Except Failure Call :=
  if clashes failureArguments keywords then .error (.mismatch .wrongType)
  else
    let level := (keywords.get? (.str "level")).getD (.int error)
    let traced := ((keywords.get? (.str "include_traceback")).getD (.bool true)).truthy
    ofFailure words f message level traced (failureKeywords.foldl without keywords)

/-- The record of a call on a logger; a level has to be a number. -/
def record (c : Call) (logger : String) : Except Failure Record :=
  match c.level.asInt? with
  | none => .error (.mismatch .wrongType)
  | some level =>
    let trouble := match c.report with
      | .unasked => Trouble.absent
      | .asked v => if v.truthy then .empty else .absent
      | .failure f text => .failure f (.ok text)
    .ok { logger := logger, level := level, message := c.message.text, extras := c.extra
          trouble := trouble, file := logger }

end Call

end SecureStartup.Log
