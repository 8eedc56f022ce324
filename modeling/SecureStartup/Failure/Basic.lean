import SecureStartup.Failure.System
import SecureStartup.Security.Keys

/-!
  Failures, by cause.

  Every way in which start-up can fail is a constructor here, and its wording is in one place
  (`Failure.text`).  Four families matter to callers:

    * a SETUP failure — the security set-up itself is wrong or its environment is (`SetupIssue`);
    * a SYSTEM failure — the operating system, or a store, refused;
    * an INVALID value — a setting or name that can be said to be wrong (`Invalid`);
    * a MISMATCH — a value of a kind that no rule foresees.

  Set-up failures are `SecurityConfigError` and what is derived from it: `BadConfigurationError`,
  `BadStateError` and `StagingError` (`SetupKind`).  They carry a context for the log (`SetupIssue.context`)
  and the failure behind them, which the text repeats after `Caused by`.

  Failures that other parts of a program raise are kept as `foreign`, with their name and arguments,
  or as `unspoken` when they have no text of their own to give.

  Asking a failure for its text can itself fail: a whole number of more than `Number.maxDigits` digits
  is not written out, and `SecurityConfigError` joins a message that has to be text.  Whoever logs or
  prints a failure therefore asks first (`log_exception`, `_print_error`), and fails with what the
  question fails with.  For a mistake that the runtime reports in words of its own, the words are the
  host's (`Host.words`).
-/

namespace SecureStartup

open SecureStartup.Security

/-! ## Values that can be said to be wrong -/

/-- A value, name or argument that a rule of this library rejects. -/
inductive Invalid where
  /-- The loaded configuration names no cluster. -/
  | clusterNameRequired
  /-- The configured identity source is none of the known ones. -/
  | identitySourceSetting (got : Value)
  /-- A component's settings are no mapping. -/
  | componentNotMapping (name got : Value)
  /-- The configured kind of shared store is none of the known ones. -/
  | storeTypeSetting (got : Value)
  | storeBasePathSetting
  | storeUrlSetting
  /-- The configured staging root is no directory. -/
  | stagingRootSetting (got : Value)
  /-- The file has no section for the application master. -/
  | noSection
  /-- An identity provider was asked for by an unknown name. -/
  | identitySource (got : Value)
  /-- A store was asked for by an unknown kind. -/
  | storeType (got : Value)
  | storeNeedsBasePath
  | storeNeedsUrl
  /-- A required argument is missing. -/
  | missing (what : String)
  | emptyName (what : String)
  | absoluteName (what name : String)
  | climbingName (what name : String)
  /-- A remote path lies outside its store. -/
  | escapesStore (remote : String)
  /-- An item of a sequence is no pair, so the sequence is no mapping. -/
  | notPair (index length : Nat)
  /-- A path holds the character that ends paths. -/
  | nulInPath
  /-- A path, or the name of a variable, holds halves of surrogate pairs, for which there are no
      bytes, from a position on. -/
  | halvesInText (position : Nat) (halves : List Nat)
  /-- A whole number has too many digits to be written. -/
  | numberTooLong
  /-- Any other text, for instance about a number or date in a document. -/
  | other (text : String)
  deriving Inhabited

namespace Invalid

/-- The known identity sources, as a message lists them. -/
def identitySources : String := "['process', 'ticket_cache']"

/-- The known kinds of shared stores, as a message lists them. -/
def storeTypes : String := "['local', 'webhdfs']"

/-- The wording. -/
def message : Invalid → String
  | clusterNameRequired => "cluster_name is required in appmaster section"
  | identitySourceSetting got =>
    s!"appmaster.login_identity must be one of {identitySources}, got '{got.text}'"
  | componentNotMapping name got =>
    s!"appmaster.components.{name.text} must be a mapping of settings, got {got.kindName}"
  | storeTypeSetting got =>
    s!"appmaster.shared_fs.type must be one of {storeTypes}, got '{got.text}'"
  | storeBasePathSetting => "appmaster.shared_fs.base_path is required for type 'local'"
  | storeUrlSetting => "appmaster.shared_fs.url is required for type 'webhdfs'"
  | stagingRootSetting got =>
    s!"appmaster.staging.root must be an existing directory, got '{got.text}'"
  | noSection =>
    "Invalid config file: missing 'appmaster:' section\nSee config.yaml.example for correct structure"
  | identitySource got =>
    s!"Unknown login identity source '{got.text}'. Must be one of {identitySources}"
  | storeType got =>
    s!"Unknown shared filesystem type '{got.text}'. Must be one of {storeTypes}"
  | storeNeedsBasePath => "shared_fs.base_path is required for a local shared filesystem"
  | storeNeedsUrl => "shared_fs.url is required for a webhdfs shared filesystem"
  | missing what => s!"{what} is required"
  | emptyName what => s!"Empty {what}"
  | absoluteName what name => s!"{what} must be relative, got absolute path: {name}"
  | climbingName what name => s!"{what} cannot contain '..': {name}"
  | escapesStore remote => s!"Remote path escapes shared filesystem base: {remote}"
  | notPair index length =>
    s!"dictionary update sequence element #{index} has length {length}; 2 is required"
  | nulInPath => "embedded null byte"
  | halvesInText position [half] =>
    let code := String.ofList (Text.escapedCode half)
    s!"'utf-8' codec can't encode character '{code}' in position {position}: surrogates not allowed"
  | halvesInText position halves =>
    s!"'utf-8' codec can't encode characters in position {position}-{position + halves.length - 1}: "
      ++ "surrogates not allowed"
  | numberTooLong => s!"Exceeds the limit ({Number.maxDigits} digits) for integer string conversion; "
      ++ "use sys.set_int_max_str_digits() to increase the limit"
  | other text => text

/-- Why a text cannot be turned into bytes. -/
def forBytes? (text : String) : Option Invalid :=
  (Text.firstLostHalves? text.toList).map fun p => .halvesInText p.1 p.2

/-- Why the system cannot be given a text as a path. -/
def forSystem? (text : String) : Option Invalid :=
  match forBytes? text with
  | some why => some why
  | none => if text.toList.contains (Char.ofNat 0) then some .nulInPath else none

end Invalid

/-! ## Values of an unforeseen kind -/

/-- How a value of the wrong kind fails. -/
inductive Mismatch where
  /-- The kind of value has no such operation. -/
  | wrongType
  /-- The kind of value has no such part. -/
  | noPart
  /-- There is nothing under this key. -/
  | noKey (key : Value)
  /-- There is nothing at this index. -/
  | noIndex
  /-- The value is beyond the range of what it is turned into. -/
  | outOfRange
  deriving Inhabited

namespace Mismatch

/-- The name of a mismatch. -/
def name : Mismatch → String
  | wrongType => "TypeError"
  | noPart => "AttributeError"
  | noKey _ => "KeyError"
  | noIndex => "IndexError"
  | outOfRange => "OverflowError"

end Mismatch

/-! ## Failures of the security set-up -/

/-- The four kinds of set-up failures. -/
inductive SetupKind where
  | general
  | badConfiguration
  | badState
  | staging
  deriving DecidableEq, Inhabited, Repr

namespace SetupKind

/-- The name of a kind. -/
def name : SetupKind → String
  | general => "SecurityConfigError"
  | badConfiguration => "BadConfigurationError"
  | badState => "BadStateError"
  | staging => "StagingError"

/-- The category that a kind is reported under. -/
def category : SetupKind → Category
  | general => .unknown
  | badConfiguration => .badConfiguration
  | badState => .badState
  | staging => .staging

end SetupKind

/-- What is wrong with the security set-up. -/
inductive SetupIssue where
  /-- No principal is configured and the identity could not be looked up. -/
  | lookupFailed
  /-- No principal is configured and there is no identity. -/
  | noPrincipal
  /-- The identity that validation found is gone. -/
  | identityGone
  /-- Neither way to a keytab is configured. -/
  | noKeytab
  /-- Both ways to a keytab are configured. -/
  | twoKeytabs
  /-- A shared keytab is configured, but no shared store. -/
  | noStore (keytab : String)
  /-- The staging directory could not be made. -/
  | cannotCreate (dir reason : String)
  /-- The mode of a staged path could not be set. -/
  | cannotProtect (path mode reason : String)
  /-- An issue that another part of a program reports.  Its message should be a text. -/
  | reported (kind : SetupKind) (message context : Value) (path : Option String)
  deriving Inhabited

namespace SetupIssue

/-- The kind of an issue. -/
def kind : SetupIssue → SetupKind
  | lookupFailed | identityGone => .badState
  | noPrincipal | noKeytab | twoKeytabs | noStore _ => .badConfiguration
  | cannotCreate _ _ | cannotProtect _ _ _ => .staging
  | reported k _ _ _ => k

/-- The message, without the cause: a text, unless another part of a program gave something else. -/
def message : SetupIssue → Value
  | lookupFailed => .str <|
    "No principal configured for the application and an exception was raised during retrieval of "
      ++ "the login user. Unable to proceed with application initialization. Please ensure a value "
      ++ s!"for {principalKey} exists in the application configuration or the login issue is "
      ++ "addressed."
  | noPrincipal => .str <|
    "No principal configured for the application and no login user found. Unable to proceed with "
      ++ s!"application initialization. Please ensure a value for {principalKey} exists in the "
      ++ "application configuration or the login issue is addressed."
  | identityGone => .str "No principal configured and the login user is no longer available"
  | noKeytab => .str <|
    s!"Either a keytab path on the cluster host ({localKeytabKey}) or a keytab to be retrieved "
      ++ s!"from the shared filesystem ({sharedKeytabKey}) is required. Please configure one of the "
      ++ "keytab retrieval mechanisms."
  | twoKeytabs => .str <|
    s!"Both a keytab on the cluster host ({localKeytabKey}) and a keytab to be retrieved from the "
      ++ s!"shared filesystem ({sharedKeytabKey}) are specified. Please configure only one keytab "
      ++ "retrieval mechanism."
  | noStore keytab => .str <|
    s!"Keytab {keytab} must be fetched from the shared filesystem but no shared filesystem is "
      ++ "configured"
  | cannotCreate dir reason => .str s!"Unable to create local keytab directory {dir}: {reason}"
  | cannotProtect path mode reason => .str s!"Unable to set permissions {mode} on {path}: {reason}"
  | reported _ m _ _ => m

/-- The path concerned, for issues of staging. -/
def path? : SetupIssue → Option String
  | cannotCreate dir _ => some dir
  | cannotProtect path _ _ => some path
  | reported _ _ _ p => p
  | _ => none

/-- What an operator gets beside the message: the keys, modes and paths concerned. -/
def context : SetupIssue → Value
  | lookupFailed | noPrincipal | identityGone => .ofFields [("config_key", .str principalKey)]
  | noKeytab | twoKeytabs =>
    .ofFields [("config_keys", .list [.str localKeytabKey, .str sharedKeytabKey])]
  | noStore _ => .ofFields [("config_key", .str sharedKeytabKey)]
  | cannotCreate dir _ => .ofFields [("path", .str dir)]
  | cannotProtect path mode _ => .ofFields [("file_mode", .str mode), ("path", .str path)]
  | reported _ _ c _ => c

end SetupIssue

/-! ## Failures -/

/-- A failure of any family. -/
inductive Failure where
  /-- Something is wrong with the security set-up, possibly because of another failure. -/
  | setup (issue : SetupIssue) (cause : Option Failure)
  /-- The operating system refused an operation on a path. -/
  | refused (why : Refusal) (path : String)
  /-- A system failure of a given kind: a text alone, or number, text and possibly path. -/
  | system (kind : String) (args : List Value)
  /-- A file was to be copied onto itself. -/
  | sameFile (source target : String)
  | invalid (why : Invalid)
  | mismatch (why : Mismatch)
  /-- A document that is not well formed. -/
  | malformed
  /-- A value that contains itself, or is nested too deep. -/
  | endless
  /-- A path that leads back to itself. -/
  | linkLoop (path : String)
  /-- A failure of some other part of a program, with the category and context it may carry. -/
  | foreign (name : String) (args : List Value) (category context : Option Value)
  /-- A failure of some other part of a program that has no text: asking for it fails in turn. -/
  | unspoken (name : String) (trouble : Failure) (category context : Option Value)
  /-- The program ends here with this status. -/
  | exit (status : Nat)
  deriving Inhabited

namespace Failure

/-- A system failure with a text of its own. -/
def systemText (kind text : String) : Failure := .system kind [.str text]

/-- Whether an argument list gives number, text and possibly paths, and not just a text. -/
def isNumbered (args : List Value) : Bool := 2 ≤ args.length && args.length ≤ 5

/-- A system failure by its arguments.  A number among them decides the kind of a plain one. -/
def ofSystem (kind : String) (args : List Value) : Failure :=
  let kind := if kind == "IOError" || kind == "EnvironmentError" then "OSError" else kind
  if kind == "OSError" && isNumbered args then
    .system (((args.head?.bind Value.wholeNumber?).map systemKind).getD kind) args
  else .system kind args

/-- A staging issue; the path goes into the context unless one is there already. -/
def staging (message : Value) (path : Option String) (context : Entries) (cause : Option Failure) :
    Failure :=
  let context := match path with
    | some p => if context.has (.str "path") then context else context.insert (.str "path") (.str p)
    | none => context
  .setup (.reported .staging message (.map context) path) cause

end Failure

namespace Value

/-- A value's text, if it can be written. -/
def written (v : Value) : Except Failure String :=
  if v.isWritable then .ok v.text else .error (.invalid .numberTooLong)

/-- A value as it is shown inside others, if it can be written. -/
def shownWritten (v : Value) : Except Failure String :=
  if v.isWritable then .ok v.shown else .error (.invalid .numberTooLong)

/-- A rule refuses a value in words that hold it, which therefore has to be writable. -/
def refusedAs {α : Type} (v : Value) (why : Invalid) : Except Failure α :=
  if v.isWritable then .error (.invalid why) else .error (.invalid .numberTooLong)

end Value

namespace Failure

/-! ## Texts -/

/-- The text of an argument list: nothing, the one argument, or all as a tuple. -/
def argsText : List Value → Except Failure String
  | [] => .ok ""
  | [a] => a.written
  | args => (Value.tuple args).written

/-- The places that a system failure names behind its text; of a third argument between the two paths
    nothing is said. -/
def placesText : List Value → Except Failure String
  | [] | .none :: _ => .ok ""
  | path :: _ :: other :: _ => do
    if other matches .none then return s!": {← path.shownWritten}"
    return s!": {← path.shownWritten} -> {← other.shownWritten}"
  | path :: _ => return s!": {← path.shownWritten}"

/-- The text of a system failure: number, text and paths when they are given. -/
def systemMessage (args : List Value) : Except Failure String := do
  match args with
  | code :: text :: more =>
    if isNumbered args then
      return s!"[Errno {← code.written}] {← text.written}{← placesText more}"
    else argsText args
  | _ => argsText args

/-- **The text of a failure**, with the texts of its causes, which are asked for first.  `words` are
    the runtime's own, for failures of its making. -/
def text (words : Failure → String) : Failure → Except Failure String
  | setup issue none => ofMessage issue.message
  | setup issue (some cause) => do
    let behind ← text words cause
    return s!"{← ofMessage issue.message} | Caused by: {behind}"
  | refused why path => .ok s!"[Errno {why.code}] {why.text}: {Text.quoted path}"
  | system _ args => systemMessage args
  | sameFile source target =>
    .ok s!"PosixPath({Text.quoted source}) and {Text.quoted target} are the same file"
  | invalid why => .ok why.message
  | mismatch (.noKey k) => k.shownWritten
  | mismatch why => .ok (words (.mismatch why))
  | malformed => .ok (words .malformed)
  | endless => .ok "maximum recursion depth exceeded"
  | linkLoop path => .ok s!"Symlink loop from {Text.quoted path}"
  | foreign "KeyError" [a] _ _ => a.shownWritten
  | foreign _ args _ _ => argsText args
  | unspoken _ trouble _ _ => .error trouble
  | exit status => .ok (toString status)
where
  /-- A message has to be a text. -/
  ofMessage : Value → Except Failure String
    | .str s => .ok s
    | _ => .error (.mismatch .wrongType)

/-- The name of a failure's kind. -/
def name : Failure → String
  | setup issue _ => issue.kind.name
  | refused why _ => systemKind why.code
  | system kind _ => kind
  | sameFile _ _ => "SameFileError"
  | invalid (.halvesInText _ _) => "UnicodeEncodeError"
  | invalid _ => "ValueError"
  | mismatch why => why.name
  | malformed => "YAMLError"
  | endless => "RecursionError"
  | linkLoop _ => "RuntimeError"
  | foreign n _ _ _ => n
  | unspoken n _ _ _ => n
  | exit _ => "SystemExit"

/-- The text of a system failure without number and path, when it has one. -/
def systemReason : Failure → Value
  | refused why _ => .str why.text
  | system _ args => if isNumbered args then args.getD 1 .none else .none
  | _ => .none

/-- The reason given to an operator: the system's text when there is one, else everything. -/
def reason (words : Failure → String) (f : Failure) : Except Failure String :=
  if f.systemReason.truthy then f.systemReason.written else f.text words

/-- Whether the reason of a failure of the system can be told. -/
def isTold : Failure → Bool
  | system _ args => args.all Value.isWritable
  | _ => true

/-- The context of a failure, when it has one. -/
def context? : Failure → Option Value
  | setup issue _ => some issue.context
  | foreign _ _ _ context | unspoken _ _ _ context => context
  | _ => none

/-! ## Families -/

/-- A failure of the security set-up. -/
def isSetup : Failure → Bool
  | setup _ _ => true
  | _ => false

/-- A refusal of the operating system or of a store. -/
def isSystem : Failure → Bool
  | refused _ _ | system _ _ | sameFile _ _ => true
  | _ => false

/-- A value that was said to be wrong. -/
def isInvalid : Failure → Bool
  | invalid _ => true
  | foreign name _ _ _ | unspoken name _ _ _ => name == "ValueError" || name == "UnicodeError"
  | _ => false

/-- A file that was looked for and not found. -/
def isMissingFile : Failure → Bool
  | refused .noEntry _ => true
  | system "FileNotFoundError" _ => true
  | _ => false

end Failure

/-- What making a directory or setting a mode can fail with besides a plain refusal.  Whatever it is,
    a failure of the system says what it is. -/
structure Fault where
  failure : Failure
  told : failure.isTold = true

end SecureStartup
