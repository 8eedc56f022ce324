import SecureStartup.Config.Settings
import SecureStartup.Host.Basic

/-!
  The login identity: who the application runs as (`create_identity_provider`).

  It is the operating system's login user (`ProcessLoginIdentityProvider`), or the default principal of
  the Kerberos credential cache as the cache's lister prints it (`TicketCacheIdentityProvider`).  A
  lookup gives an identity, or none, or fails; "none" is an answer of its own and not a failure.

    * `principalComponents` — `get_components`: a principal cut at every slash and every at sign;
    * `LoginIdentity.shortName` — `short_user_name`, the first component;
    * `loginUser` — the first of four variables that is not empty, else the user database;
    * `listCommand`, `cachedIdentity` — `_command` and `get_login_identity` of the second provider;
    * `defaultPrincipal?` — the pattern `^\s*Default principal:\s*(\S+)\s*$`, by lines.

  The white space of that pattern may hold line breaks.  So what stands behind the label can begin on a
  later line (`labelledWord?`), and the text is read from place to place with a note whether only blanks
  have come since the last line break (`fresh`).
-/

namespace SecureStartup

open SecureStartup.Text

/-! ## Principals -/

/-- What separates the components of a principal. -/
def isPrincipalMark (c : Char) : Bool := c == '/' || c == '@'

/-- **The components of a principal**: short name, instance, realm. -/
def principalComponents (name : String) : List String :=
  (splitWhere isPrincipalMark name.toList).map String.ofList

/-- A login identity. -/
structure LoginIdentity where
  userName : String
  deriving DecidableEq, Inhabited

/-- The user name without instance and realm. -/
def LoginIdentity.shortName (i : LoginIdentity) : String :=
  ((principalComponents i.userName).head?).getD ""

/-- The components of a principal are never none. -/
theorem principalComponents_ne_nil (name : String) : principalComponents name ≠ [] := by
  simp [principalComponents, splitWhere_ne_nil]

/-! ## Providers -/

/-- Where identities come from. -/
inductive IdentityProvider where
  /-- The operating system's login user. -/
  | process
  /-- The credential cache, by the name of its lister and the cache's own name if it is given. -/
  | ticketCache (lister : String) (cache : Value)
  /-- The answers that the host has prepared. -/
  | prepared
  deriving Inhabited

namespace IdentityProvider

/-- The name of a kind of provider. -/
def name : IdentityProvider → String
  | process => "ProcessLoginIdentityProvider"
  | ticketCache _ _ => "TicketCacheIdentityProvider"
  | prepared => "prepared"

/-- The provider that a configured source stands for. -/
def ofSource (source : Value) (lister : String) (cache : Value) : Except Failure IdentityProvider :=
  if source.same (.str "process") then .ok .process
  else if source.same (.str "ticket_cache") then .ok (.ticketCache lister cache)
  else source.refusedAs (.identitySource source)

end IdentityProvider

/-! ## The login user -/

/-- The variables that may name the login user, in order. -/
def userVariables : List String := ["LOGNAME", "USER", "LNAME", "USERNAME"]

/-- The login user: the first variable that is not empty, else the user database. -/
def loginUser (h : Host) : Except Failure String :=
  match userVariables.findSome? fun v => (h.env? v).filter (· != "") with
  | some user => .ok user
  | none =>
    match h.userRecord with
    | some user => .ok user
    | none => .error (.systemText "OSError"
        "Unable to look up login user: 'getpwuid(): uid not found: 1234'")

/-! ## The credential cache -/

/-- The label in front of the default principal. -/
def principalLabel : List Char := "Default principal:".toList

/-- What follows the label when it is the first thing but blanks on a line. -/
def afterLabel? (line : List Char) : Option (List Char) := dropLead principalLabel line

/-- The word after a label (blanks and line breaks in between do not count), when only blanks stand
    between it and the end of its line. -/
def labelledWord? (s : List Char) : Option (List Char) :=
  let s := trimStart s
  let word := s.takeWhile fun c => !isBlank c
  let gap := (s.dropWhile fun c => !isBlank c).takeWhile isBlank
  let ends := gap.contains '\n' || gap.length + word.length == s.length
  if word.isEmpty || !ends then none else some word

/-- The default principal in the text that a lister prints: `fresh` says that only blanks stand
    between the last line break and this place. -/
def defaultPrincipal? (fresh : Bool) : List Char → Option (List Char)
  | [] => none
  | c :: r =>
    let here := if fresh then (afterLabel? (c :: r)).bind labelledWord? else none
    match here with
    | some word => some word
    | none => defaultPrincipal? (c == '\n' || (fresh && isBlank c)) r

/-- The command that lists a cache: the lister has to be there. -/
def listCommand (lister : String) (cache : Value) : Act (List String) := do
  Act.note (.which lister)
  match (← get).lister.place with
  | none => throw (.systemText "FileNotFoundError" s!"Kerberos klist binary not found: {lister}")
  | some place => return place :: (if cache.truthy then ["-c", cache.text] else [])

/-- The identity in a credential cache. -/
def cachedIdentity (lister : String) (cache : Value) : Act (Option LoginIdentity) := do
  let argv ← listCommand lister cache
  Act.note (.run argv)
  let r ← Act.ofExcept (← get).lister.outcome
  if r.status != 0 then
    Act.log "core.security.identity" Log.debug "No Kerberos credential cache available"
      [("identity_source", .str "ticket_cache"),
       ("error_message", .str (String.ofList (trim r.err.toList)))]
    return none
  else return (defaultPrincipal? true r.out.toList).map fun w => ⟨String.ofList w⟩

/-! ## Looking up -/

/-- **The login identity** that a provider reports. -/
def IdentityProvider.lookUp : IdentityProvider → Act (Option LoginIdentity)
  | .process => do
    let user ← Act.ofExcept (loginUser (← get))
    return if user == "" then none else some ⟨user⟩
  | .ticketCache lister cache => cachedIdentity lister cache
  | .prepared => do
    Act.note .lookUp
    let (answer, rest) := Host.takeNext (← get).answers
    modify fun h => { h with answers := rest }
    match answer with
    | none => return none
    | some a => return (← Act.ofExcept a).map (⟨·⟩)

end SecureStartup
