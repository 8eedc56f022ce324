import SecureStartup.Security.Setup

/-!
  Questions to a set-up, and what happens between them.

  A set-up holds on to the very mappings that it was made from, and whoever else holds them can change
  them.  A session is any number of questions with changes of the mappings, and of the host, between
  them; it records each question with what it found and what it answered.  A question that fails does
  not end the session.

  `Query` has one question for each method and property of `SecurityConfiguration`, and one for looking
  through the set-up again (`ConfigValidator.validate`).  `Mappings` holds the settings of the master
  beside those of all components: they are one mapping, seen in two ways, and a change cannot bring the
  two apart (`isMaster`).
-/

namespace SecureStartup.Security

open SecureStartup.Config

/-! ## Questions -/

/-- A question to a set-up. -/
inductive Query where
  | enabled
  | principal
  | source
  /-- The path of a keytab on the host, if one is set. -/
  | localPath
  /-- The name of a shared keytab, if one is set. -/
  | sharedName
  | validate
  | keytabFile (store : Option SharedStore) (principal : String)
  | clusterName
  | shown
  /-- The mappings themselves: the cluster's, all components', one component's and the master's. -/
  | cluster
  | components
  | component (name : String)
  | settings

/-- An answer. -/
inductive Answer where
  | done
  | flag (b : Bool)
  | text (s : String)
  | setting (s : Option String)
  | source (s : KeytabSource)
  | value (v : Value)

/-- **Answer a question.** -/
def Setup.answer (s : Setup) : Query → Act Answer
  | .enabled => return .flag (← Act.ofExcept s.isEnabled)
  | .principal => return .text (← s.principal)
  | .source => return .source (← Act.ofExcept s.source)
  | .localPath => return .setting (← Act.ofExcept (s.setting? localKeytabKey))
  | .sharedName => return .setting (← Act.ofExcept (s.setting? sharedKeytabKey))
  | .validate => do
    s.validate
    return .done
  | .keytabFile store principal => return .text (← s.keytabFile store principal)
  | .clusterName => return .value s.clusterName
  | .shown => return .text (← Act.ofExcept s.shown)
  | .cluster => return .value s.cluster
  | .components => return .value (.map s.components)
  | .component name => return .value (s.components.component name)
  | .settings => return .value s.settings

/-! ## Mappings that change -/

/-- The mappings of a set-up; the settings of the master are one themselves. -/
structure Mappings where
  cluster : Entries
  components : InstanceDefinition
  master : Entries
  isMaster : components.component masterComponent = .map master

/-- A set-up over mappings as they have become. -/
def Setup.over (s : Setup) (m : Mappings) : Setup :=
  { s with cluster := .map m.cluster, components := m.components }

/-- A step of a session. -/
inductive Step where
  | query (q : Query)
  /-- The mappings change, in whatever way. -/
  | change (f : Mappings → Mappings)
  /-- Something else happens on the host. -/
  | world (f : Host → Host)

/-- What a question found and what it answered. -/
structure Moment where
  mappings : Mappings
  query : Query
  before : Host
  outcome : Except Failure Answer
  after : Host

/-- **A session** of a set-up. -/
def Setup.session (s : Setup) : Mappings → List Step → Host → List Moment
  | _, [], _ => []
  | m, .query q :: steps, h =>
    let (outcome, after) := ((s.over m).answer q).on h
    ⟨m, q, h, outcome, after⟩ :: s.session m steps after
  | m, .change f :: steps, h => s.session (f m) steps h
  | m, .world f :: steps, h => s.session m steps (f h)

end SecureStartup.Security
