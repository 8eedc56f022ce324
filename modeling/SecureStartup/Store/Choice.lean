import SecureStartup.Store.Hdfs
import SecureStartup.Store.Local

/-!
  The store that settings describe (`create_shared_filesystem`).

  No settings, no store.  Otherwise the kind decides, which is local unless the settings say otherwise;
  a mounted store needs a base path, one in HDFS a URL.  What the settings leave out is filled in here:
  the user in HDFS is nothing, and the base the home directory's `.amsecurity`.

  `AnyStore` keeps apart what `SharedStore` makes alike: where it matters which kind of store it is, for
  instance in what is said about removing a source, statements are about `AnyStore`.
-/

namespace SecureStartup.Store

open SecureStartup.Config

/-- A store of either kind. -/
inductive AnyStore where
  | onHost (s : LocalStore)
  | hdfs (s : HdfsStore)

/-- A store by its two operations. -/
def AnyStore.shared : AnyStore → SharedStore
  | .onHost s => s.shared
  | .hdfs s => s.shared

/-- The local store of some settings. -/
def localOf (settings : Entries) : Act LocalStore := do
  let base := settings.field "base_path"
  if !base.truthy then throw (.invalid .storeNeedsBasePath)
  LocalStore.at_ base

/-- The store in HDFS of some settings. -/
def hdfsOf (settings : Entries) (clients : Clients) : Act HdfsStore := do
  let url := settings.field "url"
  if !url.truthy then throw (.invalid .storeNeedsUrl)
  let user := (settings.field "user").orElse .none
  let base := (settings.field "base_path").orElse (.str defaultBase)
  return ⟨url, user, base, ← clients url user⟩

/-- **The store that settings describe**: none when there are no settings. -/
def ofSettings (settings : Value) (clients : Clients) : Act (Option AnyStore) := do
  if !settings.truthy then return none
  let es ← Act.ofExcept (entriesOf settings)
  let kind := AppConfig.storeKind es
  if kind.same (.str "local") then return some (.onHost (← localOf es))
  else if kind.same (.str "webhdfs") then return some (.hdfs (← hdfsOf es clients))
  else Act.ofExcept (kind.refusedAs (.storeType kind))

end SecureStartup.Store
