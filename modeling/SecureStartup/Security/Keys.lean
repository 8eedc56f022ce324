import SecureStartup.Value.Text

/-!
  The settings that the security set-up reads, and when a setting counts as set (`is_set`).

  A setting is SET when it is neither nothing nor the empty string.  Zero, false and the empty list
  are set: only what an operator would call "left blank" is not.  This differs from being GIVEN
  (`Value.truthy`), which is what the loader asks of the settings that it fills in.
-/

namespace SecureStartup.Security

/-- The component whose settings hold the security options of the application master. -/
def masterComponent : String := "appmaster"

/-- Principal to log in as. -/
def principalKey : String := "am.keytab.principal.name"

/-- Keytab that already lies on the host. -/
def localKeytabKey : String := "am.keytab.local.path"

/-- Keytab to be fetched from the shared store. -/
def sharedKeytabKey : String := "am.login.keytab.name"

/-- The cluster's authentication method. -/
def authenticationKey : String := "hadoop.security.authentication"

/-- The method under which a cluster is secure. -/
def kerberos : String := "kerberos"

/-- **Set**: neither nothing nor the empty string. -/
def isSet : Value → Bool
  | .none => false
  | .str s => s != ""
  | _ => true

end SecureStartup.Security
