import SecureStartup.Config.Session
import SecureStartup.Security.Session
import SecureStartup.Main
import SecureStartup.Store.Prepared
import SecureStartup.Proofs.Keytab.History
import SecureStartup.Proofs.Security.Construction
import SecureStartup.Proofs.Startup.ExitCode
import SecureStartup.Proofs.Config.Expansion
import SecureStartup.Proofs.Store.Confinement
import SecureStartup.Proofs.Store.Layout
import SecureStartup.Proofs.Security.Session
import SecureStartup.Proofs.Startup.Loading
import SecureStartup.Proofs.Startup.Loaded
import SecureStartup.Proofs.Store.Credentials
import SecureStartup.Proofs.Startup.Twins
import SecureStartup.Proofs.Config.Priority
import SecureStartup.Proofs.Config.Reporting
import SecureStartup.Proofs.Config.Session
import SecureStartup.Proofs.Startup.Checking
import SecureStartup.Proofs.Startup.SecurityOff
import SecureStartup.Proofs.Security.Principal
import SecureStartup.Proofs.Config.Overriding
import SecureStartup.Proofs.Store.Separation
import SecureStartup.Proofs.Keytab.Naming
import SecureStartup.Proofs.Store.Moving
import SecureStartup.Proofs.Log.Parameters
import SecureStartup.Proofs.Identity.DefaultPrincipal
import SecureStartup.Proofs.Log.Decoding
import SecureStartup.Proofs.Log.Reporting
import SecureStartup.Proofs.Log.Placement
import SecureStartup.Proofs.Startup.Agreement
