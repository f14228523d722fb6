import GameCatalog.Json.Plain
import GameCatalog.Launcher.Sweep
import GameCatalog.Main
import GameCatalog.Proofs.Job
import GameCatalog.Proofs.Store.Commit
import GameCatalog.Startup.Directory
import GameCatalog.Startup.Run
import GameCatalog.Web.Service
import GameCatalog.Proofs.Launcher.Outcome
import GameCatalog.Proofs.Web.Path
import GameCatalog.Proofs.Access.Decision
import GameCatalog.Proofs.Web.Serving
import GameCatalog.Proofs.Web.Handler
import GameCatalog.Proofs.Web.Mediation
import GameCatalog.Proofs.Json.Quoted
import GameCatalog.Proofs.Json.Numeral
import GameCatalog.Proofs.Json.Written
import GameCatalog.Proofs.Json.Forms
import GameCatalog.Proofs.Identifier
import GameCatalog.Proofs.Json.Record
import GameCatalog.Proofs.Store.Document
import GameCatalog.Proofs.Store.Durability
import GameCatalog.Proofs.Alike
import GameCatalog.Proofs.Access.Anonymous
import GameCatalog.Proofs.Web.Noninterference
import GameCatalog.Proofs.Random.Generator
import GameCatalog.Proofs.Launcher.Format
import GameCatalog.Proofs.Launcher.Lifecycle
import GameCatalog.Proofs.Web.Guard
import GameCatalog.Proofs.Launcher.Session
import GameCatalog.Proofs.Text.Percent
import GameCatalog.Proofs.Text.Base64
import GameCatalog.Proofs.Web.SessionCookie
import GameCatalog.Proofs.Web.Cookie
import GameCatalog.Proofs.Text.Form
import GameCatalog.Proofs.Web.Aside
import GameCatalog.Proofs.Login.Outcome
import GameCatalog.Proofs.Web.Conduct
import GameCatalog.Proofs.Web.Exchange
import GameCatalog.Proofs.Web.Binding
import GameCatalog.Proofs.Web.LoggedIn
import GameCatalog.Proofs.Access.Admission
import GameCatalog.Proofs.Access.Policy
import GameCatalog.Proofs.Access.MemberPolicy
import GameCatalog.Proofs.Access.LauncherPolicy
import GameCatalog.Proofs.Access.Faults
import GameCatalog.Proofs.Launcher.Confinement
import GameCatalog.Proofs.Access.Confinement
import GameCatalog.Proofs.Web.Confinement
import GameCatalog.Proofs.Store.RoundTrip
import GameCatalog.Proofs.Records
import GameCatalog.Proofs.Web.Records
import GameCatalog.Proofs.Web.LoginEndings
import GameCatalog.Proofs.Store.Coherence
import GameCatalog.Proofs.Launcher.Coherence
import GameCatalog.Proofs.Web.LauncherEndpoints
import GameCatalog.Proofs.Discretion
import GameCatalog.Proofs.Web.Discretion
import GameCatalog.Proofs.Access.VisibilityPolicy
import GameCatalog.Proofs.Web.Visibility
import GameCatalog.Proofs.Access.Monotone
import GameCatalog.Proofs.Web.SessionRoundTrip
import GameCatalog.Proofs.Login.Expiry
import GameCatalog.Proofs.Web.UselessCookie
import GameCatalog.Proofs.Web.SessionLifetime
import GameCatalog.Proofs.Launcher.Listing
import GameCatalog.Proofs.Launcher.Issue
import GameCatalog.Proofs.Launcher.Switching
import GameCatalog.Proofs.Launcher.Inventory
import GameCatalog.Proofs.Launcher.Sweeping
import GameCatalog.Proofs.Store.Reopening
import GameCatalog.Proofs.Store.Commutation
import GameCatalog.Proofs.Login.Authorization
import GameCatalog.Proofs.Web.ProviderContract
import GameCatalog.Proofs.Web.Account
import GameCatalog.Proofs.Configuration.Acceptance
import GameCatalog.Proofs.Random.Uniformity
import GameCatalog.Proofs.Redaction
