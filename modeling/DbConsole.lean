import DbConsole.Console.Describe
import DbConsole.Main
import DbConsole.Proofs.Cache.Cancelling
import DbConsole.Proofs.Cache.Coherence
import DbConsole.Proofs.Cache.Entries
import DbConsole.Proofs.Cache.Isolation
import DbConsole.Proofs.Cache.Recording
import DbConsole.Proofs.Cache.SingleFlight
import DbConsole.Proofs.Cache.Timing
import DbConsole.Proofs.Cli.ClosedSession
import DbConsole.Proofs.Console.BatchSelection
import DbConsole.Proofs.Console.DatabaseSwitch
import DbConsole.Proofs.Console.FailedChange
import DbConsole.Proofs.Console.FailedConnect
import DbConsole.Proofs.Console.ForeignKeyListings
import DbConsole.Proofs.Console.Interchange
import DbConsole.Proofs.Console.Kinds
import DbConsole.Proofs.Console.LegalSessions
import DbConsole.Proofs.Console.Logout
import DbConsole.Proofs.Console.ReadYourWrites
import DbConsole.Proofs.Console.Rechecking
import DbConsole.Proofs.Console.Refusal
import DbConsole.Proofs.Console.TokenCoherence
import DbConsole.Proofs.Grid.Drawing
import DbConsole.Proofs.Grid.Markdown
import DbConsole.Proofs.Http.Paging
import DbConsole.Proofs.Row.Checking
import DbConsole.Proofs.Row.Identity
import DbConsole.Proofs.Row.NumberTexts
import DbConsole.Proofs.Schema.TableSpecs
import DbConsole.Proofs.Sql.Agreement
import DbConsole.Proofs.Sql.Guard
import DbConsole.Proofs.Sql.QuotedNames
import DbConsole.Proofs.Sql.Reach
import DbConsole.Proofs.Wire.Failure
import DbConsole.Proofs.Wire.RoundTrip
import DbConsole.Proofs.Workspace.Selection
