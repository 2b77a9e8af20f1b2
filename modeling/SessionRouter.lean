import SessionRouter.Lib.Table
import SessionRouter.Store.Recover
import SessionRouter.Router.Pages
import SessionRouter.Router.Run
import SessionRouter.Router.Executions
import SessionRouter.Router.TaskLog
import SessionRouter.Router.Onboarding
import SessionRouter.Console.Freshness
import SessionRouter.Console.Live
import SessionRouter.Console.LiveView
import SessionRouter.Console.FormSpec
import SessionRouter.Console.CursorSpec
import SessionRouter.Integrations.Bindings
import SessionRouter.Mcp.Deliveries
import SessionRouter.Mcp.Readiness
import SessionRouter.Onboarding.JournalSpec
import SessionRouter.Providers.Evidence
import SessionRouter.Providers.Inbox
import SessionRouter.Providers.Frames
import SessionRouter.Providers.CodexOrder
import SessionRouter.Router.Enrollment
import SessionRouter.Router.Slots
import SessionRouter.Router.Rate
import SessionRouter.Config.WritersSpec
import SessionRouter.Launcher.NativeSpec
import SessionRouter.Bootstrap.ArchiveSpec
import SessionRouter.Router.TeardownSpec
import SessionRouter.Router.Faults
import SessionRouter.Router.Retry
import SessionRouter.Router.Retarget
import SessionRouter.Console.Timestamp
import SessionRouter.Onboarding.BundleDigestSpec
import SessionRouter.Onboarding.TicketReadSpec
