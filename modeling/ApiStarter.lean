import ApiStarter.Config.Auth
import ApiStarter.Config.Db
import ApiStarter.Config.Load
import ApiStarter.Database.Contents
import ApiStarter.Database.Like
import ApiStarter.Database.QueryBuilder
import ApiStarter.Effect.Blind
import ApiStarter.Module.Iam.Blame
import ApiStarter.Module.Iam.ConcurrentUpdates
import ApiStarter.Module.Iam.Directory
import ApiStarter.Module.Iam.Filters
import ApiStarter.Module.Iam.Listing
import ApiStarter.Module.Iam.PartialUpdate
import ApiStarter.Module.Iam.Queries
import ApiStarter.Module.Iam.RoleReadings
import ApiStarter.Module.Iam.Visibility
import ApiStarter.Package.Emailer
import ApiStarter.Package.Env
import ApiStarter.Package.Flattening
import ApiStarter.Package.ListRequests
import ApiStarter.Package.PageArithmetic
import ApiStarter.Package.PageWindows
import ApiStarter.Package.Rbac.Actions
import ApiStarter.Package.Rbac.Engine
import ApiStarter.Security.Atomicity
import ApiStarter.Security.AuthFailures
import ApiStarter.Security.Availability
import ApiStarter.Security.CauseSecrecy
import ApiStarter.Security.Footprint
import ApiStarter.Security.HashSecrecy
import ApiStarter.Security.LastPassword
import ApiStarter.Security.Lockout
import ApiStarter.Security.MailLedger
import ApiStarter.Security.MailedToken
import ApiStarter.Security.Mediation
import ApiStarter.Security.Observations
import ApiStarter.Security.PasswordPolicy
import ApiStarter.Security.PendingResets
import ApiStarter.Security.Promotion
import ApiStarter.Security.ResetBinding
import ApiStarter.Security.ResetSlots
import ApiStarter.Security.SelfService
import ApiStarter.Security.Sessions
import ApiStarter.Security.SingleUse
import ApiStarter.Security.TokenKinds
import ApiStarter.Security.WellFormed
import ApiStarter.Server.DeclaredMessages
