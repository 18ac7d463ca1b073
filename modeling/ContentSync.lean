import ContentSync.Api.Basic
import ContentSync.Api.Content
import ContentSync.Api.Management
import ContentSync.Config
import ContentSync.Content.Cache
import ContentSync.Content.Following
import ContentSync.Content.Item
import ContentSync.Content.Notification
import ContentSync.Content.Reconcile
import ContentSync.Decimal.Binary64
import ContentSync.Decimal.Layout
import ContentSync.Decimal.Shortest
import ContentSync.Digest.Base64
import ContentSync.Digest.Hmac
import ContentSync.Digest.Sha256
import ContentSync.GraphQL.Argument
import ContentSync.GraphQL.Client
import ContentSync.GraphQL.ClientError
import ContentSync.GraphQL.Document
import ContentSync.GraphQL.Pagination
import ContentSync.GraphQL.Printer
import ContentSync.GraphQL.Response
import ContentSync.GraphQL.Retry
import ContentSync.GraphQL.Selection
import ContentSync.Http.Exchange
import ContentSync.Http.Status
import ContentSync.Json.Basic
import ContentSync.Json.Input
import ContentSync.Json.Number
import ContentSync.Json.Octets
import ContentSync.Json.Parser
import ContentSync.Json.Printer
import ContentSync.Json.Reading
import ContentSync.OrderedMap
import ContentSync.Proofs.Insertion
import ContentSync.Proofs.PageServer
import ContentSync.Schema.Alias
import ContentSync.Schema.Basic
import ContentSync.Schema.ContentModel
import ContentSync.Schema.Ledger
import ContentSync.Schema.Selection
import ContentSync.Source.Basic
import ContentSync.Source.Notifying
import ContentSync.Source.Writing
import ContentSync.SyncError
import ContentSync.Text.Blank
import ContentSync.Text.Lowercase
import ContentSync.Text.Pieces
import ContentSync.Text.Quoted
import ContentSync.Text.Utf8
import ContentSync.Time.Calendar
import ContentSync.Time.Duration
import ContentSync.Time.Instant
import ContentSync.Time.Reading
import ContentSync.Warning
import ContentSync.Webhook.Error
import ContentSync.Webhook.Event
import ContentSync.Webhook.Intake
import ContentSync.Webhook.Signature
import ContentSync.Proofs.Pagination
import ContentSync.Proofs.FieldSelection
import ContentSync.Proofs.Expansion
import ContentSync.Proofs.AliasRemoval
import ContentSync.Proofs.DocumentSyntax
import ContentSync.Proofs.DocumentText
import ContentSync.Proofs.DocumentReading
import ContentSync.Proofs.Reconciliation
import ContentSync.Proofs.CacheWrites
import ContentSync.Proofs.ItemReading
import ContentSync.Proofs.NotificationEffect
import ContentSync.Proofs.UpdateOrder
import ContentSync.Proofs.EmptyBraces
import ContentSync.Proofs.EmptyBranches
import ContentSync.Proofs.WholeQueries
import ContentSync.Proofs.TextPieces
import ContentSync.Proofs.Digests
import ContentSync.Proofs.SignatureHeader
import ContentSync.Proofs.IntakeChecks
import ContentSync.Proofs.ReplayMemory
import ContentSync.Proofs.ReplayWindow
import ContentSync.Proofs.Redelivery
import ContentSync.Proofs.QuotedTexts
import ContentSync.Proofs.SignedEnvelope
import ContentSync.Proofs.Requests
import ContentSync.Proofs.SingleWrites
import ContentSync.Proofs.FullSync
import ContentSync.Proofs.WebhookSetup
import ContentSync.Proofs.Interleaving
import ContentSync.Proofs.ReadPaths
import ContentSync.Proofs.CachePartition
import ContentSync.Proofs.RequestCounts
import ContentSync.Proofs.KeptSchema
import ContentSync.Proofs.RequestBodies
import ContentSync.Proofs.QueryShape
import ContentSync.Proofs.JsonReadBack
import ContentSync.Proofs.MutationData
import ContentSync.Proofs.PageRounds
import ContentSync.Proofs.CalendarDays
import ContentSync.Proofs.InstantText
import ContentSync.Proofs.TypedReading
import ContentSync.Proofs.ItemRoundTrip
import ContentSync.Proofs.PageProgress
import ContentSync.Proofs.NullNodes
import ContentSync.Proofs.ContentQuery
import ContentSync.Proofs.ExactBackoff
import ContentSync.Proofs.BranchKeys
import ContentSync.Proofs.HeaderRoundTrip
import ContentSync.Proofs.BulkWrites
import ContentSync.Proofs.CacheHistory
import ContentSync.Proofs.LoadedSchema
import ContentSync.Proofs.SelectionBuilding
import ContentSync.Proofs.ShortenedBody
import ContentSync.Proofs.AcceptedDigests
