import MailRuntime.Interaction.RelyGuarantee
import MailRuntime.Storage.Statements
import MailRuntime.Payments.Facilitator
import MailRuntime.Payments.Metadata
import MailRuntime.Repositories.Billing
import MailRuntime.Repositories.Agents
import MailRuntime.Outbound.Routing
import MailRuntime.Outbound.Policy
import MailRuntime.Outbound.Billing
import MailRuntime.Routes.Payments
import MailRuntime.Payments.RoundTrip
import MailRuntime.Billing.Consistent
import MailRuntime.Billing.Protocol
import MailRuntime.Billing.Steps
import MailRuntime.Billing.Books
import MailRuntime.Billing.Settlements
import MailRuntime.Billing.Receipts
import MailRuntime.Billing.Confirmations
import MailRuntime.Billing.Upgrades
import MailRuntime.Billing.Requests
import MailRuntime.Billing.Runs
import MailRuntime.Interaction.Faults
import MailRuntime.Storage.Rows
import MailRuntime.Deployments.Statuses
import MailRuntime.Deployments.Restoration
import MailRuntime.Deployments.Rollout
import MailRuntime.Js.Encoding
import MailRuntime.Repositories.Drafts
import MailRuntime.Outbound.Payload
import MailRuntime.Routes.SesWebhook
import MailRuntime.Delivery.Outcomes
import MailRuntime.Js.Text
import MailRuntime.Mail.Parser
import MailRuntime.Repositories.Inbound
import MailRuntime.Inbound.Ingest
import MailRuntime.Inbound.Receive
import MailRuntime.Mail.Mime
import MailRuntime.Outbound.InternalDelivery
import MailRuntime.Inbound.MessageKeys
import MailRuntime.Inbound.Redelivery
import MailRuntime.Outbound.Guards
import MailRuntime.Handlers.OutboundSend
import MailRuntime.Interaction.Alone
import MailRuntime.Sending.Calm
import MailRuntime.Sending.Suppression
import MailRuntime.Sending.Bcc
import MailRuntime.Sending.Claims
import MailRuntime.Sending.Once
import MailRuntime.Outbound.Decision
import MailRuntime.Sending.Consumers
import MailRuntime.Sending.Budget
import MailRuntime.Js.Decoding
import MailRuntime.Js.Separators
import MailRuntime.Mail.Entities
import MailRuntime.Mail.Leaves
import MailRuntime.Mail.Built
import MailRuntime.Mail.HeaderMaps
import MailRuntime.Mail.Splitting
import MailRuntime.Mail.RoundTrip
import MailRuntime.Routes.OutboundRetry
import MailRuntime.Storage.Columns
import MailRuntime.Retrying.Funds
import MailRuntime.Retrying.Snapshots
import MailRuntime.Retrying.Rollback
import MailRuntime.Retrying.Reservations
import MailRuntime.Retrying.Requests
import MailRuntime.Mail.Decoding
import MailRuntime.Outbound.Partition
import MailRuntime.Inbound.ReplyThreads
import MailRuntime.Js.JsonNumbers
import MailRuntime.Js.JsonText
import MailRuntime.Auth.AccessTokens
import MailRuntime.Outbound.Authorization
import MailRuntime.Routes.McpTransport
import MailRuntime.Routes.Mcp
import MailRuntime.Handlers.AgentExecute
import MailRuntime.Interaction.Frozen
import MailRuntime.Executing.TaskSteps
import MailRuntime.Executing.QuietPrograms
import MailRuntime.Executing.ReplyTasks
import MailRuntime.Mail.BlankLines
import MailRuntime.Mail.QuotedPrintable
import MailRuntime.Inbound.Subjects
import MailRuntime.Js.Latin1
import MailRuntime.Mail.Attachments
import MailRuntime.Payments.ProofHeaders
import MailRuntime.Js.Objects
import MailRuntime.Js.Paths
import MailRuntime.Payments.Fingerprints
import MailRuntime.Payments.Stored
import MailRuntime.Inbound.StoredAttachments
import MailRuntime.Executing.TaskRuns
import MailRuntime.Objects.Recorded
import MailRuntime.Objects.Runs
import MailRuntime.Outbound.Enqueue
import MailRuntime.Enqueueing.Jobs
import MailRuntime.Repositories.Idempotency
import MailRuntime.Routes.Drafts
import MailRuntime.Enqueueing.Calls
import MailRuntime.Routes.Sends
import MailRuntime.Enqueueing.Runs
import MailRuntime.Idempotency.Holders
import MailRuntime.Idempotency.Statements
import MailRuntime.Idempotency.Answers
import MailRuntime.Inbound.Delivered
import MailRuntime.Interaction.OneFault
import MailRuntime.Enqueueing.Progress
import MailRuntime.Enqueueing.Compensations
import MailRuntime.Enqueueing.Undone
import MailRuntime.Auth.Issuing
import MailRuntime.Auth.Vouching
import MailRuntime.Auth.Lineage
import MailRuntime.Routes.Access
