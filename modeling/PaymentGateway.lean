import PaymentGateway.Lib.Runs
import PaymentGateway.Lib.Sessions
import PaymentGateway.Domain.StateMachine
import PaymentGateway.Db.Tables
import PaymentGateway.Providers.Mock
import PaymentGateway.Providers.Stripe
import PaymentGateway.Services.Base
import PaymentGateway.Ledger
import PaymentGateway.Concurrency.Refunds
import PaymentGateway.Concurrency.Lifecycle
import PaymentGateway.Answers.Recorded
import PaymentGateway.Answers.Charges
import PaymentGateway.Answers.Refunds
import PaymentGateway.Lockout
import PaymentGateway.Core.JsonText
import PaymentGateway.Services.Idempotency
import PaymentGateway.Api
import PaymentGateway.Idempotency
import PaymentGateway.Concurrency.Idempotency
import PaymentGateway.Concurrency.Breaker
import PaymentGateway.Lib.Calls
import PaymentGateway.Core.Resilience
import PaymentGateway.Retries
import PaymentGateway.Outages
import PaymentGateway.ApiKeys
import PaymentGateway.Isolation
import PaymentGateway.AuditTrail
import PaymentGateway.Security.Signatures
import PaymentGateway.Services.Webhooks
import PaymentGateway.Concurrency.Webhooks
import PaymentGateway.WebhookIsolation
import PaymentGateway.RateLimits
import PaymentGateway.Lengths
import PaymentGateway.Security.Crypto
import PaymentGateway.Security.Ssrf
import PaymentGateway.BreakerHistory
import PaymentGateway.RateLimitWindows
import PaymentGateway.ClientUrls
import PaymentGateway.Security.SignedHeaders
import PaymentGateway.ReplayWindow
import PaymentGateway.Security.UrlReports
import PaymentGateway.RetryOutcomes
import PaymentGateway.ProviderLoad
import PaymentGateway.Core.Logging
import PaymentGateway.Lib.Pages
import PaymentGateway.Pagination
import PaymentGateway.RequestBodies
import PaymentGateway.Lib.HalfEven
import PaymentGateway.Core.Decimals
import PaymentGateway.Core.DecimalText
import PaymentGateway.MoneyRounding
import PaymentGateway.MoneyDisplay
import PaymentGateway.Security.Tokens
import PaymentGateway.Lib.Contracts
import PaymentGateway.Lib.Growth
import PaymentGateway.Providers.Registry
import PaymentGateway.Endpoints
import PaymentGateway.Services.Contracts
import PaymentGateway.Authorization
import PaymentGateway.Credentials
import PaymentGateway.Bookings
import PaymentGateway.Evolution
import PaymentGateway.Revocation
import PaymentGateway.AuditCompleteness
import PaymentGateway.LastingAnswers
import PaymentGateway.Accounts
import PaymentGateway.Failures
import PaymentGateway.Lib.Journal
import PaymentGateway.Middleware.Responses
import PaymentGateway.Server
import PaymentGateway.References
import PaymentGateway.Repetition
import PaymentGateway.Reconciliation
import PaymentGateway.RefundTotals
import PaymentGateway.Core.Config
import PaymentGateway.Startup
