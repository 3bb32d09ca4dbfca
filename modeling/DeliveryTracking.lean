import DeliveryTracking.Runs
import DeliveryTracking.Auth.Refresh
import DeliveryTracking.Auth.Rotation
import DeliveryTracking.Auth.Tabs
import DeliveryTracking.Deliveries.Status
import DeliveryTracking.Deliveries.Writers
import DeliveryTracking.Deliveries.Lifecycle
import DeliveryTracking.Geo.Math
import DeliveryTracking.Geo.GroundSpeed
import DeliveryTracking.Thinning
import DeliveryTracking.Tracking.SaveBatch
import DeliveryTracking.Tracking.Retransmission
import DeliveryTracking.Tracking.SuspectFlags
import DeliveryTracking.Geo.Quality
import DeliveryTracking.Traccar.Position
import DeliveryTracking.Geo.Anchor
import DeliveryTracking.Traccar.Live
import DeliveryTracking.Traccar.Backfill
import DeliveryTracking.Traccar.Parity
import DeliveryTracking.Traccar.Marker
import DeliveryTracking.Traccar.Outage
import DeliveryTracking.Traccar.Pending
import DeliveryTracking.Promise
import DeliveryTracking.Traccar.DeviceLock
import DeliveryTracking.Lease
import DeliveryTracking.Traccar.Leader
import DeliveryTracking.Traccar.StepDown
import DeliveryTracking.Tracking.Geofence
import DeliveryTracking.Calendar
import DeliveryTracking.Fuel.Period
import DeliveryTracking.Fuel.Summary
import DeliveryTracking.Fuel.Prices
import DeliveryTracking.Fuel.DailyReport
import DeliveryTracking.Fuel.Attribution
import DeliveryTracking.Fuel.Recompute
import DeliveryTracking.Billing.Checkout
import DeliveryTracking.Billing.MobileMoney
import DeliveryTracking.Billing.Stripe
import DeliveryTracking.Billing.Purchase
import DeliveryTracking.Billing.Manual
import DeliveryTracking.Billing.PaidDays
import DeliveryTracking.Billing.Guards
import DeliveryTracking.Billing.PaidAccess
import DeliveryTracking.Billing.Credit
import DeliveryTracking.Billing.Expiry
import DeliveryTracking.Billing.Review
import DeliveryTracking.Billing.Quotas
import DeliveryTracking.Matching
import DeliveryTracking.Fleet.History
import DeliveryTracking.Fleet.Services
import DeliveryTracking.Fleet.Assignment
import DeliveryTracking.Fuel.CrossCheck
import DeliveryTracking.Fleet.LastAdmin
import DeliveryTracking.Auth.Guards
import DeliveryTracking.Auth.Revocation
import DeliveryTracking.Auth.Login
import DeliveryTracking.Auth.ShutOut
import DeliveryTracking.Tracking.Rooms
import DeliveryTracking.Auth.AdminSession
import DeliveryTracking.Auth.Ending
import DeliveryTracking.Auth.PasswordChange
import DeliveryTracking.Auth.TwoFactor
import DeliveryTracking.Fleet.Invitations
import DeliveryTracking.Fleet.Acceptance
import DeliveryTracking.Tracking.Answer
import DeliveryTracking.Tracking.BatchAck
import DeliveryTracking.Auth.Relay
import DeliveryTracking.Encryption.Middleware
import DeliveryTracking.Webhooks.Delivery
import DeliveryTracking.Webhooks.Signature
import DeliveryTracking.Webhooks.Retry
import DeliveryTracking.Webhooks.Dispatch
import DeliveryTracking.Buckets
import DeliveryTracking.Phone.Compaction
import DeliveryTracking.Phone.OfflineQueue
import DeliveryTracking.Phone.LocationQueue
import DeliveryTracking.Phone.UploadWorker
import DeliveryTracking.Fleet.Resolution
import DeliveryTracking.Fuel.PriceHistory
import DeliveryTracking.Fuel.DriverScore
import DeliveryTracking.Auth.TenantStatus
import DeliveryTracking.Fleet.AssignedDriver
import DeliveryTracking.Fleet.CompanyPurge
import DeliveryTracking.Auth.SharedRefresh
import DeliveryTracking.Phone.SendPosition
import DeliveryTracking.Tracking.OwnDeliveries
import DeliveryTracking.Auth.TenantScope
import DeliveryTracking.Clusters
import DeliveryTracking.Fuel.Paging
import DeliveryTracking.Geo.AnchorBounds
import DeliveryTracking.Geo.DerivedSpeed
import DeliveryTracking.Geo.FilteredDistance
import DeliveryTracking.Geo.RouteDistance
import DeliveryTracking.Geo.StopWindows
import DeliveryTracking.Traccar.Quarantine
import DeliveryTracking.Tracking.LateFix
import DeliveryTracking.Tracking.Proximity
import DeliveryTracking.Addresses
import DeliveryTracking.Auth.Lockout
import DeliveryTracking.Auth.TwoFactorSetup
import DeliveryTracking.Billing.Invoices
import DeliveryTracking.Cache.CacheService
import DeliveryTracking.Deliveries.Import
import DeliveryTracking.Fuel.Deviation
import DeliveryTracking.Fuel.ScoreMonotone
import DeliveryTracking.Tracking.Coverage
import DeliveryTracking.Tracking.Presence
import DeliveryTracking.Webhooks.UrlValidator
import DeliveryTracking.Auth.LoginLockout
import DeliveryTracking.Deliveries.Completion
import DeliveryTracking.Deliveries.PdfRows
import DeliveryTracking.Deliveries.Tour
import DeliveryTracking.Geo.KalmanFilter
import DeliveryTracking.Geocoding.Serial
import DeliveryTracking.Notifications.Digest
import DeliveryTracking.Reports.Reports
import DeliveryTracking.Tracking.Chronometer
import DeliveryTracking.Tracking.DedupWindow
import DeliveryTracking.Auth.SingleFlight
import DeliveryTracking.Deliveries.Amount
import DeliveryTracking.LiveMap
import DeliveryTracking.Phone.BatchCorrelation
import DeliveryTracking.Phone.Eviction
import DeliveryTracking.Timers
import DeliveryTracking.Decimal
import DeliveryTracking.Spacing
import DeliveryTracking.Traccar.Connection
import DeliveryTracking.Phone.SmsFallback
import DeliveryTracking.Phone.MotionState
import DeliveryTracking.Phone.Supervision
import DeliveryTracking.Scheduling.CronLock
import DeliveryTracking.Tracking.Retention
import DeliveryTracking.Tracking.PublicLink
import DeliveryTracking.Tracking.LivePositions
import DeliveryTracking.Fleet.Maintenance
import DeliveryTracking.Cooldown
import DeliveryTracking.Notifications.Cooldowns
import DeliveryTracking.Notifications.RepeatedErrors
import DeliveryTracking.Traccar.Silence
import DeliveryTracking.Tracking.RateLimits
