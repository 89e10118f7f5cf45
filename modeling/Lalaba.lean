import Lalaba.Wallets.Admin
import Lalaba.Promotions.Incentives
import Lalaba.Promotions.Subjects
import Lalaba.Orders.Revival
import Lalaba.Orders.Chronicle
import Lalaba.Orders.Expiry
import Lalaba.Fees.Switching
import Lalaba.Pos.Refunds
import Lalaba.Pos.StockLevels
import Lalaba.Pos.Keys
import Lalaba.Devices.Revocation
import Lalaba.Orders.DayCapacity
import Lalaba.Orders.Markers
import Lalaba.CourierVerification.Gate
import Lalaba.AccountDeletion.Sweeps
import Lalaba.AccountDeletion.Cancellation
import Lalaba.Addresses.Default
import Lalaba.Kyc.Reviewers
import Lalaba.Washers.Suspension
import Lalaba.Biometric.Replay
import Lalaba.Staff.Invitations
import Lalaba.NowQueue.Cuts
import Lalaba.Graphql.DepthLimit
import Lalaba.Washers.PublicRating
import Lalaba.PlatformAnalytics.Overview
import Lalaba.BookingPolicy.Versions
import Lalaba.Campaigns.Impressions
import Lalaba.Campaigns.Weeks
import Lalaba.Search.Identifiers
import Lalaba.Discovery.Cards
import Lalaba.Auth.Revocation
import Lalaba.Chat.Gates
import Lalaba.SupportTickets.Clock
import Lalaba.SupportTickets.Resolution
import Lalaba.Kyc.Granted
import Lalaba.AccountDeletion.Traces
import Lalaba.BookingPolicy.Ladder
import Lalaba.Orders.AppliedOnce
import Lalaba.WasherServices.Completeness
import Lalaba.Washers.Hours
import Lalaba.Bookings.Notice
import Lalaba.BookingPolicy.Progress
import Lalaba.Notifications.Badge
import Lalaba.Pos.Undoing
import Lalaba.Permissions.Answers
import Lalaba.Users.BranchAccess
import Lalaba.Auth.Contact
import Lalaba.Bookings.LegSplit
import Lalaba.Fees.History
