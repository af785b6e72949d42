import DrogonPay.Promises.Programs
import DrogonPay.Laws.Settled
import DrogonPay.Channels.PlatformCerts
import DrogonPay.Channels.Exchange
import DrogonPay.Laws.UnknownOutcome
import DrogonPay.Laws.Reservation
import DrogonPay.Laws.Atomic
import DrogonPay.Laws.Ownership
import DrogonPay.Laws.Acknowledged
import DrogonPay.Laws.ReplayWindow
import DrogonPay.Laws.NotifyUrl
import DrogonPay.Laws.Replay
import DrogonPay.Laws.AnsweredOnce
import DrogonPay.Laws.RefundAmount
import DrogonPay.Laws.Deadline
import DrogonPay.Laws.Amounts
import DrogonPay.Laws.Timestamps
import DrogonPay.Laws.DerivedKeys
import DrogonPay.Laws.BookedAmounts
import DrogonPay.Laws.Scopes
import DrogonPay.Laws.OrderPages
import DrogonPay.Laws.RefundReport
import DrogonPay.Laws.UnknownState
import DrogonPay.Laws.SignedPaths
import DrogonPay.Laws.OfferedAmounts
import DrogonPay.Laws.RefundComparison
import DrogonPay.Laws.ExpiredKeys
import DrogonPay.Laws.SettledAmounts
import DrogonPay.Laws.CoveredOrders
import DrogonPay.Laws.RefundCap
import DrogonPay.Laws.OneSettled
import DrogonPay.Laws.Income
import DrogonPay.Laws.OrderMoney
import DrogonPay.Laws.AlipayAcknowledged
import DrogonPay.Laws.SettledNumber
import DrogonPay.Laws.LedgerOrigins
import DrogonPay.Laws.ChannelCalls
import DrogonPay.Laws.AdmittedCalls
import DrogonPay.Laws.TrustedCerts
import DrogonPay.Handlers.Notifications
import DrogonPay.Laws.AuthenticSettlements
