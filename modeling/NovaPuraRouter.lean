import NovaPuraRouter.LotCoverage
import NovaPuraRouter.RefundBound
import NovaPuraRouter.RefundedOrder
import NovaPuraRouter.WebhookDelivery
import NovaPuraRouter.CommissionLedger
import NovaPuraRouter.CommissionRelease
import NovaPuraRouter.TransferRefund
import NovaPuraRouter.WithdrawalFinal
import NovaPuraRouter.ProfileUpdate
import NovaPuraRouter.TopUpOnce
import NovaPuraRouter.PromoBudget
import NovaPuraRouter.RedemptionLimit
import NovaPuraRouter.TaskRefund
import NovaPuraRouter.TaskBilling
import NovaPuraRouter.SubscriptionRefund
import NovaPuraRouter.RealtimeCharge
import NovaPuraRouter.ResetLeak
import NovaPuraRouter.HeaderRetry
import NovaPuraRouter.HeaderTemplate
import NovaPuraRouter.FairUseAgree
import NovaPuraRouter.ChannelWrites
import NovaPuraRouter.RecurringRun
import NovaPuraRouter.ChannelCooling
import NovaPuraRouter.ClaudeComplete
import NovaPuraRouter.ChatResponses
import NovaPuraRouter.GroupPrice
import NovaPuraRouter.BatchUpdate
import NovaPuraRouter.TokenEdit
import NovaPuraRouter.RetryContext
import NovaPuraRouter.ReleaseLoop
import NovaPuraRouter.RefundPartition
import NovaPuraRouter.Checkin
import NovaPuraRouter.TwoFactorSetup
import NovaPuraRouter.SettledCharge
import NovaPuraRouter.ChannelDraw
import NovaPuraRouter.ChannelPolling
import NovaPuraRouter.ChannelEdit
import NovaPuraRouter.UsageExchange
import NovaPuraRouter.TwoFactorOnce
import NovaPuraRouter.ModelRateLimit
