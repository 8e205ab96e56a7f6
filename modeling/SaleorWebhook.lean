import SaleorWebhook.Records
import SaleorWebhook.UrlParse
import SaleorWebhook.Store
import SaleorWebhook.Transport
import SaleorWebhook.AsyncTask
import SaleorWebhook.AsyncRuns
import SaleorWebhook.AsyncSchedules
import SaleorWebhook.SyncSend
import SaleorWebhook.SyncLoop
import SaleorWebhook.SyncContext
import SaleorWebhook.FanOut
import SaleorWebhook.Observability
import SaleorWebhook.SharedPayloads
import SaleorWebhook.SqsTarget
import SaleorWebhook.Lifecycle
import SaleorWebhook.StoreFrames
import SaleorWebhook.System
import SaleorWebhook.SyncLifecycle
import SaleorWebhook.TaskQueue
import SaleorWebhook.FairQueue
