import Porto.Tasks.Interval
import Porto.Tasks.Runnable
import Porto.Tasks.Scheduler
import Porto.Tasks.Lifecycle
import Porto.Tasks.Shared
import Porto.Discovery.Registry
import Porto.Discovery.Find
import Porto.RpcClient.Dial
