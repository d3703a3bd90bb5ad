import Coerce.Basic
import Coerce.ClientState
import Coerce.ClientSend
import Coerce.ClientConnect
import Coerce.ClientBuffer
import Coerce.ClientSafety
import Coerce.ClientCallbacks
import Coerce.Lifecycle
import Coerce.SingletonProxy
import Coerce.RemoteRegistry
import Coerce.RemoteHandler
import Coerce.ClusterWorker
