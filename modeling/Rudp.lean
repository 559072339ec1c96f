import Rudp.Basic
import Rudp.SortedMap
import Rudp.ConnectionManager.Basic
import Rudp.ConnectionManager.Sockets
import Rudp.ConnectionManager.GetSocket
import Rudp.ConnectionManager.Runs
import Rudp.Transport.Basic
import Rudp.Transport.Async
import Rudp.Transport.Bootstrap
import Rudp.Transport.Connect
import Rudp.Transport.Invariant
