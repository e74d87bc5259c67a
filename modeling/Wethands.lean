import Wethands.Foundation.Machine
import Wethands.Foundation.Path
import Wethands.Foundation.Fifo
import Wethands.Foundation.Outcome
import Wethands.Foundation.Flow
import Wethands.Foundation.OrderedSet
import Wethands.Foundation.OrderedMap
import Wethands.Foundation.Slice
import Wethands.Foundation.Search
import Wethands.Foundation.Regex
import Wethands.Foundation.Reader
import Wethands.Foundation.Monitor
import Wethands.Foundation.Link
import Wethands.Foundation.Regex.Greedy
import Wethands.Utils.Timestamp
import Wethands.Utils.LocalTime
import Wethands.Utils.CircularQueue
import Wethands.Utils.BoundedBlockingQueue
import Wethands.Utils.FileUtil
import Wethands.Thread.ThreadPool
import Wethands.Thread.CountDownLatch
import Wethands.Thread.Mutex
import Wethands.Thread.Sections
import Wethands.Thread.CountDownLatch.Opened
import Wethands.Thread.Progress
import Wethands.Thread.Thread
import Wethands.Thread.Handshake
import Wethands.Thread.Handover
import Wethands.Utils.BlockingQueue
import Wethands.Utils.BoundedBlockingQueue.Threads
import Wethands.Logger.LogFile.Model
import Wethands.Logger.LogFile.Steps
import Wethands.Logger.LogFile.RollFile
import Wethands.Logger.LogFile.Day
import Wethands.Logger.LogFile.Size
import Wethands.Logger.AsyncLogging.Model
import Wethands.Logger.AsyncLogging.Order
import Wethands.Logger.AsyncLogging.Pool
import Wethands.Logger.AsyncLogging.Stop
import Wethands.Logger.Pipeline
import Wethands.Reactor.Channel
import Wethands.Reactor.Poller
import Wethands.Reactor.Poller.Poll
import Wethands.Reactor.Poller.Removal
import Wethands.Reactor.EventLoop.Model
import Wethands.Reactor.EventLoop.Wakeup
import Wethands.Reactor.EventLoop.Order
import Wethands.Reactor.EventLoop.Quit
import Wethands.Reactor.EventLoopThread
import Wethands.Reactor.EventLoopThreadPool
import Wethands.Reactor.Timer
import Wethands.Reactor.TimerQueue.Model
import Wethands.Reactor.TimerQueue.Ownership
import Wethands.Reactor.TimerQueue.Steps
import Wethands.Reactor.TimerQueue.Batch
import Wethands.Reactor.TimerQueue.Cancel
import Wethands.Reactor.TimerQueue.BatchCancel
import Wethands.Reactor.TimerQueue.Arming
import Wethands.Reactor.TimerQueue.OneShot
import Wethands.Reactor.TimerQueue.Pacing
import Wethands.Reactor.TimerQueue.Harmless
import Wethands.Reactor.TimerQueue.DueTimers
import Wethands.Reactor.TimerQueue.Lifetime.Model
import Wethands.Reactor.TimerQueue.Lifetime.Pointers
import Wethands.Reactor.TimerQueue.Lifetime.Advances
import Wethands.Reactor.TimerQueue.Lifetime.Steps
import Wethands.Reactor.TimerQueue.Lifetime.Runs
import Wethands.Reactor.TimerQueue.Lifetime.FirstElement
import Wethands.Net.Buffer
import Wethands.Net.Buffer.Deque
import Wethands.Net.Buffer.Compaction
import Wethands.Net.Lines
import Wethands.Net.TcpConnection.Model
import Wethands.Net.TcpConnection.Core
import Wethands.Net.TcpConnection.Stream
import Wethands.Net.TcpConnection.Shutdown
import Wethands.Net.TcpConnection.Terminal
import Wethands.Net.TcpConnection.WriteInterest
import Wethands.Net.TcpConnection.RemoteShutdown
import Wethands.Net.TcpConnection.LoopWork
import Wethands.Net.TcpConnection.Notices
import Wethands.Net.TcpConnection.Peers
import Wethands.Net.TcpConnection.WriteErrors
import Wethands.Net.TcpConnection.ReadInterest
import Wethands.Net.Http.HttpRequest
import Wethands.Net.Http.HttpContext
import Wethands.Net.Http.Head
import Wethands.Net.Http.Chunks
import Wethands.Net.Http.HttpServer
import Wethands.Net.Http.Termination
import Wethands.Net.Http.RequestLine
import Wethands.Net.Http.HeaderLine
import Wethands.Net.Http.ParserRuns
import Wethands.Net.Http.HttpResponse
import Wethands.Net.Http.Serving
import Wethands.Net.Http.RoundTrip
import Wethands.Net.Http.Exchange
import Wethands.Net.Connector.Model
import Wethands.Net.Connector.Retries
import Wethands.Net.Connector.Steps
import Wethands.Net.Connector.Attempt
import Wethands.Net.Connector.Stop
import Wethands.Net.Connector.Dispatch
import Wethands.Net.Connector.Finished
import Wethands.Net.Connector.BackOff
import Wethands.Net.Connector.Dormant
import Wethands.Net.Connector.Descriptors
import Wethands.Net.Connector.Watched
import Wethands.Net.Connector.Unregistering
import Wethands.Net.Connector.Refinement
import Wethands.Net.Ownership.Model
import Wethands.Net.Ownership.Effect
import Wethands.Net.Ownership.References
import Wethands.Net.Ownership.Functors
import Wethands.Net.Ownership.Dispatch
import Wethands.Net.Ownership.HandleEvent
import Wethands.Net.Ownership.Notice
import Wethands.Net.Ownership.ClosesOnce
import Wethands.Net.ActiveChannels.Model
import Wethands.Net.ActiveChannels.Dispatch
import Wethands.Net.ActiveChannels.Notice
import Wethands.Net.InetAddress
import Wethands.Net.Acceptor
import Wethands.Net.TcpServer
import Wethands.Net.TcpServer.Start
import Wethands.Net.TcpClient
import Wethands.Net.Teardown.Model
import Wethands.Net.Teardown.Retired
import Wethands.Net.Teardown.Accounted
import Wethands.Net.Teardown.Orderly
import Wethands.Net.Teardown.SameLoop
import Wethands.Net.TcpClient.Owner
import Wethands.Net.TcpClient.Steady
import Wethands.Net.TcpClient.Whole
import Wethands.Net.TcpClient.Safe
