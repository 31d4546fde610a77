import NatsRequeue.Bytes
import NatsRequeue.Queue.Key
import NatsRequeue.Queue.Range
import NatsRequeue.Flatbuf.Table
import NatsRequeue.Flatbuf.RequeueMessage
import NatsRequeue.Flatbuf.Builder
import NatsRequeue.Flatbuf.Envelope
import NatsRequeue.BatchedWriter
import NatsRequeue.Ingress
import NatsRequeue.Pipeline
import NatsRequeue.Supervisor
import NatsRequeue.Supervisor.Progress
import NatsRequeue.Machine
import NatsRequeue.StatsPub
import NatsRequeue.DirLock
import NatsRequeue.Store
import NatsRequeue.Service
