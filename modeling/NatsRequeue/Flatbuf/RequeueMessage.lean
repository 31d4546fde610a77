import NatsRequeue.Flatbuf.Table

/-!
# The envelope's accessors (`protocol/requeue_msg.fbs`)

`flatc` turns the schema's table `RequeueMessage` into one accessor per field.  Field `n` of the
table is found through vtable slot `4 + 2 * n`, so the seven fields sit at slots `4, 6, …, 16`;
scalars read their default when the field is absent, vectors and strings read `nil`.  The generated
package `flatbuf` is not in the source, but it is the schema run through `flatc`, and these are the
shapes `flatc` gives its Go output:

```
func GetRootAsRequeueMessage(buf []byte, offset flatbuffers.UOffsetT) *RequeueMessage {
	n := flatbuffers.GetUOffsetT(buf[offset:])
	…
	x.Init(buf, n+offset)
```

`getRootAsRequeueMessage_short` is the first thing the ingress path does with a producer's
bytes: nothing checks them first, and a buffer of fewer than four bytes already panics there.
-/

set_option autoImplicit false

namespace NatsRequeue

namespace Flatbuf

/-- `BackoffStrategy`, a `byte` enum: `Undefined = 0, Exponential, Fixed`. -/
inductive BackoffStrategy
  | Undefined
  | Exponential
  | Fixed
  deriving DecidableEq, Repr

/-- The enum's values on the wire. -/
def BackoffStrategy.toNat : BackoffStrategy → Nat
  | .Undefined => 0
  | .Exponential => 1
  | .Fixed => 2

/-- `GetRootAsRequeueMessage(buf, 0)`: the table is where the buffer's first `UOffsetT` says. -/
def getRootAsRequeueMessage (buf : List Byte) : Option Table := do
  let n ← getUint32 buf 0
  pure ⟨buf, wrap (n + 0)⟩

namespace RequeueMessage

/-- `Retries()`: field 0, `uint64 = 0`. -/
def retries (t : Table) : Option Nat := t.scalarSlot 8 4 0

/-- `Ttl()`: field 1, `uint64 = 0`. -/
def ttl (t : Table) : Option Nat := t.scalarSlot 8 6 0

/-- `Delay()`: field 2, `uint64 = 0`. -/
def delay (t : Table) : Option Nat := t.scalarSlot 8 8 0

/-- `BackoffStrategy()`: field 3, a one-byte enum defaulting to `Undefined`. -/
def backoffStrategy (t : Table) : Option Nat := t.scalarSlot 1 10 BackoffStrategy.Undefined.toNat

/-- `QueueName()`: field 4, a string. -/
def queueName (t : Table) : Option (List Byte) := t.vectorSlot 12

/-- `OriginalSubject()`: field 5, a string. -/
def originalSubject (t : Table) : Option (List Byte) := t.vectorSlot 14

/-- `OriginalPayloadBytes()`: field 6, a `[ubyte]`. -/
def originalPayloadBytes (t : Table) : Option (List Byte) := t.vectorSlot 16

/-- `MutateRetries(n)`: overwrite field 0 in place; `false` if the buffer has no such field. -/
def mutateRetries (t : Table) (n : Nat) : Option (Bool × Table) := t.mutateUint64Slot 4 n

end RequeueMessage

/-- A buffer of fewer than four bytes has no root offset: `GetRootAsRequeueMessage` panics. -/
theorem getRootAsRequeueMessage_short {buf : List Byte} (h : buf.length < 4) :
    getRootAsRequeueMessage buf = none := by
  simp [getRootAsRequeueMessage, getUint32, getLE, show ¬(0 + 4 ≤ buf.length) by omega]

end Flatbuf

end NatsRequeue
