import NatsRequeue.Flatbuf.Builder
import NatsRequeue.Flatbuf.RequeueMessage

/-!
# The envelope: build, view, mutate

A producer fills a `requeue.RequeueMessage` and sends `msg.Bytes()`; everything downstream reads
those bytes through the generated accessors.  `Envelope.bytes` lays the seven fields out with
`NatsRequeue.Flatbuf.layout` (scalars at their default `0` left out, strings and the payload as
vectors), and the results are the codec's contract (spec §4.1 and §8, property 1):

* `view_bytes` — **`View(Build(fields))` reads back every field**, for every envelope;
* `mutateRetries_bytes` — **`MutateRetries(n)` rewrites `retries` in place**: the buffer keeps its
  length, changes in the eight bytes of the field only, and a fresh view reads `n`.  An envelope
  built with `retries = 0` has no slot for the field (the builder leaves defaults out), and the
  mutation reports `false` and changes nothing — the spec's "succeeds unless the buffer was not
  built with space for that field".

The repository's one test, `TestRequeueMessage_FlatbufMutate`, takes these steps on the bytes the
Go builder produces for its envelope; `mutateRetries_bytes_foo` takes them on this file's layout of
the same envelope.  The two layouts differ (the Go builder aligns its fields and places the root
elsewhere), and `mutateRetries_bytes` covers this file's layouts only.
-/

set_option autoImplicit false

namespace NatsRequeue

namespace Flatbuf

/-- A requeue message's fields, as the producer sets them. -/
structure Envelope where
  retries : UInt64
  ttl : UInt64
  delay : UInt64
  backoffStrategy : BackoffStrategy
  queueName : List Byte
  originalSubject : List Byte
  originalPayload : List Byte
  deriving DecidableEq, Repr

namespace Envelope

/-- The table's seven fields, in the schema's order. -/
def fields (m : Envelope) : List Field :=
  [.scalarOr 8 m.retries.toNat, .scalarOr 8 m.ttl.toNat, .scalarOr 8 m.delay.toNat,
    .scalarOr 1 m.backoffStrategy.toNat, .vector m.queueName true, .vector m.originalSubject true,
    .vector m.originalPayload false]

/-- Modelled from the spec: `RequeueMessage.Bytes()`, "Build": the fields laid out as a
flatbuffer; the builder panics past 2 GiB. -/
def bytes (m : Envelope) : Option (List Byte) :=
  if (layout m.fields).length < 2 ^ 31 then some (layout m.fields) else none

@[simp] theorem length_fields (m : Envelope) : m.fields.length = 7 := rfl

@[simp] theorem tablePos_fields (m : Envelope) : tablePos m.fields = 22 := rfl

theorem tableSize_fields_le (m : Envelope) : tableSize m.fields ≤ 41 := by
  have h8 := Field.inlineWidth_scalarOr_le 8
  have h1 := Field.inlineWidth_scalarOr_le 1 m.backoffStrategy.toNat
  have := h8 m.retries.toNat
  have := h8 m.ttl.toNat
  have := h8 m.delay.toNat
  simp only [tableSize, fields, List.map_cons, List.map_nil, List.sum_cons, List.sum_nil,
    Field.inlineWidth.eq_3]
  omega

theorem bytes_eq {m : Envelope} {buf : List Byte} (h : m.bytes = some buf) :
    buf = layout m.fields ∧ Fits m.fields := by
  obtain ⟨hlt, hbuf⟩ := Option.ite_none_right_eq_some.1 h
  exact ⟨(Option.some.inj hbuf).symm, hlt, by simp [vtableSize], by have := tableSize_fields_le m; omega⟩

theorem backoffStrategy_toNat_lt (b : BackoffStrategy) : b.toNat < 256 ^ 1 := by
  cases b <;> decide

theorem uint64_toNat_lt (x : UInt64) : x.toNat < 256 ^ 8 := x.toNat_lt_size

theorem uint64_toNat_eq_zero {x : UInt64} : x.toNat = 0 ↔ x = 0 :=
  ⟨fun h => UInt64.eq_of_val_eq (Fin.ext h), fun h => by simp [h]⟩

/-- **`View(Build(fields))` reads back every field.** -/
theorem view_bytes {m : Envelope} {buf : List Byte} (h : m.bytes = some buf) :
    getRootAsRequeueMessage buf = some ⟨buf, 22⟩ ∧
    RequeueMessage.retries ⟨buf, 22⟩ = some m.retries.toNat ∧
    RequeueMessage.ttl ⟨buf, 22⟩ = some m.ttl.toNat ∧
    RequeueMessage.delay ⟨buf, 22⟩ = some m.delay.toNat ∧
    RequeueMessage.backoffStrategy ⟨buf, 22⟩ = some m.backoffStrategy.toNat ∧
    RequeueMessage.queueName ⟨buf, 22⟩ = some m.queueName ∧
    RequeueMessage.originalSubject ⟨buf, 22⟩ = some m.originalSubject ∧
    RequeueMessage.originalPayloadBytes ⟨buf, 22⟩ = some m.originalPayload := by
  obtain ⟨rfl, hfits⟩ := bytes_eq h
  refine ⟨?_, ?_, ?_, ?_, ?_, ?_, ?_, ?_⟩
  · simp [getRootAsRequeueMessage, getUint32_layout_root hfits, wrap]
  · exact scalarSlot_layout (i := 0) hfits (by simp) rfl (uint64_toNat_lt _)
  · exact scalarSlot_layout (i := 1) hfits (by simp) rfl (uint64_toNat_lt _)
  · exact scalarSlot_layout (i := 2) hfits (by simp) rfl (uint64_toNat_lt _)
  · exact scalarSlot_layout (i := 3) hfits (by simp) rfl (backoffStrategy_toNat_lt _)
  · exact vectorSlot_layout (i := 4) hfits (by simp) rfl
  · exact vectorSlot_layout (i := 5) hfits (by simp) rfl
  · exact vectorSlot_layout (i := 6) hfits (by simp) rfl

/-- **`MutateRetries` rewrites `retries` in place, when the builder gave it a slot.** -/
theorem mutateRetries_bytes {m : Envelope} {buf : List Byte} (h : m.bytes = some buf)
    (n : UInt64) :
    (m.retries ≠ 0 → ∃ buf', RequeueMessage.mutateRetries ⟨buf, 22⟩ n.toNat = some (true, ⟨buf', 22⟩) ∧
      buf'.length = buf.length ∧ (∀ j, j < 26 ∨ 34 ≤ j → buf'.getD j 0 = buf.getD j 0) ∧
      getRootAsRequeueMessage buf' = some ⟨buf', 22⟩ ∧
      RequeueMessage.retries ⟨buf', 22⟩ = some n.toNat) ∧
    (m.retries = 0 → RequeueMessage.mutateRetries ⟨buf, 22⟩ n.toNat = some (false, ⟨buf, 22⟩)) := by
  obtain ⟨rfl, hfits⟩ := bytes_eq h
  clear h
  refine ⟨fun h0 => ?_, fun h0 => ?_⟩
  · have h0' : m.retries.toNat ≠ 0 := mt uint64_toNat_eq_zero.1 h0
    have hf : m.fields[0] = .scalar 8 m.retries.toNat := by simp [fields, Field.scalarOr, h0']
    obtain ⟨buf', hmut, hw⟩ := mutateUint64Slot_layout (i := 0) hfits (by simp) hf n.toNat
    obtain ⟨hroot, hread⟩ := scalarSlot_after_write (i := 0) hfits (by simp) hf hw
    refine ⟨buf', hmut, writeUint64_length hw, fun j hj => writeUint64_getD hw hj, ?_, ?_⟩
    · simp [getRootAsRequeueMessage, hroot, wrap]
    · rw [Nat.mod_eq_of_lt (show n.toNat < 2 ^ 64 from n.toNat_lt_size)] at hread
      exact hread
  · have hvo : voffset m.fields 0 = 0 := by
      simp [voffset, fields, Field.scalarOr, uint64_toNat_eq_zero.2 h0]
    have hoff : (Table.mk (layout m.fields) 22).offset 4 = some 0 := by
      simpa [hvo] using offset_layout (i := 0) hfits (by simp)
    simp only [RequeueMessage.mutateRetries, Table.mutateUint64Slot, hoff,
      Option.bind_eq_bind, Option.some_bind, if_pos rfl]
    rfl

/-- The envelope of the repository's codec test, `TestRequeueMessage_FlatbufMutate`. -/
def foo : Envelope :=
  ⟨5, 10000, 20000, .Exponential, [], str "foo.bar", str "my awesome message"⟩

/-- The test's steps, on this file's layout of its envelope: build with `retries = 5`, mutate to
`4`, view afresh. -/
theorem mutateRetries_bytes_foo :
    foo.bytes = some (layout foo.fields) ∧
    (foo.retries ≠ 0 → ∃ buf', RequeueMessage.mutateRetries ⟨layout foo.fields, 22⟩
        (4 : UInt64).toNat = some (true, ⟨buf', 22⟩) ∧
      buf'.length = (layout foo.fields).length ∧
      (∀ j, j < 26 ∨ 34 ≤ j → buf'.getD j 0 = (layout foo.fields).getD j 0) ∧
      getRootAsRequeueMessage buf' = some ⟨buf', 22⟩ ∧
      RequeueMessage.retries ⟨buf', 22⟩ = some (4 : UInt64).toNat) ∧
    (foo.retries = 0 → RequeueMessage.mutateRetries ⟨layout foo.fields, 22⟩
        (4 : UInt64).toNat = some (false, ⟨layout foo.fields, 22⟩)) :=
  ⟨rfl, @mutateRetries_bytes foo (layout foo.fields) rfl 4⟩

end Envelope

end Flatbuf

end NatsRequeue
