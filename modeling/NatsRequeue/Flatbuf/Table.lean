import NatsRequeue.Bytes

/-!
# Reading a flatbuffer table (the `flatbuffers` Go runtime)

The envelope is a flatbuffer, and the service reads it with the accessors `flatc` generates, which
call a handful of functions of the `flatbuffers` Go runtime on the raw `msg.Data`.  None of them
validates anything: every read is a slice expression or an index into the buffer, and Go's bounds
checks are the only checks there are.  So each read here returns an `Option`, `none` being the
runtime panic ("index out of range", "slice bounds out of range").

* Offsets are `UOffsetT` (`uint32`), `SOffsetT` (`int32`) and `VOffsetT` (`uint16`).  They are
  `Nat`s here, and where the Go code adds or subtracts them the result is taken `% 2 ^ 32` as the
  `uint32` arithmetic does (`wrap`).
* A slice `buf[i:j]` panics unless `i ≤ j ≤ cap(buf)`; the NATS client copies each payload into a
  slice of its exact length, so `cap = len` for `msg.Data`.
* `Table.offset` is the vtable lookup: a field the vtable does not reach reads as absent.

The mutation `MutateUint64Slot` writes eight bytes in place; `writeUint64_length` and
`writeUint64_getD` say it changes nothing but those eight bytes.
-/

set_option autoImplicit false

namespace NatsRequeue

namespace Flatbuf

/-- Wrap to `uint32`: what `UOffsetT` addition and subtraction do on overflow. -/
def wrap (n : Nat) : Nat := n % 2 ^ 32

/-- The little-endian value of a run of bytes. -/
def readLE : List Byte → Nat
  | [] => 0
  | b :: bs => b.val + 256 * readLE bs

/-- `width` little-endian bytes of `v` (its value `% 256 ^ width`). -/
def leBytes : Nat → Nat → List Byte
  | 0, _ => []
  | width + 1, v => Fin.ofNat (v % 256) :: leBytes width (v / 256)

@[simp] theorem length_leBytes (width v : Nat) : (leBytes width v).length = width := by
  induction width generalizing v <;> simp [leBytes, *]

theorem readLE_leBytes (width v : Nat) : readLE (leBytes width v) = v % 256 ^ width := by
  induction width generalizing v with
  | zero => simp [leBytes, readLE, Nat.mod_one]
  | succ width ih =>
    simp only [leBytes, readLE, ih, Fin.ofNat, Nat.pow_succ, Nat.mul_comm (256 ^ width) 256,
      Nat.mod_mul]
    omega

/-- `Get…(buf[off:])` of a `width`-byte value: the slice panics past the end, and the getter's
bounds check (`_ = buf[width-1]`) panics unless `width` bytes follow. -/
def getLE (width : Nat) (buf : List Byte) (off : Nat) : Option Nat :=
  if off + width ≤ buf.length then some (readLE ((buf.drop off).take width)) else none

/-- `GetUint16`, used for `VOffsetT`. -/
def getUint16 (buf : List Byte) (off : Nat) : Option Nat := getLE 2 buf off

/-- `GetUint32`, used for `UOffsetT` and (as its bit pattern) `SOffsetT`. -/
def getUint32 (buf : List Byte) (off : Nat) : Option Nat := getLE 4 buf off

/-- `GetUint64`. -/
def getUint64 (buf : List Byte) (off : Nat) : Option Nat := getLE 8 buf off

theorem getLE_isSome_iff {width off : Nat} {buf : List Byte} :
    (getLE width buf off).isSome ↔ off + width ≤ buf.length := by
  unfold getLE
  split <;> simp_all

/-- A read sees only the bytes it reads. -/
theorem getLE_congr {width off : Nat} {buf buf' : List Byte} (hlen : buf'.length = buf.length)
    (h : ∀ j, off ≤ j → j < off + width → buf'.getD j 0 = buf.getD j 0) :
    getLE width buf' off = getLE width buf off := by
  unfold getLE
  rw [hlen]
  split
  · rename_i hle
    congr 2
    refine List.ext_getElem (by simp [hlen]) fun k h₁ h₂ => ?_
    simp only [List.length_take, List.length_drop] at h₁
    have := h (off + k) (by omega) (by omega)
    rw [getD_of_lt (by omega), getD_of_lt (by omega)] at this
    simpa [List.getElem_take, List.getElem_drop] using this
  · rfl

/-- The Go slice expression `buf[i:j]`, with `cap(buf) = len(buf)`. -/
def slice (buf : List Byte) (i j : Nat) : Option (List Byte) :=
  if i ≤ j ∧ j ≤ buf.length then some ((buf.drop i).take (j - i)) else none

/-- A `flatbuffers.Table`: the buffer and the position of the table in it. -/
structure Table where
  bytes : List Byte
  pos : Nat
  deriving DecidableEq, Repr

namespace Table

/-- `Table.Offset`: the vtable sits `GetSOffsetT(pos)` bytes before the table (as `int32`
arithmetic, so the difference wraps); a slot at or past the vtable's length is absent (`0`). -/
def offset (t : Table) (vtableOffset : Nat) : Option Nat := do
  let soff ← getUint32 t.bytes t.pos
  let vtable := wrap (t.pos + 2 ^ 32 - soff)
  let vsize ← getUint16 t.bytes vtable
  if vtableOffset < vsize then getUint16 t.bytes (wrap (vtable + vtableOffset)) else pure 0

/-- `Table.ByteVector`: follow the offset stored at `off`, read the length there, and slice the
bytes after it. -/
def byteVector (t : Table) (off : Nat) : Option (List Byte) := do
  let rel ← getUint32 t.bytes off
  let off := wrap (off + rel)
  let start := wrap (off + 4)
  let length ← getUint32 t.bytes off
  slice t.bytes start (wrap (start + length))

/-- The accessor `flatc` generates for a `[ubyte]` or `string` field at `slot`: `nil` when the
field is absent. -/
def vectorSlot (t : Table) (slot : Nat) : Option (List Byte) := do
  let o ← t.offset slot
  if o ≠ 0 then t.byteVector (wrap (o + t.pos)) else pure []

/-- The accessor `flatc` generates for a scalar field of `width` bytes at `slot`:
`o := Offset(slot); if o != 0 { return Get…(o + Pos) }; return d`. -/
def scalarSlot (width : Nat) (t : Table) (slot d : Nat) : Option Nat := do
  let o ← t.offset slot
  if o = 0 then pure d else getLE width t.bytes (wrap (o + t.pos))

end Table

/-! ## Writing in place -/

/-- `WriteUint64(buf[off:], n)`: the eight bytes at `off` replaced, in the same buffer. -/
def writeUint64 (buf : List Byte) (off n : Nat) : Option (List Byte) :=
  if off + 8 ≤ buf.length then some (buf.take off ++ leBytes 8 n ++ buf.drop (off + 8)) else none

/-- `Table.MutateUint64Slot`: `false` when the field is absent (there is no room to write it);
otherwise the field's bytes are overwritten in place. -/
def Table.mutateUint64Slot (t : Table) (slot n : Nat) : Option (Bool × Table) := do
  let o ← t.offset slot
  if o = 0 then pure (false, t)
  else
    let bytes ← writeUint64 t.bytes (wrap (t.pos + o)) n
    pure (true, { t with bytes := bytes })

theorem writeUint64_length {buf buf' : List Byte} {off n : Nat}
    (h : writeUint64 buf off n = some buf') : buf'.length = buf.length := by
  unfold writeUint64 at h
  split at h
  · cases h
    simp only [List.length_append, List.length_take, length_leBytes, List.length_drop]
    omega
  · cases h

/-- Outside the eight bytes written, the buffer is unchanged. -/
theorem writeUint64_getD {buf buf' : List Byte} {off n i : Nat}
    (h : writeUint64 buf off n = some buf') (hi : i < off ∨ off + 8 ≤ i) :
    buf'.getD i 0 = buf.getD i 0 := by
  unfold writeUint64 at h
  split at h
  · cases h
    rename_i hlen
    simp only [List.getD_eq_getElem?_getD, List.append_assoc]
    rcases hi with hi | hi
    · rw [List.getElem?_append_left (by simp; omega), List.getElem?_take_of_lt hi]
    · have htake : (buf.take off).length = off := by simp; omega
      rw [List.getElem?_append_right (by omega), List.getElem?_append_right (by simp; omega),
        List.getElem?_drop, htake, length_leBytes]
      congr 2
      omega
  · cases h

/-- Reading back the eight bytes just written gives the value written. -/
theorem getUint64_writeUint64 {buf buf' : List Byte} {off n : Nat}
    (h : writeUint64 buf off n = some buf') : getUint64 buf' off = some (n % 2 ^ 64) := by
  have hlen := writeUint64_length h
  unfold writeUint64 at h
  split at h
  · cases h
    rename_i hle
    have hoff : (buf.take off).length = off := by simp; omega
    simp only [getUint64, getLE, List.append_assoc, List.drop_left' hoff,
      List.take_left' (length_leBytes 8 n), readLE_leBytes]
    rw [if_pos (by simp; omega), show (256 : Nat) ^ 8 = 2 ^ 64 from rfl]
  · cases h

end Flatbuf

end NatsRequeue
