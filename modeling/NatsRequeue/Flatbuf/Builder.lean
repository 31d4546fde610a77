import NatsRequeue.Flatbuf.Table

/-!
# Laying out a flatbuffer table

The producer side of the envelope — `DefaultRequeueMessage()` and `RequeueMessage.Bytes()` in the
Go package — is not in the source.  The spec asks of it only that it "construct an envelope in
memory from field values; produce a finalized byte buffer" that `View` reads back, with a
fixed-width slot for `retries`.  This file lays a table out the way a flatbuffer is laid out, in
one canonical arrangement:

```
root uoffset │ vtable: vsize, tsize, one voffset per field │ table: soffset, inline fields │ vectors
```

* a scalar at its default is left out of the table, its voffset `0`, as the flatbuffers builder
  does when defaults are not forced;
* a vector is a `uoffset` in the table pointing at its length and bytes after the table (a string
  also gets its terminating `0`);
* the whole buffer must stay below 2 GiB, the builder's own limit.

`scalarSlot_layout` and `vectorSlot_layout` are what the envelope's round trip is built from: read
through the runtime of `NatsRequeue.Flatbuf.Table`, every field of a laid-out table reads back as
it was laid out; `mutateUint64Slot_layout` and `scalarSlot_after_write` do the same for an
in-place write.  They rest on `At`, "these bytes sit at this offset", and on how `At` passes
through concatenation.
-/

set_option autoImplicit false

namespace NatsRequeue

namespace Flatbuf

/-! ## Bytes at an offset -/

/-- `seg` sits at offset `off` of `buf`. -/
def At (buf : List Byte) (off : Nat) (seg : List Byte) : Prop :=
  ∃ pre post, buf = pre ++ seg ++ post ∧ pre.length = off

theorem At.append_left {buf seg : List Byte} {off : Nat} (pre : List Byte) (h : At buf off seg) :
    At (pre ++ buf) (pre.length + off) seg := by
  obtain ⟨a, b, rfl, rfl⟩ := h
  exact ⟨pre ++ a, b, by simp, by simp⟩

theorem At.append_right {buf seg : List Byte} {off : Nat} (post : List Byte) (h : At buf off seg) :
    At (buf ++ post) off seg := by
  obtain ⟨a, b, rfl, rfl⟩ := h
  exact ⟨a, b ++ post, by simp, rfl⟩

theorem At.le_length {buf seg : List Byte} {off : Nat} (h : At buf off seg) :
    off + seg.length ≤ buf.length := by
  obtain ⟨a, b, rfl, rfl⟩ := h
  simp

theorem At.self (seg : List Byte) : At seg 0 seg := ⟨[], [], by simp, rfl⟩

/-- The middle of a segment sits after its front. -/
theorem At.sub {buf a b c : List Byte} {off : Nat} (h : At buf off (a ++ b ++ c)) :
    At buf (off + a.length) b := by
  obtain ⟨pre, post, rfl, rfl⟩ := h
  exact ⟨pre ++ a, c ++ post, by simp, by simp⟩

/-- The `i`-th of a list of segments sits after the ones before it. -/
theorem At.flatten (segs : List (List Byte)) (i : Nat) (hi : i < segs.length) :
    At segs.flatten ((segs.take i).map List.length).sum segs[i] := by
  induction segs generalizing i with
  | nil => simp at hi
  | cons s segs ih =>
    cases i with
    | zero => exact (At.self s).append_right _
    | succ i =>
      have h := (ih i (by simpa using hi)).append_left s
      simpa using h

theorem getLE_of_at {buf : List Byte} {off w v : Nat} (h : At buf off (leBytes w v)) :
    getLE w buf off = some (v % 256 ^ w) := by
  obtain ⟨pre, post, rfl, rfl⟩ := h
  simp [getLE, List.drop_left', List.take_left', readLE_leBytes]

theorem slice_of_at {buf seg : List Byte} {off : Nat} (h : At buf off seg) :
    slice buf off (off + seg.length) = some seg := by
  have hle := h.le_length
  obtain ⟨pre, post, rfl, rfl⟩ := h
  simp [slice, List.drop_left', List.take_left']

/-! ## The layout -/

/-- A field as the builder lays it out. -/
inductive Field
  /-- A scalar at its default: not written, its voffset `0`. -/
  | absent
  /-- A scalar of `width` bytes, written in the table. -/
  | scalar (width value : Nat)
  /-- A vector, written after the table; `nul` for a string, which ends in a `0` byte. -/
  | vector (bytes : List Byte) (nul : Bool)
  deriving DecidableEq, Repr

namespace Field

/-- A scalar as the builder writes it: left out when it is `0`, the default of every scalar of
the envelope. -/
def scalarOr (width value : Nat) : Field := if value = 0 then absent else scalar width value

/-- The bytes a field takes in the table. -/
def inlineWidth : Field → Nat
  | absent => 0
  | scalar width _ => width
  | vector _ _ => 4

theorem inlineWidth_scalarOr_le (width value : Nat) : (scalarOr width value).inlineWidth ≤ width := by
  unfold scalarOr
  split <;> simp [inlineWidth]

/-- The bytes a field puts after the table: a vector's length and contents. -/
def block : Field → List Byte
  | vector bytes nul => leBytes 4 bytes.length ++ bytes ++ (if nul then [0] else [])
  | _ => []

end Field

section Layout

variable (fs : List Field)

/-- The vtable's length: its own size, the table's size, and one voffset per field. -/
def vtableSize : Nat := 4 + 2 * fs.length

/-- Where the table starts: after the root offset and the vtable. -/
def tablePos : Nat := 4 + vtableSize fs

/-- The table's length: the soffset and every field's inline bytes. -/
def tableSize : Nat := 4 + (fs.map Field.inlineWidth).sum

/-- Where field `i`'s inline bytes start, from the start of the table. -/
def inlineStart (i : Nat) : Nat := 4 + ((fs.take i).map Field.inlineWidth).sum

/-- Where field `i`'s block starts in the buffer. -/
def blockPos (i : Nat) : Nat :=
  tablePos fs + tableSize fs + ((fs.take i).map fun f => f.block.length).sum

/-- Field `i`'s voffset: `0` when it is absent. -/
def voffset (i : Nat) : Nat :=
  match fs[i]? with
  | some .absent => 0
  | _ => inlineStart fs i

/-- Field `i`'s bytes in the table: a scalar's value, or a vector's `uoffset` to its block. -/
def inline (i : Nat) : List Byte :=
  match fs[i]? with
  | some (.scalar width value) => leBytes width value
  | some (.vector _ _) => leBytes 4 (blockPos fs i - (tablePos fs + inlineStart fs i))
  | _ => []

/-- The vtable: its size, the table's size, the voffsets. -/
def vtableBytes : List Byte :=
  leBytes 2 (vtableSize fs) ++ leBytes 2 (tableSize fs) ++
    ((List.range fs.length).map fun i => leBytes 2 (voffset fs i)).flatten

/-- The table: the soffset back to the vtable (which sits at `4`), then the inline fields. -/
def tableBytes : List Byte :=
  leBytes 4 (vtableSize fs) ++ ((List.range fs.length).map (inline fs)).flatten

/-- Modelled from the spec: the finished buffer — the root offset, the vtable, the table and the
vectors' blocks. -/
def layout : List Byte :=
  leBytes 4 (tablePos fs) ++ vtableBytes fs ++ tableBytes fs ++ (fs.map Field.block).flatten

/-! ### Lengths and positions -/

theorem sum_range_eq_sum_take (g : Nat → Nat) (l : List Nat) (hg : ∀ i (h : i < l.length), g i = l[i])
    (k : Nat) (hk : k ≤ l.length) : ((List.range k).map g).sum = (l.take k).sum := by
  induction k with
  | zero => simp
  | succ k ih =>
    rw [List.range_succ, List.map_append, List.sum_append, ih (by omega), List.sum_take_succ _ _ hk]
    simp [hg k hk]

theorem sum_range_const (c k : Nat) : ((List.range k).map fun _ => c).sum = c * k := by
  induction k with
  | zero => simp
  | succ k ih => rw [List.range_succ, List.map_append, List.sum_append, ih]; simp [Nat.mul_succ]

theorem length_inline {i : Nat} (hi : i < fs.length) : (inline fs i).length = fs[i].inlineWidth := by
  unfold inline
  rw [List.getElem?_eq_getElem hi]
  cases fs[i] <;> simp [Field.inlineWidth]

theorem sum_length_inline {k : Nat} (hk : k ≤ fs.length) :
    ((List.range k).map fun i => (inline fs i).length).sum
      = ((fs.take k).map Field.inlineWidth).sum := by
  rw [List.map_take]
  exact sum_range_eq_sum_take _ _ (fun i h => by simp [length_inline fs (by simpa using h)]) k
    (by simpa using hk)

theorem length_vtableBytes : (vtableBytes fs).length = vtableSize fs := by
  simp only [vtableBytes, vtableSize, List.length_append, length_leBytes, List.length_flatten,
    List.map_map, Function.comp_def, sum_range_const]

theorem length_tableBytes : (tableBytes fs).length = tableSize fs := by
  simp only [tableBytes, tableSize, List.length_append, length_leBytes, List.length_flatten,
    List.map_map, Function.comp_def]
  rw [sum_length_inline fs le_rfl, List.take_length]

theorem inlineStart_add_le {i : Nat} (hi : i < fs.length) :
    inlineStart fs i + fs[i].inlineWidth ≤ tableSize fs := by
  have h := List.sum_take_succ (fs.map Field.inlineWidth) i (by simpa using hi)
  have hle := List.sum_take_add_sum_drop (fs.map Field.inlineWidth) (i + 1)
  simp only [List.getElem_map, ← List.map_take] at h hle
  simp only [inlineStart, tableSize]
  omega

/-! ### Where each piece sits -/

theorem at_root : At (layout fs) 0 (leBytes 4 (tablePos fs)) :=
  (((At.self _).append_right _).append_right _).append_right _

theorem at_vtableSize : At (layout fs) 4 (leBytes 2 (vtableSize fs)) :=
  ⟨leBytes 4 (tablePos fs), leBytes 2 (tableSize fs) ++
    ((List.range fs.length).map fun i => leBytes 2 (voffset fs i)).flatten ++ tableBytes fs ++
    (fs.map Field.block).flatten, by simp [layout, vtableBytes, List.append_assoc], by simp⟩

theorem at_voffset {i : Nat} (hi : i < fs.length) :
    At (layout fs) (8 + 2 * i) (leBytes 2 (voffset fs i)) := by
  have hseg := At.flatten ((List.range fs.length).map fun i => leBytes 2 (voffset fs i)) i
    (by simpa using hi)
  rw [List.getElem_map, List.getElem_range, ← List.map_take, List.take_range,
    Nat.min_eq_left hi.le, List.map_map] at hseg
  obtain ⟨pre, post, heq, hlen⟩ := hseg
  refine ⟨leBytes 4 (tablePos fs) ++ leBytes 2 (vtableSize fs) ++ leBytes 2 (tableSize fs) ++ pre,
    post ++ tableBytes fs ++ (fs.map Field.block).flatten, ?_, ?_⟩
  · simp only [layout, vtableBytes, heq, List.append_assoc]
  · simp only [List.length_append, length_leBytes, hlen, Function.comp_def, sum_range_const]

theorem at_soffset : At (layout fs) (tablePos fs) (leBytes 4 (vtableSize fs)) :=
  ⟨leBytes 4 (tablePos fs) ++ vtableBytes fs,
    ((List.range fs.length).map (inline fs)).flatten ++ (fs.map Field.block).flatten,
    by simp [layout, tableBytes, List.append_assoc],
    by simp [length_vtableBytes, tablePos]⟩

theorem at_inline {i : Nat} (hi : i < fs.length) :
    At (layout fs) (tablePos fs + inlineStart fs i) (inline fs i) := by
  have hseg := At.flatten ((List.range fs.length).map (inline fs)) i (by simpa using hi)
  rw [List.getElem_map, List.getElem_range, ← List.map_take, List.take_range,
    Nat.min_eq_left hi.le, List.map_map, Function.comp_def, sum_length_inline fs hi.le] at hseg
  obtain ⟨pre, post, heq, hlen⟩ := hseg
  refine ⟨leBytes 4 (tablePos fs) ++ vtableBytes fs ++ leBytes 4 (vtableSize fs) ++ pre,
    post ++ (fs.map Field.block).flatten, ?_, ?_⟩
  · simp only [layout, tableBytes, heq, List.append_assoc]
  · simp only [List.length_append, length_leBytes, length_vtableBytes, hlen, tablePos, inlineStart]
    omega

theorem at_block {i : Nat} (hi : i < fs.length) : At (layout fs) (blockPos fs i) fs[i].block := by
  have hseg := At.flatten (fs.map Field.block) i (by simpa using hi)
  rw [List.getElem_map, ← List.map_take, List.map_map, Function.comp_def] at hseg
  obtain ⟨pre, post, heq, hlen⟩ := hseg
  refine ⟨leBytes 4 (tablePos fs) ++ vtableBytes fs ++ tableBytes fs ++ pre, post, ?_, ?_⟩
  · simp only [layout, heq, List.append_assoc]
  · simp only [List.length_append, length_leBytes, length_vtableBytes, length_tableBytes, hlen,
      blockPos, tablePos]

/-! ### Reading the layout back -/

/-- What the runtime needs of a laid-out table: it fits the 2 GiB the builder allows, and the
vtable's and table's sizes fit a `VOffsetT`. -/
structure Fits : Prop where
  length_lt : (layout fs).length < 2 ^ 31
  vtableSize_lt : vtableSize fs < 2 ^ 16
  tableSize_lt : tableSize fs < 2 ^ 16

variable {fs}

theorem voffset_le {i : Nat} (hi : i < fs.length) : voffset fs i ≤ tableSize fs := by
  have := inlineStart_add_le fs hi
  unfold voffset
  split <;> omega

/-- The root offset points at the table. -/
theorem getUint32_layout_root (h : Fits fs) : getUint32 (layout fs) 0 = some (tablePos fs) := by
  have hlt := (at_soffset fs).le_length
  have := h.length_lt
  rw [getUint32, getLE_of_at (at_root fs), Nat.mod_eq_of_lt (by omega)]

theorem getUint32_layout_soffset (h : Fits fs) :
    getUint32 (layout fs) (tablePos fs) = some (vtableSize fs) := by
  have hn : 4 + 2 * fs.length < 2 ^ 16 := h.vtableSize_lt
  rw [getUint32, getLE_of_at (at_soffset fs), Nat.mod_eq_of_lt (by simp only [vtableSize]; omega)]

theorem getUint16_layout_vtableSize (h : Fits fs) :
    getUint16 (layout fs) 4 = some (vtableSize fs) := by
  have hn : 4 + 2 * fs.length < 2 ^ 16 := h.vtableSize_lt
  rw [getUint16, getLE_of_at (at_vtableSize fs), Nat.mod_eq_of_lt (by simp only [vtableSize]; omega)]

theorem getUint16_layout_voffset (h : Fits fs) {i : Nat} (hi : i < fs.length) :
    getUint16 (layout fs) (8 + 2 * i) = some (voffset fs i) := by
  have hvo : voffset fs i < 256 ^ 2 := lt_of_le_of_lt (voffset_le hi) h.tableSize_lt
  rw [getUint16, getLE_of_at (at_voffset fs hi), Nat.mod_eq_of_lt hvo]

/-- The vtable lookup of field `i` in any buffer that reads, at the three places the lookup reads,
what the layout holds there. -/
theorem offset_eq_of_reads (h : Fits fs) {i : Nat} (hi : i < fs.length) {buf : List Byte}
    (hsoff : getUint32 buf (tablePos fs) = some (vtableSize fs))
    (hvsize : getUint16 buf 4 = some (vtableSize fs))
    (hslot : getUint16 buf (8 + 2 * i) = some (voffset fs i)) :
    (Table.mk buf (tablePos fs)).offset (4 + 2 * i) = some (voffset fs i) := by
  have hn : 4 + 2 * fs.length < 2 ^ 16 := h.vtableSize_lt
  have hvt : wrap (tablePos fs + 2 ^ 32 - vtableSize fs) = 4 := by
    simp only [wrap, tablePos, vtableSize]; omega
  have hent : wrap (4 + (4 + 2 * i)) = 8 + 2 * i := by
    rw [wrap, Nat.mod_eq_of_lt (by omega)]; omega
  simp only [Table.offset, hsoff, Option.bind_eq_bind, Option.some_bind, hvt, hvsize, hent, hslot]
  rw [if_pos (by simp only [vtableSize]; omega)]

/-- **The vtable lookup of field `i` finds its voffset.** -/
theorem offset_layout (h : Fits fs) {i : Nat} (hi : i < fs.length) :
    (Table.mk (layout fs) (tablePos fs)).offset (4 + 2 * i) = some (voffset fs i) :=
  offset_eq_of_reads h hi (getUint32_layout_soffset h) (getUint16_layout_vtableSize h)
    (getUint16_layout_voffset h hi)

/-- The lookup still finds field `i` in a buffer that agrees with the layout up to the table's
first field. -/
theorem offset_of_agree (h : Fits fs) {i : Nat} (hi : i < fs.length) {buf : List Byte}
    (hlen : buf.length = (layout fs).length)
    (hagree : ∀ j, j < tablePos fs + 4 → buf.getD j 0 = (layout fs).getD j 0) :
    (Table.mk buf (tablePos fs)).offset (4 + 2 * i) = some (voffset fs i) := by
  have hT : 8 + 2 * i + 2 ≤ tablePos fs := by simp only [tablePos, vtableSize]; omega
  refine offset_eq_of_reads h hi ?_ ?_ ?_
  · rw [getUint32, getLE_congr hlen fun j _ hj => hagree j (by omega)]
    exact getUint32_layout_soffset h
  · rw [getUint16, getLE_congr hlen fun j _ hj => hagree j (by omega)]
    exact getUint16_layout_vtableSize h
  · rw [getUint16, getLE_congr hlen fun j _ hj => hagree j (by omega)]
    exact getUint16_layout_voffset h hi

theorem voffset_of_ne_absent {i : Nat} (hi : i < fs.length) (hf : fs[i] ≠ .absent) :
    voffset fs i = inlineStart fs i := by
  unfold voffset
  rw [List.getElem?_eq_getElem hi]
  split
  · rename_i h; exact absurd (Option.some.inj h) hf
  · rfl

/-- **A scalar field reads back its value.** -/
theorem getLE_layout_scalar (h : Fits fs) {i width value : Nat} (hi : i < fs.length)
    (hf : fs[i] = .scalar width value) :
    getLE width (layout fs) (wrap (voffset fs i + tablePos fs)) = some (value % 256 ^ width) := by
  have hat := at_inline fs hi
  have hlt := hat.le_length
  have hinl : inline fs i = leBytes width value := by simp [inline, List.getElem?_eq_getElem hi, hf]
  rw [voffset_of_ne_absent hi (by simp [hf]), wrap, Nat.mod_eq_of_lt (by have := h.length_lt; omega),
    Nat.add_comm]
  rw [hinl] at hat
  exact getLE_of_at hat

/-- **A vector field reads back its bytes.** -/
theorem byteVector_layout (h : Fits fs) {i : Nat} {bytes : List Byte} {nul : Bool}
    (hi : i < fs.length) (hf : fs[i] = .vector bytes nul) :
    (Table.mk (layout fs) (tablePos fs)).byteVector (wrap (voffset fs i + tablePos fs))
      = some bytes := by
  have hlen := h.length_lt
  have hinl := at_inline fs hi
  have hblk := at_block fs hi
  have hend := hblk.le_length
  have hstart := inlineStart_add_le fs hi
  have hpos : tablePos fs + tableSize fs ≤ blockPos fs i := by simp [blockPos]
  simp only [hf, Field.block, Field.inlineWidth, List.length_append, length_leBytes] at hblk hend hstart
  simp only [inline, List.getElem?_eq_getElem hi, hf] at hinl
  have hhead : At (layout fs) (blockPos fs i) (leBytes 4 bytes.length) :=
    by simpa using (hblk.sub (a := []) (b := leBytes 4 bytes.length) (c := bytes ++ _))
  have hbody : At (layout fs) (blockPos fs i + 4) bytes := by
    simpa [List.append_assoc] using (hblk.sub (a := leBytes 4 bytes.length) (b := bytes))
  rw [voffset_of_ne_absent hi (by simp [hf])]
  have e₁ : wrap (inlineStart fs i + tablePos fs) = tablePos fs + inlineStart fs i := by
    rw [wrap, Nat.mod_eq_of_lt (by omega)]; omega
  have e₂ : (blockPos fs i - (tablePos fs + inlineStart fs i)) % 256 ^ 4
      = blockPos fs i - (tablePos fs + inlineStart fs i) := Nat.mod_eq_of_lt (by omega)
  have e₃ : wrap (tablePos fs + inlineStart fs i + (blockPos fs i - (tablePos fs + inlineStart fs i)))
      = blockPos fs i := by rw [wrap, Nat.mod_eq_of_lt (by omega)]; omega
  have e₄ : wrap (blockPos fs i + 4) = blockPos fs i + 4 := by rw [wrap, Nat.mod_eq_of_lt (by omega)]
  have e₅ : bytes.length % 256 ^ 4 = bytes.length := Nat.mod_eq_of_lt (by omega)
  have e₆ : wrap (blockPos fs i + 4 + bytes.length) = blockPos fs i + 4 + bytes.length := by
    rw [wrap, Nat.mod_eq_of_lt (by omega)]
  simp only [Table.byteVector, getUint32, e₁, getLE_of_at hinl, e₂, Option.bind_eq_bind,
    Option.some_bind, e₃, e₄, getLE_of_at hhead, e₅, e₆, slice_of_at hbody]

theorem voffset_ne_zero {i : Nat} (hi : i < fs.length) (hf : fs[i] ≠ .absent) :
    voffset fs i ≠ 0 := by
  rw [voffset_of_ne_absent hi hf, inlineStart]
  omega

/-- **A scalar field reads back, its default when it was left out.** -/
theorem scalarSlot_layout (h : Fits fs) {i width value : Nat} (hi : i < fs.length)
    (hf : fs[i] = Field.scalarOr width value) (hv : value < 256 ^ width) :
    (Table.mk (layout fs) (tablePos fs)).scalarSlot width (4 + 2 * i) 0 = some value := by
  simp only [Table.scalarSlot, offset_layout h hi, Option.bind_eq_bind, Option.some_bind]
  by_cases h0 : value = 0
  · have : voffset fs i = 0 := by simp [voffset, List.getElem?_eq_getElem hi, hf, Field.scalarOr, h0]
    simp [this, h0]
  · have hs : fs[i] = .scalar width value := by simp [hf, Field.scalarOr, h0]
    rw [if_neg (voffset_ne_zero hi (by simp [hs])), getLE_layout_scalar h hi hs,
      Nat.mod_eq_of_lt hv]

/-- **A vector field reads back its bytes.** -/
theorem vectorSlot_layout (h : Fits fs) {i : Nat} {bytes : List Byte} {nul : Bool}
    (hi : i < fs.length) (hf : fs[i] = .vector bytes nul) :
    (Table.mk (layout fs) (tablePos fs)).vectorSlot (4 + 2 * i) = some bytes := by
  simp only [Table.vectorSlot, offset_layout h hi, Option.bind_eq_bind, Option.some_bind,
    if_pos (voffset_ne_zero hi (by simp [hf])), byteVector_layout h hi hf]

/-! ### Writing a field in place -/

/-- **Mutating a written `uint64` field overwrites its eight bytes in place.** -/
theorem mutateUint64Slot_layout (h : Fits fs) {i value : Nat} (hi : i < fs.length)
    (hf : fs[i] = .scalar 8 value) (n : Nat) :
    ∃ buf', (Table.mk (layout fs) (tablePos fs)).mutateUint64Slot (4 + 2 * i) n
        = some (true, Table.mk buf' (tablePos fs)) ∧
      writeUint64 (layout fs) (tablePos fs + inlineStart fs i) n = some buf' := by
  have hat := at_inline fs hi
  have hinl : inline fs i = leBytes 8 value := by simp [inline, List.getElem?_eq_getElem hi, hf]
  rw [hinl] at hat
  have hend := hat.le_length
  rw [length_leBytes] at hend
  have hwrap : wrap (tablePos fs + inlineStart fs i) = tablePos fs + inlineStart fs i :=
    Nat.mod_eq_of_lt (by have := h.length_lt; omega)
  refine ⟨(layout fs).take (tablePos fs + inlineStart fs i) ++ leBytes 8 n ++
    (layout fs).drop (tablePos fs + inlineStart fs i + 8), ?_, by simp [writeUint64, hend]⟩
  have hne : inlineStart fs i ≠ 0 := by simp [inlineStart]
  simp only [Table.mutateUint64Slot, offset_layout h hi, Option.bind_eq_bind, Option.some_bind,
    voffset_of_ne_absent hi (by simp [hf]), if_neg hne, hwrap, writeUint64, if_pos hend]
  rfl

/-- **After the write, a fresh view finds the table where it was and reads the new value.** -/
theorem scalarSlot_after_write (h : Fits fs) {i value n : Nat} (hi : i < fs.length)
    (hf : fs[i] = .scalar 8 value) {buf' : List Byte}
    (hw : writeUint64 (layout fs) (tablePos fs + inlineStart fs i) n = some buf') :
    getUint32 buf' 0 = some (tablePos fs) ∧
      (Table.mk buf' (tablePos fs)).scalarSlot 8 (4 + 2 * i) 0 = some (n % 2 ^ 64) := by
  have hlen := writeUint64_length hw
  have hagree : ∀ j, j < tablePos fs + inlineStart fs i → buf'.getD j 0 = (layout fs).getD j 0 :=
    fun j hj => writeUint64_getD hw (.inl hj)
  have hfirst : 4 ≤ inlineStart fs i := by simp [inlineStart]
  have hT : 4 ≤ tablePos fs := by simp [tablePos]
  refine ⟨?_, ?_⟩
  · rw [getUint32, getLE_congr hlen fun j _ hj => hagree j (by omega)]
    exact getUint32_layout_root h
  · have hend := (at_inline fs hi).le_length
    have hwrap : wrap (inlineStart fs i + tablePos fs) = tablePos fs + inlineStart fs i := by
      rw [wrap, Nat.mod_eq_of_lt (by have := h.length_lt; omega), Nat.add_comm]
    have hne : inlineStart fs i ≠ 0 := by omega
    simp only [Table.scalarSlot, offset_of_agree h hi hlen fun j hj => hagree j (by omega),
      Option.bind_eq_bind, Option.some_bind, voffset_of_ne_absent hi (by simp [hf]), if_neg hne,
      hwrap]
    exact getUint64_writeUint64 hw

end Layout

end Flatbuf

end NatsRequeue
