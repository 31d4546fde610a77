import Mathlib

/-!
# Byte slices, and the order the store keeps them in

Go's `[]byte` and `string` are both sequences of bytes, and the code converts freely between
them (`[]byte(q.Namespace)`, `string(spl[0])`), so both are `List Byte` here, with `Byte := Fin 256`.
The store (Badger) keeps its keys in `bytes.Compare` order, which is the lexicographic order with a
proper prefix below its extensions: that is Mathlib's `List.Lex (· < ·)`, the `<` of the linear
order on `List Byte`.

Two Go primitives that `internal/queue/key.go` is built from are modelled as the runtime executes
them:

* `copyAt` is the builtin `copy(buf[off:], src)`: it writes `min (len src) (len buf - off)` bytes
  and returns how many it wrote.  `QueueKey.Bytes` assembles a key by a chain of such copies into a
  zeroed buffer, and `copySeq_replicate` says that chain produces the concatenation of the parts.
* `bytes.Split(k, []byte(sep))` with a one-byte separator is `List.splitOn`.

The order lemmas are the ones the key ranges need:

* a shared prefix does not change the comparison (`append_lt_append_left_iff`);
* among the keys of one length, all-zero bytes are least and all-`0xff` bytes are greatest
  (`replicate_zero_le`, `le_replicate_max`);
* **a common prefix of two keys is a prefix of everything between them**
  (`IsPrefix.of_le_of_le`) — the fact behind both queue ranges and `PrefixOf`.
-/

set_option autoImplicit false

namespace NatsRequeue

/-- A Go `byte`. -/
abbrev Byte := Fin 256

/-- The bytes of an ASCII string literal, as `[]byte("…")` gives them. -/
def str (s : String) : List Byte := s.toList.map fun c => Fin.ofNat c.toNat

theorem getD_of_lt {l : List Byte} {i : Nat} (h : i < l.length) : l.getD i 0 = l[i] := by
  rw [List.getD_eq_getElem?_getD, List.getElem?_eq_getElem h, Option.getD_some]

/-! ## `copy` into a buffer -/

/-- The builtin `copy(buf[off:], src)`: the bytes of `src` that fit are written at `off`; the
result is the new buffer and the number of bytes written. -/
def copyAt (buf : List Byte) (off : Nat) (src : List Byte) : List Byte × Nat :=
  let n := min src.length (buf.length - off)
  (buf.take off ++ src.take n ++ buf.drop (off + n), n)

/-- One link of `off += copy(buf[off:], src)`: copy at the running offset, then advance it. -/
def copyStep (acc : List Byte × Nat) (src : List Byte) : List Byte × Nat :=
  ((copyAt acc.1 acc.2 src).1, acc.2 + (copyAt acc.1 acc.2 src).2)

/-- `off := copy(buf, p₀); off += copy(buf[off:], p₁); …` — the parts are copied one after the
other, each at the offset the copies before it advanced to. -/
def copySeq (buf : List Byte) (parts : List (List Byte)) : List Byte × Nat :=
  parts.foldl copyStep (buf, 0)

/-- One copy into the zeroed tail of a buffer fills its front. -/
theorem copyStep_zeroed (pre src : List Byte) (m : Nat) (h : src.length ≤ m) :
    copyStep (pre ++ List.replicate m 0, pre.length) src
      = (pre ++ src ++ List.replicate (m - src.length) 0, (pre ++ src).length) := by
  have hn : min src.length (pre.length + m - pre.length) = src.length := by omega
  simp only [copyStep, copyAt, List.length_append, List.length_replicate, hn, List.take_left',
    List.take_of_length_le (Nat.le_refl _), List.drop_append_eq_append_drop, List.drop_replicate,
    List.append_assoc, List.drop_of_length_le (Nat.le_add_right _ _), List.length_nil]
  simp only [Nat.add_sub_cancel_left, List.nil_append]

theorem copySeq_go (parts : List (List Byte)) (pre : List Byte) (m : Nat)
    (h : parts.flatten.length ≤ m) :
    parts.foldl copyStep (pre ++ List.replicate m 0, pre.length)
      = (pre ++ parts.flatten ++ List.replicate (m - parts.flatten.length) 0,
          (pre ++ parts.flatten).length) := by
  induction parts generalizing pre m with
  | nil => simp
  | cons p ps ih =>
    rw [List.flatten_cons, List.length_append] at h
    rw [List.foldl_cons, copyStep_zeroed pre p m (by omega), ih (pre ++ p) _ (by omega)]
    simp only [List.flatten_cons, List.append_assoc, List.length_append, Nat.sub_sub]

/-- **The copy chain lays the parts end to end** when the buffer was made exactly long enough. -/
theorem copySeq_replicate (parts : List (List Byte)) :
    (copySeq (List.replicate parts.flatten.length 0) parts).1 = parts.flatten := by
  simpa using congrArg Prod.fst (copySeq_go parts [] parts.flatten.length (Nat.le_refl _))

/-! ## The lexicographic order -/

theorem append_lt_append_left_iff (p a b : List Byte) : p ++ a < p ++ b ↔ a < b := by
  induction p with
  | nil => rfl
  | cons c p ih => exact List.Lex.cons_iff.trans ih

theorem append_le_append_left_iff (p a b : List Byte) : p ++ a ≤ p ++ b ↔ a ≤ b := by
  rw [← not_lt, ← not_lt, append_lt_append_left_iff]

/-- All-zero bytes are the least key of their length. -/
theorem replicate_zero_le (k : List Byte) : List.replicate k.length 0 ≤ k := by
  induction k with
  | nil => exact le_rfl
  | cons b k ih =>
    rcases (Fin.zero_le b).lt_or_eq with hb | rfl
    · exact le_of_lt (List.Lex.rel hb)
    · rw [List.length_cons, List.replicate_succ, ← List.singleton_append,
        ← List.singleton_append (l := k)]
      exact (append_le_append_left_iff _ _ _).2 ih

/-- All-`0xff` bytes are the greatest key of their length. -/
theorem le_replicate_max (k : List Byte) : k ≤ List.replicate k.length 255 := by
  induction k with
  | nil => exact le_rfl
  | cons b k ih =>
    rcases (Fin.le_last b).lt_or_eq with hb | rfl
    · exact le_of_lt (List.Lex.rel hb)
    · rw [List.length_cons, List.replicate_succ, ← List.singleton_append,
        ← List.singleton_append (l := List.replicate _ _)]
      exact (append_le_append_left_iff _ _ _).2 ih

/-! ## Prefixes and the order -/

/-- **A common prefix of `a` and `b` is a prefix of every key between them.** -/
theorem IsPrefix.of_le_of_le {p a b x : List Byte} (ha : p <+: a) (hb : p <+: b) (hax : a ≤ x)
    (hxb : x ≤ b) : p <+: x := by
  induction p generalizing a b x with
  | nil => exact List.nil_prefix
  | cons c p ih =>
    obtain ⟨a, rfl⟩ := ha
    obtain ⟨b, rfl⟩ := hb
    cases x with
    | nil => exact absurd (lt_of_lt_of_le List.Lex.nil hax) (lt_irrefl _)
    | cons d x =>
      rcases lt_trichotomy d c with hdc | rfl | hcd
      · exact absurd (lt_of_le_of_lt hax (List.Lex.rel hdc)) (lt_irrefl _)
      · have hax' := (append_le_append_left_iff [d] _ _).1 hax
        have hxb' := (append_le_append_left_iff [d] _ _).1 hxb
        exact (List.prefix_cons_inj d).2 (ih (List.prefix_append p a) (List.prefix_append p b) hax' hxb')
      · exact absurd (lt_of_lt_of_le (List.Lex.rel hcd) hxb) (lt_irrefl _)

end NatsRequeue
