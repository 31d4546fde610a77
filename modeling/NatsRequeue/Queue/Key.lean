import NatsRequeue.Bytes

/-!
# Queue keys (`internal/queue/key.go`)

Every record the service keeps lives under a four-segment key

```
_q . <bucket> . <queue name> . <suffix>
```

with bucket `_m` for messages, whose suffix is a fixed-width sortable identifier (`key.Key`), and
`_s` for per-queue state, whose suffix is a property name.  `QueueKey.bytes` is `QueueKey.Bytes`
as the code computes it — a zeroed buffer of the right length and a chain of `copy`s — and
`QueueKey.bytes_eq` turns that into the concatenation every later proof uses.

The identifier package `internal/key` is not in the source; its three constants are taken from
the spec (`Key.size`, `Key.min`, `Key.max`).  `debug.Assert` is not in the source either; the spec
says a malformed key makes `ParseQueueKey` "fail loudly", so `Debug.assert` fails the parse.

What is proved here is about the layout of one key:

* message keys are injective in the pair (queue, identifier), and never collide with a state key
  (`messageKey_unique`);
* `ParseQueueKey` splits on every `.` byte, while `Bytes` writes the identifier's raw bytes, so the
  parse inverts the encoding exactly when neither the queue name nor the identifier contains a
  `.` (`parseQueueKey_bytes_of_dotFree`), and an identifier with a `.` byte — which a random
  20-byte identifier has about one time in thirteen — makes it fail
  (`parseQueueKey_dotted_identifier`);
* the other way round, **`ParseQueueKey` accepts exactly the keys it gives back**: a byte string
  parses iff it is the `Bytes` of the result, which has four dot-free segments and a
  `key.Size`-byte identifier (`parseQueueKey_eq_ok_iff`).  The namespace and the bucket are not
  checked.

How keys of one queue sort, and `PrefixOf`, are in `NatsRequeue.Queue.Range`.
-/

set_option autoImplicit false

namespace NatsRequeue

/-! ## The sortable identifier (`internal/key`) -/

namespace Key

/-- Modelled from the spec: `key.Size` (the package `internal/key` is not in the source). "The
sortable identifier is a 20-byte value." -/
def size : Nat := 20

/-- Modelled from the spec: `key.Min`, the lower range bound, "all zero bytes". -/
def min : List Byte := List.replicate size 0

/-- Modelled from the spec: `key.Max`, the upper range bound, "all one bits". -/
def max : List Byte := List.replicate size 255

@[simp] theorem length_min : min.length = size := List.length_replicate _ _

@[simp] theorem length_max : max.length = size := List.length_replicate _ _

end Key

/-! ## Keys -/

/-- `sep`, the byte between two segments of a key. -/
def sep : List Byte := str "."

/-- `QueuesNamespace`: every queue key starts with it. -/
def queuesNamespace : List Byte := str "_q"

/-- `MessagesBucket`: the bucket of message records. -/
def messagesBucket : List Byte := str "_m"

/-- `StateBucket`: the bucket of per-queue state properties. -/
def stateBucket : List Byte := str "_s"

/-- A `QueueKey`.  `key` is the Go slice `Key`, `none` where it is `nil`; the field `Namespace`
keeps the source's capital because `namespace` is a keyword of Lean. -/
structure QueueKey where
  Namespace : List Byte
  bucket : List Byte
  name : List Byte
  property : List Byte
  key : Option (List Byte)
  deriving DecidableEq, Repr

/-- `NewQueueKeyForMessage`. -/
def newQueueKeyForMessage (queue key : List Byte) : QueueKey :=
  { Namespace := queuesNamespace, bucket := messagesBucket, name := queue, property := [],
    key := some key }

/-- `NewQueueKeyForState`. -/
def newQueueKeyForState (queue property : List Byte) : QueueKey :=
  { Namespace := queuesNamespace, bucket := stateBucket, name := queue, property := property,
    key := none }

/-- `FirstMessage`: the smallest possible key of the queue. -/
def firstMessage (queue : List Byte) : QueueKey := newQueueKeyForMessage queue Key.min

/-- `LastMessage`: the largest possible key of the queue. -/
def lastMessage (queue : List Byte) : QueueKey := newQueueKeyForMessage queue Key.max

namespace QueueKey

/-- `IsKey`: `Key != nil`. -/
def isKey (q : QueueKey) : Bool := q.key.isSome

/-- The last segment `Bytes` writes: the identifier of a key, the property name otherwise. -/
def suffix (q : QueueKey) : List Byte := if q.isKey then q.key.getD [] else q.property

/-- `Bytes`: a buffer of `len(ns)+len(sp)+…+len(p)` zero bytes, and the seven segments copied into
it one after the other. -/
def bytes (q : QueueKey) : List Byte :=
  let qk := List.replicate (q.Namespace.length + sep.length + q.bucket.length + sep.length +
    q.name.length + sep.length + q.suffix.length) 0
  (copySeq qk [q.Namespace, sep, q.bucket, sep, q.name, sep, q.suffix]).1

/-- **`Bytes` is the concatenation of the segments.** -/
theorem bytes_eq (q : QueueKey) :
    q.bytes = q.Namespace ++ sep ++ q.bucket ++ sep ++ q.name ++ sep ++ q.suffix := by
  have h := copySeq_replicate [q.Namespace, sep, q.bucket, sep, q.name, sep, q.suffix]
  simp only [List.flatten, List.length_append, List.append_nil, Nat.add_assoc] at h
  simp only [bytes, Nat.add_assoc, h, List.append_assoc]

end QueueKey

@[simp] theorem newQueueKeyForMessage_bytes (queue key : List Byte) :
    (newQueueKeyForMessage queue key).bytes = str "_q._m." ++ queue ++ str "." ++ key := by
  simp only [QueueKey.bytes_eq, newQueueKeyForMessage, QueueKey.suffix, QueueKey.isKey]
  rfl

@[simp] theorem newQueueKeyForState_bytes (queue property : List Byte) :
    (newQueueKeyForState queue property).bytes = str "_q._s." ++ queue ++ str "." ++ property := by
  simp only [QueueKey.bytes_eq, newQueueKeyForState, QueueKey.suffix, QueueKey.isKey]
  rfl

/-! ## Distinct messages have distinct keys -/

/-- The identifier's fixed width is what separates the queue name from it. -/
theorem messageKey_bytes_inj {Q₁ Q₂ k₁ k₂ : List Byte} (hk : k₁.length = k₂.length)
    (h : (newQueueKeyForMessage Q₁ k₁).bytes = (newQueueKeyForMessage Q₂ k₂).bytes) :
    Q₁ = Q₂ ∧ k₁ = k₂ := by
  simp only [newQueueKeyForMessage_bytes, List.append_assoc, List.append_cancel_left_eq] at h
  rw [← List.append_assoc, ← List.append_assoc] at h
  obtain ⟨hQ, rfl⟩ := List.append_inj' h hk
  exact ⟨List.append_cancel_right hQ, rfl⟩

theorem messageKey_ne_stateKey (Q Q' p k : List Byte) :
    (newQueueKeyForMessage Q k).bytes ≠ (newQueueKeyForState Q' p).bytes := by
  simp [str, Fin.ofNat]

/-- **Distinct messages never share a store key, and no state write lands on a message.** -/
theorem messageKey_unique :
    (∀ Q₁ Q₂ k₁ k₂ : List Byte, k₁.length = Key.size → k₂.length = Key.size →
      (newQueueKeyForMessage Q₁ k₁).bytes = (newQueueKeyForMessage Q₂ k₂).bytes →
        Q₁ = Q₂ ∧ k₁ = k₂) ∧
    ∀ Q Q' p k : List Byte,
      (newQueueKeyForMessage Q k).bytes ≠ (newQueueKeyForState Q' p).bytes :=
  ⟨fun _ _ _ _ h₁ h₂ h => messageKey_bytes_inj (h₁.trans h₂.symm) h, messageKey_ne_stateKey⟩

/-! ## Parsing -/

/-- The two errors `ParseQueueKey` asserts with, holding the arguments of their `fmt.Errorf`. -/
inductive ParseError
  /-- `"invalid QueueKey: %v"`, with the whole key. -/
  | invalidQueueKey (k : List Byte)
  /-- `"invalid QueueKey.Key size: Expected=%d Got=%d QueueKey=%v"`, with the last segment. -/
  | invalidKeySize (expected got : Nat) (segment : List Byte)
  deriving DecidableEq, Repr

namespace Debug

/-- Modelled from the spec: `debug.Assert` (the package `internal/debug` is not in the source).
"`Parse` fails loudly if the key does not have exactly four segments or if a message key's
identifier segment is not of the expected fixed width." -/
def assert (cond : Bool) (err : ParseError) : Except ParseError Unit :=
  if cond then .ok () else .error err

end Debug

/-- `ParseQueueKey`: `bytes.Split(k, []byte(sep))` cuts at every `.` byte; the first assertion
wants four segments, the second a `key.Size`-byte last one. -/
def parseQueueKey (k : List Byte) : Except ParseError QueueKey := do
  let spl := k.splitOn 46
  Debug.assert (spl.length == 4) (.invalidQueueKey k)
  Debug.assert ((spl.getD 3 []).length == Key.size)
    (.invalidKeySize Key.size (spl.getD 3 []).length (spl.getD 3 []))
  return { Namespace := spl.getD 0 [], bucket := spl.getD 1 [], name := spl.getD 2 [],
           property := [], key := some (spl.getD 3 []) }

/-- A message key is its four segments joined by `.`. -/
theorem newQueueKeyForMessage_bytes_intercalate (Q k : List Byte) :
    (newQueueKeyForMessage Q k).bytes = [46].intercalate [str "_q", str "_m", Q, k] := by
  simp only [newQueueKeyForMessage_bytes, List.intercalate, List.intersperse, List.flatten_cons,
    List.flatten_nil, List.append_nil, List.append_assoc]
  rfl

/-- **`ParseQueueKey` inverts `Bytes`** on the message keys whose queue name and identifier hold no
`.` byte. -/
theorem parseQueueKey_bytes_of_dotFree {Q k : List Byte} (hQ : 46 ∉ Q) (hk : 46 ∉ k)
    (hlen : k.length = Key.size) :
    parseQueueKey (newQueueKeyForMessage Q k).bytes = .ok (newQueueKeyForMessage Q k) := by
  have hspl : (newQueueKeyForMessage Q k).bytes.splitOn 46 = [str "_q", str "_m", Q, k] := by
    rw [newQueueKeyForMessage_bytes_intercalate]
    refine List.splitOn_intercalate _ _ (fun l hl => ?_) (List.cons_ne_nil _ _)
    simp only [List.mem_cons, List.mem_singleton, List.not_mem_nil, or_false] at hl
    rcases hl with rfl | rfl | rfl | rfl <;> first | assumption | decide
  simp only [parseQueueKey, hspl]
  simp [Debug.assert, hlen]
  rfl

theorem parseQueueKey_bytes_of_dotFree_default :
    46 ∉ str "default" ∧ 46 ∉ List.replicate 20 (0 : Byte) ∧ (List.replicate 20 (0 : Byte)).length = Key.size ∧
      parseQueueKey (newQueueKeyForMessage (str "default") (List.replicate 20 0)).bytes =
        .ok (newQueueKeyForMessage (str "default") (List.replicate 20 0)) :=
  ⟨by decide, by decide, rfl, parseQueueKey_bytes_of_dotFree (by decide) (by decide) rfl⟩

/-- A 20-byte identifier whose first byte is `.` (`0x2e`): its message key has five segments, and
`ParseQueueKey` fails its first assertion. -/
theorem parseQueueKey_dotted_identifier :
    (46 :: List.replicate 19 0 : List Byte).length = Key.size ∧
    parseQueueKey (newQueueKeyForMessage (str "default") (46 :: List.replicate 19 0)).bytes
      = .error (.invalidQueueKey
          (newQueueKeyForMessage (str "default") (46 :: List.replicate 19 0)).bytes) :=
  ⟨rfl, rfl⟩

/-! ## What `ParseQueueKey` accepts -/

/-- No segment `splitOnP` returns holds an element the predicate picks. -/
theorem forall_of_mem_splitOnP {α : Type} (p : α → Bool) (xs : List α) :
    ∀ l ∈ xs.splitOnP p, ∀ y ∈ l, p y = false := by
  induction xs with
  | nil => simp
  | cons y ys ih =>
    obtain ⟨h, t, ht⟩ := List.exists_cons_of_ne_nil (List.splitOnP_ne_nil p ys)
    rw [ht] at ih
    rw [List.splitOnP_cons, ht]
    split
    · simpa using ih
    · simp only [List.modifyHead_cons, List.mem_cons, forall_eq_or_imp] at ih ⊢
      exact ⟨⟨by simpa using ‹¬p y = true›, ih.1⟩, ih.2⟩

/-- No segment `bytes.Split(k, []byte(sep))` returns holds a `.`. -/
theorem not_mem_of_mem_splitOn {k l : List Byte} (h : l ∈ k.splitOn 46) : 46 ∉ l :=
  fun hl => by simpa using forall_of_mem_splitOnP (· == 46) k l h 46 hl

/-- A key is its four segments joined by `.`. -/
theorem QueueKey.bytes_eq_intercalate (q : QueueKey) :
    q.bytes = [46].intercalate [q.Namespace, q.bucket, q.name, q.suffix] := by
  simp only [QueueKey.bytes_eq, List.intercalate, List.intersperse, List.flatten_cons,
    List.flatten_nil, List.append_nil, List.append_assoc]
  rfl

/-- **`ParseQueueKey` accepts exactly the keys it can give back**: a byte string parses to `q` iff
`q` has no property, an identifier of `key.Size` bytes, no `.` in any of its four segments, and
`Bytes` of `q` is the string.  Namespace and bucket are not checked: any four segments with a
`key.Size`-byte last one parse, a state key among them. -/
theorem parseQueueKey_eq_ok_iff {k : List Byte} {q : QueueKey} :
    parseQueueKey k = .ok q ↔
      (46 ∉ q.Namespace ∧ 46 ∉ q.bucket ∧ 46 ∉ q.name ∧ q.property = [] ∧
        ∃ id, q.key = some id ∧ 46 ∉ id ∧ id.length = Key.size) ∧ q.bytes = k := by
  constructor
  · intro h
    have hjoin := List.intercalate_splitOn k (46 : Byte)
    have hdot : ∀ l ∈ k.splitOn 46, 46 ∉ l := fun _ => not_mem_of_mem_splitOn
    rcases hs : k.splitOn 46 with _ | ⟨a, _ | ⟨b, _ | ⟨c, _ | ⟨d, _ | ⟨e, t⟩⟩⟩⟩⟩ <;>
      simp [parseQueueKey, hs, Debug.assert, bind, Except.bind] at h
    by_cases hd : d.length = Key.size
    · simp only [hd, if_true] at h
      cases h
      rw [hs] at hdot hjoin
      refine ⟨⟨hdot a (by simp), hdot b (by simp), hdot c (by simp), rfl, d, rfl,
        hdot d (by simp), hd⟩, ?_⟩
      rw [QueueKey.bytes_eq_intercalate]
      exact hjoin
    · simp [hd] at h
  · rintro ⟨⟨ha, hb, hc, hp, id, hk, hid, hlen⟩, rfl⟩
    obtain ⟨ns, bk, na, pr, key⟩ := q
    dsimp only at ha hb hc hp hk
    subst hp hk
    have hs : (QueueKey.mk ns bk na [] (some id)).bytes.splitOn 46 = [ns, bk, na, id] := by
      rw [QueueKey.bytes_eq_intercalate]
      exact List.splitOn_intercalate _ _ (by simp [ha, hb, hc, hid, QueueKey.suffix, QueueKey.isKey])
        (by simp)
    simp [parseQueueKey, hs, Debug.assert, hlen]
    rfl

end NatsRequeue
