import NatsRequeue.Ingress

/-!
# The supervisor: `Connect`, `Close`, and the goroutines between them

`Options.Connect` opens the store (`initBadger`), connects to the bus and subscribes
(`initNATS`), and starts the consumers (`initNatsConsumers`); each of the three starts a goroutine
or several that wait on a `y.Closer`.  `badger.Open` may fail: `initBadger` only logs the error and
goes on with `c.badgerDB` `nil`, and the store closer then closes nothing (`St.badgerOpen`).  `Conn.Close` runs once (`closeOnce`), signaling and
waiting on the three closers in turn: the bus, then the consumers, then the store.  A `Close` may
come from the embedder, the context and signal watchers, `NATSClosedHandler`, or `Connect`'s own
rollback, and the handler may run while `Connect` is still running.

The model is a state machine: each goroutine is a program counter, and `step` takes one atomic
action of one goroutine, or `none` where the action is not enabled.  A section that holds `c.mu`
is one action, except `initNATS`, which holds it across two (`natsConnect`, `natsSubscribe`) because
`NATSClosedHandler` can run in between.  `natsMsgCh` is unbuffered: a subscription callback that
has a message blocks (`callback`) until a consumer's `select` takes it.  A consumer's `select`,
when both its cases are ready, may take either.

The shutdown order the code means to enforce fails in two ways (`shutdown_unordered`):

* a `Close` from `NATSClosedHandler` between `initNATS` and `initNatsConsumers` finds no consumer
  registered, closes the store, and the consumers started afterwards run their deferred
  `wb.Close()` on it (`closeDuringConnect`);
* `nc.Drain()` only starts draining and `nc.Close()` does not wait for a callback in flight, so
  the consumers can all leave their loops while a callback is still blocked on `natsMsgCh`, where
  it stays for ever (`drainWithCallbackBlocked`, `run_stuck`).

The bus, at least, always goes first: in every interleaving the store is closed only on a closed
connection, unless `nats.Connect` failed (`run_dbClosed_after_connClosed`).  This rests on two
invariants of every run from `St.init`, the bus closer's bookkeeping (`NatsCloserInv`) and the
order of `Close`'s waits (`BusFirst`).  When shutdown begins after `Connect` has registered the
consumers, the store is closed only once every consumer has returned
(`run_dbClosed_after_consumers`).
-/

set_option autoImplicit false

namespace NatsRequeue

namespace Supervisor

/-- A `y.Closer`: a `sync.WaitGroup` of running tasks, and the context its `Signal` cancels. -/
structure Closer where
  running : Nat
  signaled : Bool
  deriving DecidableEq, Repr

/-- `AddRunning(delta)`. -/
def Closer.addRunning (c : Closer) (delta : Nat) : Closer := { c with running := c.running + delta }

/-- `Done()`. -/
def Closer.done (c : Closer) : Closer := { c with running := c.running - 1 }

/-- `Signal()`: `HasBeenClosed()` is closed from now on. -/
def Closer.signal (c : Closer) : Closer := { c with signaled := true }

/-- Where `Connect` is. -/
inductive MainPc
  | initBadger
  | initNATS
  /-- `nats.Connect` has returned; `initNATS` still holds `c.mu`. -/
  | subscribe
  | initNatsConsumers
  | startWatchers
  | returned
  /-- An `init…` failed and `Connect` rolled back with `rc.Close()`. -/
  | failed
  deriving DecidableEq, Repr

/-- The bus-closer goroutine started by `initNATS`. -/
inductive NatsCloserPc
  | absent
  | waiting
  /-- It has drained and closed the connection, and released `c.mu`; `Done` is deferred. -/
  | closed
  | done
  deriving DecidableEq, Repr

/-- The store-closer goroutine started by `initBadger`. -/
inductive BadgerCloserPc
  | absent
  | waiting
  /-- It has closed the store, and released `c.mu`; `Done` is deferred. -/
  | closed
  | done
  deriving DecidableEq, Repr

/-- A consumer goroutine, `initNatsConsumer`. -/
inductive ConsumerPc
  | absent
  /-- Started, not yet through its `c.mu.RLock()` section (where it creates its writer). -/
  | start
  /-- In its `select`. -/
  | loop
  | processing
  /-- It took the closer's case: its deferred `wb.Close()` is to run. -/
  | closing
  /-- Returned from `wb.Close()`; the deferred `Done` is to run. -/
  | flushed
  | done
  deriving DecidableEq, Repr

/-- A call of `Conn.Close`. -/
inductive CallerPc
  | enter
  /-- Another call is running `closeOnce`'s function: `Do` waits for it. -/
  | blocked
  /-- Running `closeOnce`'s function, whose progress is the `Once`'s stage. -/
  | executing
  | returned
  deriving DecidableEq, Repr

/-- The statements of `Close`'s function, in order. -/
inductive Stage
  | signalNats
  | waitNats
  | signalConsumers
  | waitConsumers
  | signalBadger
  | waitBadger
  | closeClosed
  deriving DecidableEq, Repr

/-- `closeOnce`: not run, running at a stage, or done. -/
inductive OnceState
  | idle
  | running (stage : Stage)
  | done
  deriving DecidableEq, Repr

/-- How `initNATS` ends after `nats.Connect` succeeded. -/
inductive SubscribeResult
  | ok
  /-- `QueueSubscribe` returned an error. -/
  | subscribeFailed
  /-- The subscription was made, and `nc.LastError()` returned an error. -/
  | lastErrorFailed
  deriving DecidableEq, Repr

/-- The consumers `initNatsConsumers` starts: `DefaultNumConcurrentBatchTransactions`. -/
abbrev Worker := Fin defaultNumConcurrentBatchTransactions

instance : NeZero defaultNumConcurrentBatchTransactions := ⟨by decide⟩

/-- The supervisor's state: every goroutine's program counter, and the objects they share. -/
structure St where
  main : MainPc
  /-- `initNATS` holds `c.mu`. -/
  muHeld : Bool
  nats : Closer
  natsConsumers : Closer
  badger : Closer
  natsCloser : NatsCloserPc
  badgerCloser : BadgerCloserPc
  consumer : Worker → ConsumerPc
  /-- `c.nc` is set: `nats.Connect` succeeded. -/
  natsConnected : Bool
  subscribed : Bool
  /-- The connection is closed: no message reaches the subscription callback any more. -/
  connClosed : Bool
  /-- The connection's `ClosedHandler`, `NATSClosedHandler`, has been called. -/
  handlerFired : Bool
  /-- A subscription callback is blocked in `c.natsMsgCh <- msg`. -/
  callback : Bool
  /-- `c.badgerDB` is not `nil`: `badger.Open` succeeded. -/
  badgerOpen : Bool
  /-- `c.badgerDB.Close()` has run. -/
  dbClosed : Bool
  once : OnceState
  callers : List CallerPc
  /-- `close(c.closed)` has run. -/
  closed : Bool

/-- The state `NewConn` makes, at the start of `Connect`. -/
def St.init : St where
  main := .initBadger
  muHeld := false
  nats := ⟨0, false⟩
  natsConsumers := ⟨0, false⟩
  badger := ⟨0, false⟩
  natsCloser := .absent
  badgerCloser := .absent
  consumer := fun _ => .absent
  natsConnected := false
  subscribed := false
  connClosed := false
  handlerFired := false
  callback := false
  badgerOpen := false
  dbClosed := false
  once := .idle
  callers := []
  closed := false

/-- One atomic action of one goroutine. -/
inductive Act
  /-- `initBadger`: `badger.Open`, which may fail (`ok`); the error is only logged, `c.badgerDB`
  is then `nil`, and `initBadger` returns `nil` all the same.  Then `AddRunning(1)`, and the store
  closer starts. -/
  | initBadger (ok : Bool)
  /-- `initNATS` takes `c.mu` and calls `nats.Connect`; on an error `Connect` rolls back. -/
  | natsConnect (ok : Bool)
  /-- The rest of `initNATS`: `AddRunning(1)`, the bus closer, `QueueSubscribe`, `Flush`,
  `LastError`, and `c.mu` released; on an error `Connect` rolls back. -/
  | natsSubscribe (r : SubscribeResult)
  /-- `initNatsConsumers`: `AddRunning(4)` and start the consumers, under `c.mu.RLock()`. -/
  | initNatsConsumers
  /-- `Connect` starts the context and signal watchers and returns. -/
  | startWatchers
  /-- The bus closer, signaled, takes `c.mu`: `nc.Drain()`, `nc.Close()`. -/
  | natsCloserClose
  | natsCloserDone
  /-- The store closer, with both the store and the bus closers signaled, takes `c.mu`:
  `badgerDB.Close()`, if `c.badgerDB` is not `nil`. -/
  | badgerCloserClose
  | badgerCloserDone
  /-- A consumer's `c.mu.RLock()` section: it reads its closer and creates its writer. -/
  | consumerSetup (i : Worker)
  /-- A consumer's `select` takes the callback's message. -/
  | consumerRecv (i : Worker)
  /-- A consumer's `processIngressMessage` returns.  On an unreadable message it panics instead;
  the supervisor does not see the message, and in `Service` the step is the ingest of the message
  the consumer took, which fails there (`Service.step_process_unreadable`). -/
  | consumerProcessed (i : Worker)
  /-- A consumer's `select` takes `<-natsConsumer.HasBeenClosed()`. -/
  | consumerStop (i : Worker)
  /-- A consumer's deferred `wb.Close()` flushes and returns. -/
  | consumerFlush (i : Worker)
  /-- A consumer's deferred `natsConsumer.Done()`. -/
  | consumerDone (i : Worker)
  /-- A message reaches the subscription callback, which blocks sending it on `natsMsgCh`. -/
  | deliver
  /-- The connection closes (its server or the bus closer closed it), and `NATSClosedHandler`
  calls `c.Close()`. -/
  | closedHandler
  /-- After `Connect` returned: the embedder, the context watcher or the signal watcher calls
  `c.Close()`. -/
  | externalClose
  /-- Call `k` of `Close` enters `closeOnce.Do`. -/
  | callerEnter (k : Nat)
  /-- Call `k`, blocked in `Do`, returns once the function has. -/
  | callerWake (k : Nat)
  /-- The call running `closeOnce`'s function takes its next statement. -/
  | closeStep
  deriving DecidableEq, Repr

/-- The action takes a message from `natsMsgCh`. -/
def Act.takesMessage : Act → Bool
  | .consumerRecv _ => true
  | _ => false

/-- `closeOnce.Do` from a `Once` in this state: the `Once` after, and where the calling `Close`
goes: it runs the function if no call has, waits if one is running it, and returns if it has
run. -/
def OnceState.enter : OnceState → OnceState × CallerPc
  | .idle => (.running .signalNats, .executing)
  | .running stage => (.running stage, .blocked)
  | .done => (.done, .returned)

namespace St

/-- The next statement of `Close`'s function (at the waits, once the count is zero). -/
def closeStage (s : St) : Stage → St
  | .signalNats => { s with nats := s.nats.signal, once := .running .waitNats }
  | .waitNats => { s with once := .running .signalConsumers }
  | .signalConsumers => { s with natsConsumers := s.natsConsumers.signal, once := .running .waitConsumers }
  | .waitConsumers => { s with once := .running .signalBadger }
  | .signalBadger => { s with badger := s.badger.signal, once := .running .waitBadger }
  | .waitBadger => { s with once := .running .closeClosed }
  | .closeClosed =>
    { s with closed := true, once := .done,
             callers := s.callers.map fun c => if c = .executing then .returned else c }

/-- The statement at `stage` can run: the waits are `WaitGroup.Wait`s. -/
def stageReady (s : St) : Stage → Bool
  | .waitNats => s.nats.running = 0
  | .waitConsumers => s.natsConsumers.running = 0
  | .waitBadger => s.badger.running = 0
  | _ => true

/-- Whether an action can be taken. -/
def enabled (s : St) : Act → Bool
  | .initBadger _ => s.main = .initBadger
  | .natsConnect _ => s.main = .initNATS
  | .natsSubscribe _ => s.main = .subscribe
  | .initNatsConsumers => s.main = .initNatsConsumers
  | .startWatchers => s.main = .startWatchers
  | .natsCloserClose => s.natsCloser = .waiting ∧ s.nats.signaled ∧ ¬s.muHeld
  | .natsCloserDone => s.natsCloser = .closed
  | .badgerCloserClose => s.badgerCloser = .waiting ∧ s.badger.signaled ∧ s.nats.signaled ∧ ¬s.muHeld
  | .badgerCloserDone => s.badgerCloser = .closed
  | .consumerSetup i => s.consumer i = .start ∧ ¬s.muHeld
  | .consumerRecv i => s.consumer i = .loop ∧ s.callback
  | .consumerProcessed i => s.consumer i = .processing
  | .consumerStop i => s.consumer i = .loop ∧ s.natsConsumers.signaled
  | .consumerFlush i => s.consumer i = .closing
  | .consumerDone i => s.consumer i = .flushed
  | .deliver => s.subscribed ∧ ¬s.connClosed ∧ ¬s.callback
  | .closedHandler => s.natsConnected ∧ ¬s.handlerFired
  | .externalClose => s.main = .returned
  | .callerEnter k => s.callers[k]? = some .enter
  | .callerWake k => s.callers[k]? = some .blocked ∧ s.once = .done
  | .closeStep =>
    match s.once with
    | .running stage => s.stageReady stage
    | _ => false

/-- What an action does. -/
def apply (s : St) : Act → St
  | .initBadger ok =>
    { s with badgerOpen := ok, badger := s.badger.addRunning 1, badgerCloser := .waiting,
             main := .initNATS }
  | .natsConnect ok =>
    if ok then { s with natsConnected := true, muHeld := true, main := .subscribe }
    else { s with main := .failed, callers := s.callers ++ [.enter] }
  | .natsSubscribe r =>
    { s with nats := s.nats.addRunning 1, natsCloser := .waiting,
             subscribed := r ≠ .subscribeFailed, muHeld := false,
             main := if r = .ok then .initNatsConsumers else .failed,
             callers := if r = .ok then s.callers else s.callers ++ [.enter] }
  | .initNatsConsumers =>
    { s with natsConsumers := s.natsConsumers.addRunning defaultNumConcurrentBatchTransactions,
             consumer := fun _ => .start, main := .startWatchers }
  | .startWatchers => { s with main := .returned }
  | .natsCloserClose => { s with connClosed := true, natsCloser := .closed }
  | .natsCloserDone => { s with nats := s.nats.done, natsCloser := .done }
  | .badgerCloserClose => { s with dbClosed := s.dbClosed || s.badgerOpen, badgerCloser := .closed }
  | .badgerCloserDone => { s with badger := s.badger.done, badgerCloser := .done }
  | .consumerSetup i => { s with consumer := Function.update s.consumer i .loop }
  | .consumerRecv i => { s with callback := false, consumer := Function.update s.consumer i .processing }
  | .consumerProcessed i => { s with consumer := Function.update s.consumer i .loop }
  | .consumerStop i => { s with consumer := Function.update s.consumer i .closing }
  | .consumerFlush i => { s with consumer := Function.update s.consumer i .flushed }
  | .consumerDone i =>
    { s with natsConsumers := s.natsConsumers.done, consumer := Function.update s.consumer i .done }
  | .deliver => { s with callback := true }
  | .closedHandler =>
    { s with connClosed := true, handlerFired := true, callers := s.callers ++ [.enter] }
  | .externalClose => { s with callers := s.callers ++ [.enter] }
  | .callerEnter k => { s with once := s.once.enter.1, callers := s.callers.set k s.once.enter.2 }
  | .callerWake k => { s with callers := s.callers.set k .returned }
  | .closeStep =>
    match s.once with
    | .running stage => s.closeStage stage
    | _ => s

/-- One action, where it is enabled. -/
def step (s : St) (a : Act) : Option St := if s.enabled a then some (s.apply a) else none

/-- A run of actions; `none` if one of them is not enabled. -/
def run : St → List Act → Option St
  | s, [] => some s
  | s, a :: as => (s.step a).bind fun s' => s'.run as

section Frame

variable (s : St) (stage : Stage)

@[simp] theorem closeStage_main : (s.closeStage stage).main = s.main := by cases stage <;> rfl
@[simp] theorem closeStage_consumer : (s.closeStage stage).consumer = s.consumer := by
  cases stage <;> rfl
@[simp] theorem closeStage_callback : (s.closeStage stage).callback = s.callback := by
  cases stage <;> rfl
@[simp] theorem closeStage_dbClosed : (s.closeStage stage).dbClosed = s.dbClosed := by
  cases stage <;> rfl
@[simp] theorem closeStage_badgerOpen : (s.closeStage stage).badgerOpen = s.badgerOpen := by
  cases stage <;> rfl
@[simp] theorem closeStage_natsCloser : (s.closeStage stage).natsCloser = s.natsCloser := by
  cases stage <;> rfl
@[simp] theorem closeStage_nats_running : (s.closeStage stage).nats.running = s.nats.running := by
  cases stage <;> rfl
@[simp] theorem closeStage_connClosed : (s.closeStage stage).connClosed = s.connClosed := by
  cases stage <;> rfl
@[simp] theorem closeStage_natsConnected :
    (s.closeStage stage).natsConnected = s.natsConnected := by
  cases stage <;> rfl
@[simp] theorem closeStage_handlerFired : (s.closeStage stage).handlerFired = s.handlerFired := by
  cases stage <;> rfl
end Frame

theorem step_eq_some {s s' : St} {a : Act} : s.step a = some s' ↔ s.enabled a ∧ s.apply a = s' := by
  unfold step
  split <;> simp_all

theorem run_append (s : St) (as as' : List Act) :
    s.run (as ++ as') = (s.run as).bind fun s' => s'.run as' := by
  induction as generalizing s with
  | nil => rfl
  | cons a as ih =>
    show (s.step a).bind (fun s' => s'.run (as ++ as')) = _
    simp only [run, ih, Option.bind_assoc]

/-- A property that every enabled action keeps holds at the end of every run. -/
theorem run_invariant {P : St → Prop} (hstep : ∀ {s : St} {a : Act}, P s → s.enabled a → P (s.apply a))
    {s s' : St} (h : P s) {as : List Act} (hr : s.run as = some s') : P s' := by
  induction as generalizing s with
  | nil => cases hr; exact h
  | cons a as ih =>
    obtain ⟨s₁, h₁, hr⟩ := Option.bind_eq_some.1 hr
    obtain ⟨he, rfl⟩ := step_eq_some.1 h₁
    exact ih (hstep h he) hr

/-! ## A callback blocked for ever -/

/-- Nothing will take the callback's message: every consumer has returned, and `Connect` has
started every consumer it will. -/
structure Stuck (s : St) : Prop where
  callback : s.callback = true
  consumers_done : ∀ i, s.consumer i = .done
  main_past : s.main = .startWatchers ∨ s.main = .returned

theorem apply_stuck {s : St} {a : Act} (h : Stuck s) (he : s.enabled a) : Stuck (s.apply a) := by
  obtain ⟨hc, hd, hm⟩ := h
  have hmain : s.main ≠ .initBadger ∧ s.main ≠ .initNATS ∧ s.main ≠ .subscribe ∧
      s.main ≠ .initNatsConsumers := by
    rcases hm with hm | hm <;> simp [hm]
  cases a <;> simp [enabled, hc, hd, hmain] at he
  case startWatchers => exact ⟨hc, hd, .inr rfl⟩
  case closeStep =>
    simp only [apply]
    split <;> exact ⟨by simp [hc], by simp [hd], by simpa using hm⟩
  all_goals exact ⟨by simp [apply, hc], by simp [apply, hd], by simpa [apply] using hm⟩

theorem run_stuck {s s' : St} (h : Stuck s) {as : List Act} (hr : s.run as = some s') : Stuck s' :=
  run_invariant apply_stuck h hr

end St

open St

/-! ## Two interleavings that break the order -/

/-- `NATSClosedHandler` runs `Close` to its end while `Connect` is between `initNATS` and
`initNatsConsumers`: the store is closed. -/
def closeDuringConnect : List Act :=
  [.initBadger true, .natsConnect true, .natsSubscribe .ok, .closedHandler, .callerEnter 0,
    .closeStep, .natsCloserClose, .natsCloserDone, .closeStep, .closeStep, .closeStep, .closeStep,
    .badgerCloserClose, .badgerCloserDone, .closeStep, .closeStep]

/-! ## The bus is closed before the store, in every interleaving -/

/-- `Connect` has not yet got past `initNATS`. -/
def MainPc.early : MainPc → Bool
  | .initBadger | .initNATS | .subscribe => true
  | _ => false

/-- `closeOnce`'s function is past its wait for the bus closer. -/
def OnceState.pastNats : OnceState → Bool
  | .idle | .running .signalNats | .running .waitNats => false
  | _ => true

namespace St

/-- The bus closer and its closer's count: the goroutine is counted while it runs, has closed the
connection once it has run, and is missing only while `Connect` has not subscribed (or failed to
connect). -/
structure NatsCloserInv (s : St) : Prop where
  running_eq : s.nats.running = if s.natsCloser = .waiting ∨ s.natsCloser = .closed then 1 else 0
  conn_closed : s.natsCloser = .closed ∨ s.natsCloser = .done → s.connClosed
  absent : s.natsCloser = .absent → s.main.early ∨ s.main = .failed ∧ s.natsConnected = false
  early_absent : s.main.early → s.natsCloser = .absent
  unconnected : s.main = .initBadger ∨ s.main = .initNATS → s.natsConnected = false

theorem apply_natsCloserInv {s : St} {a : Act} (h : NatsCloserInv s) (he : s.enabled a) :
    NatsCloserInv (s.apply a) := by
  obtain ⟨c1, c2, c3, c4, c5⟩ := h
  cases a <;> simp only [enabled, decide_eq_true_eq] at he
  case initBadger =>
    exact ⟨c1, c2, fun _ => .inl rfl, fun _ => c4 (by rw [he]; rfl), fun _ => c5 (.inl he)⟩
  case natsConnect ok =>
    cases ok
    · exact ⟨c1, c2, fun _ => .inr ⟨rfl, c5 (.inr he)⟩, fun h => by simp [apply, MainPc.early] at h,
        fun h => by simp [apply] at h⟩
    · exact ⟨c1, c2, fun _ => .inl rfl, fun _ => c4 (by rw [he]; rfl), fun h => by simp [apply] at h⟩
  case natsSubscribe r =>
    have hrun : s.nats.running = 0 := by simpa [c4 (by rw [he]; rfl)] using c1
    refine ⟨by simp [apply, Closer.addRunning, hrun], fun h => by simp [apply] at h,
      fun h => by simp [apply] at h, fun h => ?_, fun h => ?_⟩ <;>
      cases r <;> simp [apply, MainPc.early] at h
  case initNatsConsumers | startWatchers =>
    exact ⟨c1, c2, fun ha => by simpa [he, MainPc.early] using c3 ha,
      fun h => by simp [apply, MainPc.early] at h, fun h => by simp [apply] at h⟩
  case natsCloserClose =>
    have hearly : s.main.early = false := by
      cases hm : s.main.early
      · rfl
      · simp [c4 hm] at he
    exact ⟨by simpa [he.1] using c1, fun _ => rfl, fun h => by simp [apply] at h,
      fun h => absurd h (by simp [apply, hearly]), c5⟩
  case natsCloserDone =>
    have hearly : s.main.early = false := by
      cases hm : s.main.early
      · rfl
      · simp [c4 hm] at he
    exact ⟨by simp [apply, Closer.done, he] at c1 ⊢; omega, fun _ => c2 (.inl he),
      fun h => by simp [apply] at h, fun h => absurd h (by simp [apply, hearly]), c5⟩
  case closedHandler => exact ⟨c1, fun _ => rfl, c3, c4, c5⟩
  case closeStep =>
    simp only [apply]
    split
    · exact ⟨by simpa using c1, by simpa using c2, by simpa using c3, by simpa using c4,
        by simpa using c5⟩
    · exact ⟨c1, c2, c3, c4, c5⟩
  all_goals exact ⟨c1, c2, c3, c4, c5⟩

@[simp] theorem enter_pastNats (o : OnceState) : o.enter.1.pastNats = o.pastNats := by
  cases o <;> rfl

/-- The order between the bus and the store: a `Close` began only through `NATSClosedHandler` or
once `Connect` was past `initNATS`; the handler runs on a closed connection; past its wait for the
bus closer, `Close` has the connection closed, unless `Connect` never connected; and the store
closer is signaled only after that wait, and closes the store only when signaled. -/
structure BusFirst (s : St) : Prop where
  closer : NatsCloserInv s
  caller : s.callers ≠ [] ∨ s.once ≠ .idle → s.handlerFired ∨ s.main.early = false
  handler : s.handlerFired → s.connClosed
  past_nats : s.once.pastNats → s.connClosed ∨ s.main = .failed ∧ s.natsConnected = false
  badger_past : s.badger.signaled → s.once.pastNats
  db_badger : s.dbClosed → s.badger.signaled

/-- `Close`'s wait for the bus closer returns only on a closed connection, or when `Connect` never
connected: a zero count means the bus closer has run, or was never started because `Connect`
failed to connect or has not yet subscribed, and in the last case the `Close` came from the
handler. -/
theorem conn_closed_of_nats_zero {s : St} (h : BusFirst s) (ho : s.once ≠ .idle)
    (h0 : s.nats.running = 0) : s.connClosed ∨ s.main = .failed ∧ s.natsConnected = false := by
  have hc := h.closer
  cases hn : s.natsCloser
  · rcases hc.absent hn with he | hf
    · exact .inl (h.handler ((h.caller (.inr ho)).resolve_right (by simp [he])))
    · exact .inr hf
  · simp [hc.running_eq, hn] at h0
  · simp [hc.running_eq, hn] at h0
  · exact .inl (hc.conn_closed (.inr hn))

theorem apply_busFirst {s : St} {a : Act} (h : BusFirst s) (he : s.enabled a) :
    BusFirst (s.apply a) := by
  have c0 := apply_natsCloserInv h.closer he
  have hwait := conn_closed_of_nats_zero h
  obtain ⟨-, c6, c7, c8, c9, c10⟩ := h
  have hne : ∀ (k : Nat) (c : CallerPc), s.callers[k]? = some c → s.callers ≠ [] := by
    intro k c hk hnil
    simp [hnil] at hk
  cases a <;> simp only [enabled, decide_eq_true_eq] at he
  case initBadger =>
    exact ⟨c0, fun hc => by simpa [apply, he, MainPc.early] using c6 hc, c7,
      fun hp => .inl (by simpa [he] using c8 hp), c9, c10⟩
  case natsConnect ok =>
    cases ok
    · exact ⟨c0, fun _ => .inr rfl, c7, fun hp => .inl (by simpa [he] using c8 hp), c9, c10⟩
    · exact ⟨c0, fun hc => by simpa [apply, he, MainPc.early] using c6 hc, c7,
        fun hp => .inl (by simpa [he] using c8 hp), c9, c10⟩
  case natsSubscribe r =>
    exact ⟨c0, fun _ => .inr (by cases r <;> rfl), c7, fun hp => .inl (by simpa [he] using c8 hp),
      c9, c10⟩
  case initNatsConsumers | startWatchers =>
    exact ⟨c0, fun _ => .inr rfl, c7, fun hp => .inl (by simpa [he] using c8 hp), c9, c10⟩
  case natsCloserClose => exact ⟨c0, c6, fun _ => rfl, fun _ => .inl rfl, c9, c10⟩
  case closedHandler => exact ⟨c0, fun _ => .inl rfl, fun _ => rfl, fun _ => .inl rfl, c9, c10⟩
  case externalClose => exact ⟨c0, fun _ => .inr (by simp [apply, he, MainPc.early]), c7, c8, c9, c10⟩
  case badgerCloserClose => exact ⟨c0, c6, c7, c8, c9, fun _ => he.2.1⟩
  case callerEnter k =>
    exact ⟨c0, fun _ => c6 (.inl (hne k _ he)), c7, fun hp => c8 (by simpa [apply] using hp),
      fun hb => by simpa [apply] using c9 hb, c10⟩
  case callerWake k =>
    exact ⟨c0, fun _ => c6 (.inl (hne k _ he.1)), c7, c8, c9, c10⟩
  case closeStep =>
    obtain ⟨stage, ho⟩ : ∃ stage, s.once = .running stage := by
      revert he; cases s.once <;> simp
    have hidle : s.once ≠ .idle := by simp [ho]
    rw [ho] at he c8 c9
    simp only [apply, ho] at c0 ⊢
    cases stage <;> simp only [stageReady, decide_eq_true_eq] at he
    case signalNats =>
      exact ⟨c0, fun _ => c6 (.inr hidle), c7, fun hp => (nomatch hp),
        fun hb => (nomatch c9 hb), c10⟩
    case waitNats =>
      exact ⟨c0, fun _ => c6 (.inr hidle), c7, fun _ => hwait hidle he,
        fun hb => (nomatch c9 hb), c10⟩
    case signalBadger =>
      exact ⟨c0, fun _ => c6 (.inr hidle), c7, fun _ => c8 rfl, fun _ => rfl, fun _ => rfl⟩
    all_goals exact ⟨c0, fun _ => c6 (.inr hidle), c7, fun _ => c8 rfl, fun _ => rfl, c10⟩
  all_goals exact ⟨c0, c6, c7, c8, c9, c10⟩

theorem busFirst_init : BusFirst init :=
  ⟨⟨rfl, by decide, by decide, by decide, by decide⟩, by decide, by decide, by decide, by decide,
    by decide⟩

theorem run_busFirst {s : St} {as : List Act} (hr : init.run as = some s) : BusFirst s :=
  run_invariant apply_busFirst busFirst_init hr

end St

/-- `Connect` goes on: it starts the consumers, and the first of them, finding its closer
signaled, returns through its deferred `wb.Close()`. -/
def consumersAfterClose : List Act :=
  [.initNatsConsumers, .consumerSetup 0, .consumerStop 0, .consumerFlush 0]

/-- The consumers are busy when a second message comes in; `Close` drains and closes the bus,
and every consumer's `select` takes the closer's case over the blocked callback. -/
def drainWithCallbackBlocked : List Act :=
  [.initBadger true, .natsConnect true, .natsSubscribe .ok, .initNatsConsumers, .startWatchers,
    .consumerSetup 0, .consumerSetup 1, .consumerSetup 2, .consumerSetup 3,
    .deliver, .consumerRecv 0, .deliver,
    .externalClose, .callerEnter 0, .closeStep, .natsCloserClose, .natsCloserDone, .closeStep,
    .closeStep, .consumerStop 1, .consumerStop 2, .consumerStop 3, .consumerProcessed 0,
    .consumerStop 0, .consumerFlush 0, .consumerFlush 1, .consumerFlush 2, .consumerFlush 3,
    .consumerDone 0, .consumerDone 1, .consumerDone 2, .consumerDone 3]

/-- **Shutdown is not ordered**: the store can be closed before a consumer has even started,
which then runs its deferred `wb.Close()` after it; and every consumer can return while a
callback is blocked on `natsMsgCh`, which then stays blocked whatever happens next. -/
theorem shutdown_unordered :
    (∃ s, St.init.run closeDuringConnect = some s ∧ s.dbClosed = true ∧ s.consumer 0 = .absent ∧
      ∃ s', s.run consumersAfterClose = some s' ∧ s'.consumer 0 = .flushed) ∧
    (∃ s, St.init.run drainWithCallbackBlocked = some s ∧ s.callback = true ∧
      (∀ i, s.consumer i = .done) ∧ ∀ as s', s.run as = some s' → s'.callback = true) :=
  ⟨⟨_, rfl, rfl, rfl, _, rfl, rfl⟩,
    ⟨_, rfl, rfl, by decide, fun _ _ hr => (run_stuck ⟨rfl, by decide, .inr rfl⟩ hr).callback⟩⟩

/-! ## The order, when shutdown begins after the consumers are registered -/

/-- `Connect` has started the consumers. -/
def MainPc.started : MainPc → Bool
  | .startWatchers | .returned => true
  | _ => false

/-- `closeOnce`'s function is past its wait for the consumers. -/
def OnceState.pastConsumers : OnceState → Bool
  | .running .signalBadger | .running .waitBadger | .running .closeClosed | .done => true
  | _ => false

/-- How many consumers have not returned. -/
def undone (consumer : Worker → ConsumerPc) : Nat := ∑ i, if consumer i = .done then 0 else 1

theorem undone_update (consumer : Worker → ConsumerPc) (i : Worker) (c : ConsumerPc) :
    undone (Function.update consumer i c) + (if consumer i = .done then 0 else 1)
      = undone consumer + (if c = .done then 0 else 1) := by
  have hrest : ∑ j ∈ {i}ᶜ, (if Function.update consumer i c j = .done then 0 else 1)
      = ∑ j ∈ {i}ᶜ, (if consumer j = .done then 0 else 1) :=
    Finset.sum_congr rfl fun j hj => by rw [Function.update_noteq (by simpa using hj)]
  simp only [undone]
  rw [Fintype.sum_eq_add_sum_compl i, Fintype.sum_eq_add_sum_compl i, hrest, Function.update_same]
  omega

theorem undone_update_of_ne {consumer : Worker → ConsumerPc} {i : Worker} {c : ConsumerPc}
    (h₁ : consumer i ≠ .done) (h₂ : c ≠ .done) :
    undone (Function.update consumer i c) = undone consumer := by
  simpa [h₁, h₂] using undone_update consumer i c

theorem undone_update_done {consumer : Worker → ConsumerPc} {i : Worker} (h : consumer i ≠ .done) :
    undone (Function.update consumer i .done) + 1 = undone consumer := by
  simpa [h] using undone_update consumer i .done

theorem consumer_done_of_undone {consumer : Worker → ConsumerPc} (h : undone consumer = 0)
    (i : Worker) : consumer i = .done := by
  have := (Finset.sum_eq_zero_iff.1 h) i (Finset.mem_univ i)
  simpa using this

namespace St

@[simp] theorem enter_pastConsumers (o : OnceState) : o.enter.1.pastConsumers = o.pastConsumers := by
  cases o <;> rfl

/-- After `initNatsConsumers`: the consumers' closer counts the consumers that have not
returned, and the store is closed only past the wait for them. -/
structure Registered (s : St) : Prop where
  main_started : s.main.started
  running_eq : s.natsConsumers.running = undone s.consumer
  past_zero : s.once.pastConsumers → s.natsConsumers.running = 0
  badger_past : s.badger.signaled → s.once.pastConsumers
  db_badger : s.dbClosed → s.badger.signaled

theorem apply_registered {s : St} {a : Act} (h : Registered s) (he : s.enabled a) :
    Registered (s.apply a) := by
  obtain ⟨hm, hr, hp, hb, hd⟩ := h
  have hmain : s.main ≠ .initBadger ∧ s.main ≠ .initNATS ∧ s.main ≠ .subscribe ∧
      s.main ≠ .initNatsConsumers := by
    revert hm; cases s.main <;> simp [MainPc.started]
  cases a <;> simp [enabled, hmain] at he
  case startWatchers => exact ⟨rfl, hr, hp, hb, hd⟩
  case badgerCloserClose => exact ⟨hm, hr, hp, hb, fun _ => he.2.1⟩
  case consumerSetup i | consumerRecv i | consumerProcessed i | consumerStop i | consumerFlush i =>
    refine ⟨hm, ?_, hp, hb, hd⟩
    simp only [apply]
    rw [undone_update_of_ne (by simp [he]) (by decide)]
    exact hr
  case consumerDone i =>
    have h₁ := undone_update_done (by simp [he] : s.consumer i ≠ .done)
    refine ⟨hm, ?_, fun hpast => ?_, hb, hd⟩
    · simp only [apply, Closer.done]
      omega
    · have := hp hpast
      simp only [apply, Closer.done]
      omega
  case callerEnter k =>
    exact ⟨by simpa [apply] using hm, by simpa [apply] using hr, by simpa [apply] using hp,
      by simpa [apply] using hb, by simpa [apply] using hd⟩
  case closeStep =>
    obtain ⟨stage, ho⟩ : ∃ stage, s.once = .running stage := by
      revert he; cases s.once <;> simp
    rw [ho] at he hp hb
    simp only [apply, ho]
    cases stage <;> simp only [stageReady, decide_eq_true_eq] at he
    case signalNats | waitNats | signalConsumers =>
      exact ⟨hm, hr, fun h => by simp [closeStage, OnceState.pastConsumers] at h,
        fun h => by simpa [OnceState.pastConsumers] using hb h, hd⟩
    case waitConsumers => exact ⟨hm, hr, fun _ => he, fun _ => rfl, hd⟩
    case signalBadger => exact ⟨hm, hr, fun _ => hp rfl, fun _ => rfl, fun _ => rfl⟩
    case waitBadger | closeClosed => exact ⟨hm, hr, fun _ => hp rfl, fun _ => rfl, hd⟩
  all_goals exact ⟨hm, hr, hp, hb, hd⟩

theorem run_registered {s s' : St} (h : Registered s) {as : List Act} (hr : s.run as = some s') :
    Registered s' :=
  run_invariant apply_registered h hr

/-- Before `initNatsConsumers`, with no `Close` begun. -/
structure Fresh (s : St) : Prop where
  main_early : s.main.started = false
  main_ok : s.main ≠ .failed
  once_idle : s.once = .idle
  callers_nil : s.callers = []
  running_zero : s.natsConsumers.running = 0
  badger_quiet : s.badger.signaled = false
  db_open : s.dbClosed = false
  consumers_absent : ∀ i, s.consumer i = .absent

/-- No `Close` has begun while `Connect` was starting: `Connect` has failed (and rolled back), or
has registered the consumers, or is still `Fresh`. -/
def Quiet (s : St) : Prop := s.main = .failed ∨ s.main.started ∨ Fresh s

theorem apply_settled {s : St} {a : Act} (he : s.enabled a)
    (h : s.main = .failed ∨ s.main.started) :
    (s.apply a).main = .failed ∨ (s.apply a).main.started := by
  have hmain : s.main ≠ .initBadger ∧ s.main ≠ .initNATS ∧ s.main ≠ .subscribe ∧
      s.main ≠ .initNatsConsumers := by
    revert h; cases s.main <;> simp [MainPc.started]
  cases a <;> simp [enabled, hmain] at he
  case startWatchers => exact .inr rfl
  case closeStep =>
    simp only [apply]
    split <;> simpa using h
  all_goals simpa [apply] using h

theorem apply_fresh {s : St} {a : Act} (h : Fresh s) (he : s.enabled a)
    (ha : a ≠ .closedHandler) : Quiet (s.apply a) := by
  obtain ⟨hm, hmf, ho, hc, hr, hb, hd, hcons⟩ := h
  have hmain : s.main ≠ .startWatchers ∧ s.main ≠ .returned := by
    revert hm; cases s.main <;> simp [MainPc.started]
  cases a <;> simp [enabled, hmain, ho, hc, hb, hcons] at he
  case initBadger => exact .inr (.inr ⟨rfl, by simp [apply], ho, hc, hr, hb, hd, hcons⟩)
  case natsConnect ok =>
    cases ok
    · exact .inl rfl
    · exact .inr (.inr ⟨rfl, by simp [apply], ho, hc, hr, hb, hd, hcons⟩)
  case natsSubscribe r =>
    cases r
    · exact .inr (.inr ⟨rfl, by simp [apply], ho, hc, hr, hb, hd, hcons⟩)
    all_goals exact .inl rfl
  case initNatsConsumers => exact .inr (.inl rfl)
  case closedHandler => exact absurd rfl ha
  all_goals exact .inr (.inr ⟨hm, hmf, ho, hc, hr, hb, hd, hcons⟩)

theorem run_quiet {s s' : St} (h : Quiet s) {as : List Act} (hc : ∀ a ∈ as, a ≠ .closedHandler)
    (hr : s.run as = some s') : Quiet s' := by
  induction as generalizing s with
  | nil => cases hr; exact h
  | cons a as ih =>
    obtain ⟨s₁, h₁, hr⟩ := Option.bind_eq_some.1 hr
    obtain ⟨he, rfl⟩ := step_eq_some.1 h₁
    refine ih ?_ (fun a' ha' => hc a' (List.mem_cons_of_mem a ha')) hr
    rcases h with h | h | h
    · exact (apply_settled he (.inl h)).imp_right .inl
    · exact (apply_settled he (.inr h)).imp_right .inl
    · exact apply_fresh h he (hc a (List.mem_cons_self a as))

theorem registered_of_fresh {s : St} (h : Fresh s) : Registered (s.apply .initNatsConsumers) where
  main_started := rfl
  running_eq := by
    show s.natsConsumers.running + 4 = undone fun _ => .start
    rw [h.running_zero]
    rfl
  past_zero := by simp [apply, h.once_idle, OnceState.pastConsumers]
  badger_past := by simp [apply, h.badger_quiet]
  db_badger := by simp [apply, h.db_open]

/-- A run in which no `NATSClosedHandler` comes before `initNatsConsumers` is `Registered` from
`initNatsConsumers` on. -/
theorem registered_of_run {as₁ as₂ : List Act} {s : St} (h₁ : Act.closedHandler ∉ as₁)
    (h : init.run (as₁ ++ .initNatsConsumers :: as₂) = some s) : Registered s := by
  rw [run_append] at h
  obtain ⟨s₁, hs₁, h⟩ := Option.bind_eq_some.1 h
  obtain ⟨s₂, hs₂, h⟩ := Option.bind_eq_some.1 h
  obtain ⟨he, rfl⟩ := step_eq_some.1 hs₂
  have hq : Quiet s₁ :=
    run_quiet (.inr (.inr ⟨rfl, by decide, rfl, rfl, rfl, rfl, rfl, fun _ => rfl⟩) : Quiet init)
      (fun a ha hc => h₁ (hc ▸ ha)) hs₁
  have hm : s₁.main = .initNatsConsumers := by simpa [enabled] using he
  have hfresh : Fresh s₁ := by
    rcases hq with hq | hq | hq
    · simp [hm] at hq
    · simp [hm, MainPc.started] at hq
    · exact hq
  exact run_registered (registered_of_fresh hfresh) h

/-- Past `Close`'s wait for them, every consumer has returned. -/
theorem Registered.consumers_done_of_past {s : St} (h : Registered s) (hp : s.once.pastConsumers)
    (i : Worker) : s.consumer i = .done :=
  consumer_done_of_undone (h.running_eq ▸ h.past_zero hp) i

/-- Once the store is closed, every consumer has returned. -/
theorem Registered.consumers_done {s : St} (h : Registered s) (hdb : s.dbClosed = true) (i : Worker) :
    s.consumer i = .done :=
  h.consumers_done_of_past (h.badger_past (h.db_badger hdb)) i

end St

/-- **When no `NATSClosedHandler` runs before `initNatsConsumers`, the store is closed only after
every consumer has returned from its deferred `wb.Close()`.** -/
theorem run_dbClosed_after_consumers {as₁ as₂ : List Act} {s : St}
    (h₁ : Act.closedHandler ∉ as₁)
    (h : St.init.run (as₁ ++ .initNatsConsumers :: as₂) = some s) (hdb : s.dbClosed = true) :
    ∀ i, s.consumer i = .done :=
  (registered_of_run h₁ h).consumers_done hdb

/-- `Connect` completes; the signal watcher calls `Close`, which drains the bus, stops the four
consumers, and closes the store. -/
def orderlyShutdown : List Act :=
  [.startWatchers, .consumerSetup 0, .consumerSetup 1, .consumerSetup 2, .consumerSetup 3,
    .externalClose, .callerEnter 0, .closeStep, .natsCloserClose, .natsCloserDone, .closeStep,
    .closeStep, .consumerStop 0, .consumerStop 1, .consumerStop 2, .consumerStop 3,
    .consumerFlush 0, .consumerFlush 1, .consumerFlush 2, .consumerFlush 3,
    .consumerDone 0, .consumerDone 1, .consumerDone 2, .consumerDone 3,
    .closeStep, .closeStep, .badgerCloserClose, .badgerCloserDone, .closeStep, .closeStep]

theorem run_dbClosed_after_consumers_orderly :
    Act.closedHandler ∉ [.initBadger true, .natsConnect true, .natsSubscribe .ok] ∧
    ∃ s, St.init.run ([.initBadger true, .natsConnect true, .natsSubscribe .ok] ++
        .initNatsConsumers :: orderlyShutdown) = some s ∧
      s.dbClosed = true ∧ ∀ i, s.consumer i = .done :=
  ⟨by decide, _, rfl, rfl,
    @run_dbClosed_after_consumers [.initBadger true, .natsConnect true, .natsSubscribe .ok] orderlyShutdown
      _ (by decide) rfl rfl⟩

/-- **The store is closed after the bus**: in every interleaving of the supervisor's goroutines,
with `Close` called from anywhere any number of times, `badgerDB.Close` has run only on a closed
connection, unless `nats.Connect` failed and no connection was ever made. -/
theorem run_dbClosed_after_connClosed {as : List Act} {s : St} (h : St.init.run as = some s)
    (hdb : s.dbClosed = true) :
    s.connClosed = true ∨ s.main = .failed ∧ s.natsConnected = false :=
  have hb := run_busFirst h
  hb.past_nats (hb.badger_past (hb.db_badger hdb))

theorem run_dbClosed_after_connClosed_duringConnect :
    ∃ s, St.init.run closeDuringConnect = some s ∧ s.dbClosed = true ∧ s.connClosed = true :=
  ⟨_, rfl, rfl,
    (@run_dbClosed_after_connClosed closeDuringConnect _ rfl rfl).resolve_right (by decide)⟩

end Supervisor

end NatsRequeue
