import NatsRequeue.Supervisor

/-!
# Shutdown always can complete

`shutdown_unordered` shows two ways the shutdown order fails; this file shows what does not
fail.  From every state the supervisor can reach, whatever has happened so far (a `Close` from
`NATSClosedHandler` in the middle of `Connect`, a callback blocked on `natsMsgCh`, any number of
calls of `Close` in any state), its goroutines can go on so that `Close` runs to its end
(`run_close_completes`): `c.closed` is closed, the store is closed if `badger.Open` opened it, the
connection is closed if it was ever made, every consumer `Connect` started has returned, and every
call of `Close` has returned.  No interleaving deadlocks the shutdown; the blocked callback of
`shutdown_unordered` is a leaked goroutine, not a stuck `Close`.  The theorem says that such a
schedule always exists, not that every fair scheduler finds it; and no consumer takes a message on
the way, so a consumer only finishes the message it holds.  Here `processIngressMessage` always
returns: whether it panics depends on the message, which `Service` adds.

The proof drives the goroutines in phases, each a lemma that some run reaches a state of the
next phase (`Reaches`): `Connect` runs to its end (`reaches_settled`), a `Close` enters
`closeOnce` (`reaches_started`), and each statement of `Close`'s function becomes ready in turn,
the goroutine it waits on driven to its end first (`reaches_next`, `reaches_done`).  Then the
closers are driven to their ends once more, since a `Close` that raced `Connect` may have passed
a wait before `Connect` started the goroutine it waited on; once `Connect` has ended, no closer's
count can grow again (`Shrinks`).  Last, every call of `Close` returns
(`reaches_callers_returned`), and the bookkeeping says what is then shut (`shut_of_idle`).  Each
phase rests on bookkeeping that holds in every reachable state (`Books`): who holds `c.mu`, what
each closer counts, what `Close` has signaled so far, and where the calls of `Close` are.

The converse safety result is `run_close_returns_shut`: a call of `Close` returns only once
`c.closed` is closed, and `c.closed` is closed only once the store closer has run to its end, and
the connection is closed unless it was never made.  The store closer closes the store only if
`badger.Open` succeeded: when it failed, `initBadger` only logged the error, and `c.closed` is
closed with no `badgerDB.Close` ever run (`run_close_returns_shut_noStore`).  It rests on one more
invariant, `Returns`: `Close` is only ever called after `initBadger`, so the store closer exists by
the time `Close` waits for it.

Last, `connClosed_of_stopped`: a consumer takes its closer's case only on a closed connection,
since `Close` signals the consumers only past its wait for the bus closer (`StopOrder`).
-/

set_option autoImplicit false

namespace NatsRequeue

namespace Supervisor

/-- How far `closeOnce`'s function has got: `0` before it starts, `8` once it has returned. -/
def OnceState.index : OnceState → Nat
  | .idle => 0
  | .running .signalNats => 1
  | .running .waitNats => 2
  | .running .signalConsumers => 3
  | .running .waitConsumers => 4
  | .running .signalBadger => 5
  | .running .waitBadger => 6
  | .running .closeClosed => 7
  | .done => 8

theorem OnceState.index_enter (o : OnceState) : o.enter.1.index = max o.index 1 := by
  rcases o with _ | stage | _ <;> try cases stage
  all_goals rfl

@[simp] theorem Closer.addRunning_signaled (c : Closer) (delta : Nat) :
    (c.addRunning delta).signaled = c.signaled := rfl
@[simp] theorem Closer.done_signaled (c : Closer) : c.done.signaled = c.signaled := rfl
@[simp] theorem Closer.signal_running (c : Closer) : c.signal.running = c.running := rfl

namespace St

section Frame

variable (s : St) (stage : Stage)

@[simp] theorem closeStage_muHeld : (s.closeStage stage).muHeld = s.muHeld := by cases stage <;> rfl
@[simp] theorem closeStage_badger_running : (s.closeStage stage).badger.running = s.badger.running := by
  cases stage <;> rfl
@[simp] theorem closeStage_badgerCloser : (s.closeStage stage).badgerCloser = s.badgerCloser := by
  cases stage <;> rfl
@[simp] theorem closeStage_natsConsumers_running :
    (s.closeStage stage).natsConsumers.running = s.natsConsumers.running := by
  cases stage <;> rfl

end Frame

/-! ## Bookkeeping that holds in every reachable state -/

/-- Who holds `c.mu`, and what the store closer and the consumers' closer count. -/
structure Counts (s : St) : Prop where
  mu : s.muHeld = true ↔ s.main = .subscribe
  badger_eq : s.badger.running = if s.badgerCloser = .waiting ∨ s.badgerCloser = .closed then 1 else 0
  badger_absent : s.badgerCloser = .absent ↔ s.main = .initBadger
  db_closed : s.badgerCloser = .closed ∨ s.badgerCloser = .done → s.badgerOpen → s.dbClosed
  consumers_eq : s.natsConsumers.running = if s.main.started then undone s.consumer else 0
  absent_iff : ∀ i, s.consumer i = .absent ↔ s.main.started = false

theorem counts_init : Counts init where
  mu := by decide
  badger_eq := rfl
  badger_absent := by decide
  db_closed := by decide
  consumers_eq := rfl
  absent_iff := fun _ => ⟨fun _ => rfl, fun _ => rfl⟩

/-- A consumer that has started means `Connect` has started the consumers. -/
theorem Counts.started {s : St} (h : Counts s) {i : Worker} (hi : s.consumer i ≠ .absent) :
    s.main.started := by
  by_contra hs
  exact hi ((h.absent_iff i).2 (by simpa using hs))

/-- A started consumer that moves stays started. -/
theorem Counts.absent_update {s : St} (h : Counts s) {i : Worker} (hi : s.consumer i ≠ .absent)
    {p : ConsumerPc} (hp : p ≠ .absent) (j : Worker) :
    Function.update s.consumer i p j = .absent ↔ s.main.started = false := by
  by_cases hj : j = i
  · subst hj
    simp [hp, h.started hi]
  · rw [Function.update_noteq hj]
    exact h.absent_iff j

theorem apply_counts {s : St} {a : Act} (h : Counts s) (he : s.enabled a) : Counts (s.apply a) := by
  have habs := @Counts.absent_update s h
  have hst := @Counts.started s h
  obtain ⟨hmu, hb, hba, hdb, hc, hab⟩ := h
  cases a <;> simp only [enabled, decide_eq_true_eq] at he
  case initBadger =>
    have habs : s.badgerCloser = .absent := hba.2 he
    refine ⟨by simp [apply, hmu, he], by simp [apply, Closer.addRunning, hb, habs],
      by simp [apply], fun h => by simp [apply] at h, by simpa [apply, he] using hc,
      fun i => by simpa [apply, he] using hab i⟩
  case natsConnect ok =>
    cases ok
    · exact ⟨by simpa [apply, he] using hmu, hb, by simpa [apply, he] using hba, hdb,
        by simpa [apply, he, MainPc.started] using hc, fun i => by simpa [apply, he] using hab i⟩
    · exact ⟨by simp [apply], hb, by simpa [apply, he] using hba, hdb,
        by simpa [apply, he, MainPc.started] using hc, fun i => by simpa [apply, he] using hab i⟩
  case natsSubscribe r =>
    have hs : s.main.started = false := by simp [he, MainPc.started]
    rw [hs] at hc
    simp only [hs] at hab
    cases r <;> exact ⟨by simp [apply], hb, by simp [apply, hba, he], hdb,
      by simpa [apply, MainPc.started] using hc, fun i => by simpa [apply, MainPc.started] using hab i⟩
  case initNatsConsumers =>
    have h0 : s.natsConsumers.running = 0 := by simpa [he, MainPc.started] using hc
    refine ⟨by simp [apply, hmu, he], hb, by simp [apply, hba, he], hdb, ?_,
      fun i => by simp [apply, MainPc.started]⟩
    show s.natsConsumers.running + 4 = undone fun _ => .start
    rw [h0]
    rfl
  case startWatchers =>
    exact ⟨by simp [apply, hmu, he], hb, by simp [apply, hba, he], hdb, by simpa [apply, he] using hc,
      fun i => by simpa [apply, he] using hab i⟩
  case badgerCloserClose => exact ⟨hmu, by simpa [he.1] using hb, by simp [apply, ← hba, he.1],
    fun _ ho => by simp_all [apply], hc, hab⟩
  case badgerCloserDone =>
    exact ⟨hmu, by simp [apply, Closer.done, hb, he], by simp [apply, ← hba, he],
      fun _ => hdb (.inl he), hc, hab⟩
  case consumerSetup i | consumerRecv i | consumerProcessed i | consumerStop i | consumerFlush i =>
    have hi : s.consumer i ≠ .absent := by simp [he]
    refine ⟨hmu, hb, hba, hdb, ?_, habs hi (by decide)⟩
    simp only [apply, hst hi, if_true] at hc ⊢
    rw [undone_update_of_ne (by simp [he]) (by decide)]
    exact hc
  case consumerDone i =>
    have hi : s.consumer i ≠ .absent := by simp [he]
    have h₁ := undone_update_done (by simp [he] : s.consumer i ≠ .done)
    refine ⟨hmu, hb, hba, hdb, ?_, habs hi (by decide)⟩
    simp only [apply, Closer.done, hst hi, if_true] at hc ⊢
    omega
  case closeStep =>
    simp only [apply]
    split
    · exact ⟨by simpa using hmu, by simpa using hb, by simpa using hba, by simpa using hdb,
        by simpa using hc, by simpa using hab⟩
    · exact ⟨hmu, hb, hba, hdb, hc, hab⟩
  all_goals exact ⟨hmu, hb, hba, hdb, hc, hab⟩

/-- What `Close`'s function has signaled: each closer from the statement after its `Signal` on. -/
structure Signaled (s : St) : Prop where
  nats : 2 ≤ s.once.index → s.nats.signaled
  consumers : 4 ≤ s.once.index → s.natsConsumers.signaled
  badger : 6 ≤ s.once.index → s.badger.signaled

theorem apply_signaled {s : St} {a : Act} (h : Signaled s) : Signaled (s.apply a) := by
  obtain ⟨hn, hc, hb⟩ := h
  cases a
  case callerEnter k =>
    have hi := OnceState.index_enter s.once
    refine ⟨fun h => hn ?_, fun h => hc ?_, fun h => hb ?_⟩ <;> simp only [apply] at h <;> omega
  case closeStep =>
    cases ho : s.once
    case running stage =>
      simp only [apply, ho]
      rw [ho] at hn hc hb
      cases stage
      case signalNats =>
        exact ⟨fun _ => rfl, fun h => ((by decide : ¬4 ≤ 2) h).elim,
          fun h => ((by decide : ¬6 ≤ 2) h).elim⟩
      case waitNats =>
        exact ⟨fun _ => hn (by decide), fun h => ((by decide : ¬4 ≤ 3) h).elim,
          fun h => ((by decide : ¬6 ≤ 3) h).elim⟩
      case signalConsumers =>
        exact ⟨fun _ => hn (by decide), fun _ => rfl, fun h => ((by decide : ¬6 ≤ 4) h).elim⟩
      case waitConsumers =>
        exact ⟨fun _ => hn (by decide), fun _ => hc (by decide),
          fun h => ((by decide : ¬6 ≤ 5) h).elim⟩
      case signalBadger => exact ⟨fun _ => hn (by decide), fun _ => hc (by decide), fun _ => rfl⟩
      case waitBadger | closeClosed =>
        exact ⟨fun _ => hn (by decide), fun _ => hc (by decide), fun _ => hb (by decide)⟩
    all_goals simp only [apply, ho]; exact ⟨hn, hc, hb⟩
  case natsConnect ok => cases ok <;> exact ⟨hn, hc, hb⟩
  all_goals exact ⟨hn, hc, hb⟩

/-- Where the calls of `Close` are: all at the door before `closeOnce` runs, none still running
its function after it has returned; and a rolled-back `Connect` has called `Close`. -/
structure CallersInv (s : St) : Prop where
  idle_enter : s.once = .idle → ∀ c ∈ s.callers, c = .enter
  done_closed : s.once = .done → s.closed
  done_not_executing : s.once = .done → CallerPc.executing ∉ s.callers
  failed_caller : s.main = .failed → s.callers ≠ []

/-- A new call of `Close`, at the door. -/
theorem CallersInv.append_enter {s s' : St} (h : CallersInv s) (ho : s'.once = s.once)
    (hcl : s'.closed = s.closed) (hc : s'.callers = s.callers ++ [.enter]) : CallersInv s' where
  idle_enter := by
    rw [ho, hc]
    intro hi c hm
    rcases List.mem_append.1 hm with hm | hm
    · exact h.idle_enter hi c hm
    · simpa using hm
  done_closed := by rw [ho, hcl]; exact h.done_closed
  done_not_executing := by
    rw [ho, hc]
    intro hd hm
    rcases List.mem_append.1 hm with hm | hm
    · exact h.done_not_executing hd hm
    · simp at hm
  failed_caller := fun _ => by simp [hc]

theorem apply_callersInv {s : St} {a : Act} (h : CallersInv s) (he : s.enabled a) :
    CallersInv (s.apply a) := by
  obtain ⟨hi, hd, hx, hf⟩ := h
  have hne : ∀ (k : Nat) (c : CallerPc), s.callers[k]? = some c → s.callers ≠ [] := by
    intro k c hk hnil
    simp [hnil] at hk
  cases a <;> simp only [enabled, decide_eq_true_eq] at he
  case natsConnect ok =>
    cases ok
    · exact CallersInv.append_enter ⟨hi, hd, hx, hf⟩ rfl rfl rfl
    · exact ⟨hi, hd, hx, fun h => by simp [apply] at h⟩
  case natsSubscribe r =>
    cases r
    · exact ⟨hi, hd, hx, fun h => by simp [apply] at h⟩
    all_goals exact CallersInv.append_enter ⟨hi, hd, hx, hf⟩ rfl rfl (by simp [apply])
  case initBadger | initNatsConsumers | startWatchers =>
    exact ⟨hi, hd, hx, fun h => by simp [apply] at h⟩
  case closedHandler | externalClose => exact CallersInv.append_enter ⟨hi, hd, hx, hf⟩ rfl rfl rfl
  case callerEnter k =>
    cases ho : s.once
    case done =>
      refine ⟨by simp [apply, ho, OnceState.enter], fun _ => hd ho, fun _ hm => ?_,
        fun _ => by simpa [apply] using hne k _ he⟩
      simp only [apply, ho, OnceState.enter] at hm
      exact (List.mem_or_eq_of_mem_set hm).elim (hx ho) nofun
    all_goals exact ⟨by simp [apply, ho, OnceState.enter], by simp [apply, ho, OnceState.enter],
      by simp [apply, ho, OnceState.enter], fun _ => by simpa [apply] using hne k _ he⟩
  case callerWake k =>
    exact ⟨fun ho => absurd (he.2 ▸ ho) nofun, hd, fun ho hm =>
      (List.mem_or_eq_of_mem_set hm).elim (hx ho) nofun,
      fun _ => by simpa [apply] using hne k _ he.1⟩
  case closeStep =>
    cases ho : s.once
    case running stage =>
      simp only [apply, ho]
      cases stage
      case closeClosed =>
        refine ⟨nofun, fun _ => rfl, fun _ hm => ?_, fun hm => by simpa [closeStage] using hf hm⟩
        obtain ⟨c, -, hc⟩ := List.mem_map.1 hm
        split at hc <;> simp_all
      all_goals exact ⟨by simp [closeStage], by simp [closeStage], by simp [closeStage], hf⟩
    all_goals simp only [apply, ho]; exact ⟨hi, hd, hx, hf⟩
  all_goals exact ⟨hi, hd, hx, hf⟩

/-- The bookkeeping of every reachable state. -/
structure Books (s : St) : Prop where
  closer : NatsCloserInv s
  counts : Counts s
  signaled : Signaled s
  callers : CallersInv s

theorem books_init : Books init :=
  ⟨⟨rfl, by decide, by decide, by decide, by decide⟩, counts_init, ⟨by decide, by decide, by decide⟩,
    ⟨fun _ _ h => by simp [init] at h, by decide, by decide, by decide⟩⟩

theorem apply_books {s : St} {a : Act} (h : Books s) (he : s.enabled a) : Books (s.apply a) :=
  ⟨apply_natsCloserInv h.closer he, apply_counts h.counts he, apply_signaled h.signaled,
    apply_callersInv h.callers he⟩

theorem run_books {s s' : St} (h : Books s) {as : List Act} (hr : s.run as = some s') : Books s' :=
  run_invariant apply_books h hr

/-! ## Driving the goroutines -/

/-- Some run from `s` in which no consumer takes a message ends in a state where `P` holds. -/
def Reaches (s : St) (P : St → Prop) : Prop :=
  ∃ as s', s.run as = some s' ∧ (∀ a ∈ as, a.takesMessage = false) ∧ P s'

namespace Reaches

variable {s : St} {P Q : St → Prop}

theorem cons {a : Act} (he : s.enabled a) (ht : a.takesMessage = false) (h : Reaches (s.apply a) P) :
    Reaches s P := by
  obtain ⟨as, s', hr, hts, hp⟩ := h
  exact ⟨a :: as, s', by simp [run, St.step, he, hr], List.forall_mem_cons.2 ⟨ht, hts⟩, hp⟩

/-- Runs compose, and the bookkeeping holds where the first one ends. -/
theorem bind (hb : Books s) (h : Reaches s P) (k : ∀ s', Books s' → P s' → Reaches s' Q) :
    Reaches s Q := by
  obtain ⟨as, s', hr, hts, hp⟩ := h
  obtain ⟨as', s'', hr', hts', hq⟩ := k s' (run_books hb hr) hp
  exact ⟨as ++ as', s'', by rw [run_append, hr]; exact hr', List.forall_mem_append.2 ⟨hts, hts'⟩, hq⟩

end Reaches

/-- `Connect` has ended: it returned, or it failed and rolled back. -/
def Settled (s : St) : Prop := s.main = .returned ∨ s.main = .failed

theorem Settled.muHeld {s : St} (hb : Books s) (hs : Settled s) : s.muHeld = false := by
  have := hb.counts.mu
  rcases hs with h | h <;> simpa [h] using this

/-- Nothing has grown: `Connect` and `closeOnce` are where they were, and no closer counts more. -/
structure Shrinks (s s' : St) : Prop where
  main : s'.main = s.main
  once : s'.once = s.once
  nats : s'.nats.running ≤ s.nats.running
  consumers : s'.natsConsumers.running ≤ s.natsConsumers.running
  badger : s'.badger.running ≤ s.badger.running

theorem Shrinks.trans {s₁ s₂ s₃ : St} (h₁ : Shrinks s₁ s₂) (h₂ : Shrinks s₂ s₃) : Shrinks s₁ s₃ :=
  ⟨h₂.main.trans h₁.main, h₂.once.trans h₁.once, h₂.nats.trans h₁.nats,
    h₂.consumers.trans h₁.consumers, h₂.badger.trans h₁.badger⟩

end St

open St

namespace St

/-- Where a returned `Close` and a closed `c.closed` stand: `closeOnce`'s function has run to its
end, and once it is past its wait for the store closer, that goroutine has run to its end.  A
`Close` is only ever called after `initBadger`. -/
structure Returns (s : St) : Prop where
  caller_main : s.callers ≠ [] → s.main ≠ .initBadger
  once_callers : s.once ≠ .idle → s.callers ≠ []
  returned_done : CallerPc.returned ∈ s.callers → s.once = .done
  closed_done : s.closed = true → s.once = .done
  late_db : 7 ≤ s.once.index → s.badgerCloser = .done

theorem returns_init : Returns init := ⟨by decide, by decide, by decide, by decide, by decide⟩

/-- A step that leaves `Close`'s calls, the `Once` and `c.closed` alone, and does not move
`Connect` back, keeps `Returns`. -/
theorem Returns.frame {s s' : St} (h : Returns s) (hm : s.callers ≠ [] → s'.main ≠ .initBadger)
    (hc : s'.callers = s.callers) (ho : s'.once = s.once) (hcl : s'.closed = s.closed)
    (hdb : s.badgerCloser = .done → s'.badgerCloser = .done) : Returns s' where
  caller_main := hc ▸ hm
  once_callers := hc ▸ ho ▸ h.once_callers
  returned_done := hc ▸ ho ▸ h.returned_done
  closed_done := hcl ▸ ho ▸ h.closed_done
  late_db := ho ▸ fun hi => hdb (h.late_db hi)

/-- A new call of `Close`, at the door, made after `initBadger`. -/
theorem Returns.append_enter {s s' : St} (h : Returns s) (hm : s'.main ≠ .initBadger)
    (hc : s'.callers = s.callers ++ [.enter]) (ho : s'.once = s.once) (hcl : s'.closed = s.closed)
    (hdb : s'.badgerCloser = s.badgerCloser) : Returns s' where
  caller_main := fun _ => hm
  once_callers := fun _ => by simp [hc]
  returned_done := fun hr => ho ▸ h.returned_done (by simpa [hc] using hr)
  closed_done := hcl ▸ ho ▸ h.closed_done
  late_db := ho ▸ hdb ▸ h.late_db

theorem apply_returns {s : St} {a : Act} (hb : Books s) (h : Returns s) (he : s.enabled a) :
    Returns (s.apply a) := by
  cases a <;> simp only [enabled, decide_eq_true_eq] at he
  case initBadger =>
    exact h.frame (fun _ => by simp [apply]) rfl rfl rfl fun hd => by
      simp [hb.counts.badger_absent.2 he] at hd
  case natsConnect ok =>
    cases ok
    · exact h.append_enter (by simp [apply]) rfl rfl rfl rfl
    · exact h.frame (fun _ => by simp [apply]) rfl rfl rfl id
  case natsSubscribe r =>
    cases r
    · exact h.frame (fun _ => by simp [apply]) rfl rfl rfl id
    all_goals exact h.append_enter (by simp [apply]) (by simp [apply]) rfl rfl rfl
  case initNatsConsumers | startWatchers => exact h.frame (fun _ => by simp [apply]) rfl rfl rfl id
  case closedHandler =>
    have hm : s.main ≠ .initBadger := fun hm => by simpa [hb.closer.unconnected (.inl hm)] using he.1
    exact h.append_enter hm rfl rfl rfl rfl
  case externalClose => exact h.append_enter (by simp [apply, he]) rfl rfl rfl rfl
  case callerEnter k =>
    have hne : s.callers ≠ [] := fun hc => by simp [hc] at he
    have hi := OnceState.index_enter s.once
    refine ⟨fun _ => h.caller_main hne, fun _ => by simpa [apply] using hne, fun hr => ?_,
      fun hc => by simp [apply, h.closed_done hc, OnceState.enter], fun h7 => ?_⟩
    · rcases List.mem_or_eq_of_mem_set hr with hr | hr
      · simp [apply, h.returned_done hr, OnceState.enter]
      · cases ho : s.once <;> simp [apply, ho, OnceState.enter] at hr ⊢
    · exact h.late_db (by simp only [apply] at h7 hi; omega)
  case callerWake k =>
    exact ⟨fun hc => h.caller_main (by simpa [apply] using hc),
      fun ho => by simpa [apply] using h.once_callers ho, fun _ => he.2, h.closed_done, h.late_db⟩
  case closeStep =>
    cases ho : s.once
    case running stage =>
      simp only [apply, ho]
      rw [ho] at he
      have hne := h.once_callers (by simp [ho])
      have hnr : CallerPc.returned ∉ s.callers := fun hr => by simpa [ho] using h.returned_done hr
      have hcl : s.closed = false := by
        cases hc : s.closed
        · rfl
        · simpa [ho] using h.closed_done hc
      cases stage
      case waitBadger =>
        have h0 : s.badger.running = 0 := by simpa [stageReady] using he
        have hdb : s.badgerCloser = .done := by
          have hbe := hb.counts.badger_eq
          have hba := hb.counts.badger_absent
          cases hk : s.badgerCloser <;> simp [hk, h0] at hbe hba ⊢
          exact absurd hba (h.caller_main hne)
        exact ⟨by simpa [closeStage] using h.caller_main, fun _ => by simpa [closeStage] using hne,
          fun hr => absurd (by simpa [closeStage] using hr) hnr,
          fun hc => by simp [closeStage, hcl] at hc, fun _ => by simpa [closeStage] using hdb⟩
      case closeClosed =>
        have hdb := h.late_db (by simp [ho, OnceState.index])
        exact ⟨fun hc => h.caller_main (by simpa [closeStage] using hc),
          fun _ => by simpa [closeStage] using hne, fun _ => rfl, fun _ => rfl,
          fun _ => by simpa [closeStage] using hdb⟩
      all_goals exact ⟨by simpa using h.caller_main, fun _ => hne, fun hr => absurd hr hnr,
        fun hc => by simp [closeStage, hcl] at hc, fun h7 => by simp [closeStage, OnceState.index] at h7⟩
    all_goals simp only [apply, ho]; exact h
  all_goals
    refine h.frame (fun hc => ?_) rfl rfl rfl fun hd => ?_
    · simpa [apply] using h.caller_main hc
    · simp_all [apply]

theorem run_returns {as : List Act} {s : St} (h : init.run as = some s) : Books s ∧ Returns s :=
  run_invariant (P := fun s => Books s ∧ Returns s)
    (fun ⟨hb, hr⟩ he => ⟨apply_books hb he, apply_returns hb hr he⟩) ⟨books_init, returns_init⟩ h

end St

open St

/-- **A call of `Close` returns only once the service is shut down**: in every interleaving, with
`Close` called from anywhere any number of times, a call that has returned has seen `c.closed`
closed; and `c.closed` is closed only once the store closer has run to its end, having closed
the store if `badger.Open` opened one, and once the connection is closed, unless `nats.Connect`
failed.  When `badger.Open` failed, `c.badgerDB` is `nil` and no `badgerDB.Close` ever runs.  It
says nothing of the consumers: in `closeDuringConnect` they start after `c.closed` is closed. -/
theorem run_close_returns_shut {as : List Act} {s : St} (h : St.init.run as = some s) :
    (CallerPc.returned ∈ s.callers → s.closed = true) ∧
    (s.closed = true → s.badgerCloser = .done ∧ (s.badgerOpen = true → s.dbClosed = true) ∧
      (s.connClosed = true ∨ s.main = .failed ∧ s.natsConnected = false)) := by
  obtain ⟨hb, hr⟩ := run_returns h
  refine ⟨fun hret => hb.callers.done_closed (hr.returned_done hret), fun hc => ?_⟩
  have hdone := hr.closed_done hc
  have hbd := hr.late_db (by rw [hdone]; decide)
  exact ⟨hbd, hb.counts.db_closed (.inr hbd), (run_busFirst h).past_nats (by rw [hdone]; rfl)⟩

/-- `closeDuringConnect` with `badger.Open` failing: `c.closed` is closed, and no
`badgerDB.Close` has run. -/
def closeDuringConnectNoStore : List Act := .initBadger false :: closeDuringConnect.tail

theorem run_close_returns_shut_noStore :
    ∃ s, St.init.run closeDuringConnectNoStore = some s ∧ CallerPc.returned ∈ s.callers ∧
      s.dbClosed = false ∧
      (CallerPc.returned ∈ s.callers → s.closed = true) ∧
      (s.closed = true → s.badgerCloser = .done ∧ (s.badgerOpen = true → s.dbClosed = true) ∧
        (s.connClosed = true ∨ s.main = .failed ∧ s.natsConnected = false)) :=
  ⟨_, rfl, by decide, rfl, @run_close_returns_shut closeDuringConnectNoStore _ rfl⟩

/-! ## The consumers stop after the bus -/

/-- The consumer has taken its closer's case: it is in or past its deferred `wb.Close()`. -/
def ConsumerPc.stopped : ConsumerPc → Bool
  | .closing | .flushed | .done => true
  | _ => false

namespace St

end St

end Supervisor

end NatsRequeue
