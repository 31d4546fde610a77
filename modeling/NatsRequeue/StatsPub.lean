import NatsRequeue.Machine

/-!
# The stats publisher: `NewStatsPublisher`, its goroutines, and `Close`

`statspub.NewStatsPublisher` applies its options over `GetDefaultOptions` and starts
`initBackgroundTasks` in a goroutine.  That function adds two to a `sync.WaitGroup` and starts two
goroutines: the *waiter*, which waits on the group and then closes `sp.done`, and the *republish*
goroutine, which creates a ticker, starts a third goroutine (the *stopper*) that stops the ticker
once `sp.quit` is closed, and runs the ticker's loop, calling `sp.publish()` on every tick; its
deferred `wg.Done()` runs when the loop returns.  `Close` closes `sp.quit` and waits on `sp.done`.

Only the republish goroutine calls `wg.Done()`, once, so the group's counter never falls below
one after `wg.Add(2)` (`St.Inv.wg_pos`): `wg.Wait()` never returns, `sp.done` is never closed,
and no call of `Close` ever returns (`run_close_never_returns`).  This holds in every interleaving
and whatever the ticker does: `internal/ticker` is not in the source, so the model lets the loop
return at any moment, or never, and the result does not rest on how `Stop` ends it.  In the run
`closeAfterStop` the loop has returned, and nothing is left that could wake the waiting `Close`
(`run_close_never_returns_afterStop`).  A second `Close` runs `close(sp.quit)` on a closed
channel, and the process panics; that is the only panic the publisher can reach, the republish
goroutine's `wg.Done()` never finding a zero counter: the process has panicked exactly when
`close(sp.quit)` has run twice (`run_panicked_iff_closed_twice`).

`sp.publish()` only logs, so a tick changes nothing the model records; a panic ends the process,
so no action is enabled after one.
-/

set_option autoImplicit false

namespace NatsRequeue

namespace StatsPub

/-! ## Options -/

/-- `DefaultStatsPublisherInterval`, `5 * time.Second`, in nanoseconds. -/
def defaultStatsPublisherInterval : Int := 5 * 1000000000

/-- `Options`: the interval of the ticker, in nanoseconds. -/
structure Options where
  pubInterval : Int
  deriving DecidableEq, Repr

/-- `GetDefaultOptions`. -/
def getDefaultOptions : Options where
  pubInterval := defaultStatsPublisherInterval

/-- `StatsPublishInterval`: sets the interval, and never fails. -/
def statsPublishInterval (interval : Int) (o : Options) : Except String Options :=
  .ok { o with pubInterval := interval }

/-- The loop of `NewStatsPublisher` over its options: a `nil` option is skipped, and the first
error is returned. -/
def applyOptions (opts : Options) :
    List (Option (Options → Except String Options)) → Except String Options
  | [] => .ok opts
  | none :: options => applyOptions opts options
  | some opt :: options => opt opts >>= fun opts' => applyOptions opts' options

/-- The loop applies the options that are not `nil` in turn, and stops at the first error. -/
theorem applyOptions_eq_foldlM (opts : Options)
    (options : List (Option (Options → Except String Options))) :
    applyOptions opts options = options.reduceOption.foldlM (fun o opt => opt o) opts := by
  induction options generalizing opts with
  | nil => rfl
  | cons o options ih =>
    cases o with
    | none => simpa [applyOptions] using ih opts
    | some opt =>
      simp only [applyOptions, List.reduceOption_cons_of_some, List.foldlM_cons, ih]

/-- **Options made by `StatsPublishInterval` never fail, and the last one wins.** -/
theorem applyOptions_statsPublishInterval (opts : Options) (intervals : List (Option Int)) :
    applyOptions opts (intervals.map (Option.map statsPublishInterval))
      = .ok ⟨intervals.reduceOption.getLast?.getD opts.pubInterval⟩ := by
  induction intervals generalizing opts with
  | nil => rfl
  | cons d intervals ih =>
    cases d with
    | none => simpa [applyOptions] using ih opts
    | some d =>
      simp only [List.map_cons, Option.map_some', applyOptions, statsPublishInterval, ih,
        List.reduceOption_cons_of_some, List.getLast?_cons, Option.getD_some]
      rfl

/-! ## The goroutines -/

/-- The waiter: `wg.Wait()`, then `close(sp.done)`. -/
inductive WaiterPc
  | absent
  | waiting
  | closedDone
  deriving DecidableEq, Repr

/-- The republish goroutine. -/
inductive RepublishPc
  | absent
  /-- Started, before `ticker.New`. -/
  | start
  /-- In `t.Loop`, publishing on every tick. -/
  | looping
  /-- The loop has returned, and the deferred `wg.Done()` has run. -/
  | returned
  deriving DecidableEq, Repr

/-- The stopper: `<-sp.quit`, then `t.Stop()`. -/
inductive StopperPc
  | absent
  | waiting
  | stopped
  deriving DecidableEq, Repr

/-- A call of `Close`. -/
inductive CallerPc
  /-- Before `close(sp.quit)`. -/
  | start
  /-- In `<-sp.done`. -/
  | waiting
  | returned
  deriving DecidableEq, Repr

/-- The publisher's state: every goroutine's program counter, and the objects they share. -/
structure St where
  opts : Options
  /-- `initBackgroundTasks` has run. -/
  tasksStarted : Bool
  /-- The `sync.WaitGroup`'s counter. -/
  wg : Nat
  waiter : WaiterPc
  republish : RepublishPc
  stopper : StopperPc
  /-- `close(sp.quit)` has run. -/
  quit : Bool
  /-- `close(sp.done)` has run. -/
  done : Bool
  callers : List CallerPc
  /-- A goroutine has panicked, which ends the process. -/
  panicked : Bool
  deriving DecidableEq, Repr

/-- The publisher `NewStatsPublisher` returns: `initBackgroundTasks` has only been started. -/
def St.init (opts : Options) : St where
  opts := opts
  tasksStarted := false
  wg := 0
  waiter := .absent
  republish := .absent
  stopper := .absent
  quit := false
  done := false
  callers := []
  panicked := false

/-- `NewStatsPublisher`: the options over the defaults, then the publisher. -/
def newStatsPublisher (options : List (Option (Options → Except String Options))) :
    Except String St := do
  let opts ← applyOptions getDefaultOptions options
  pure (St.init opts)

/-- **With only `StatsPublishInterval` options, `NewStatsPublisher` succeeds**, with the last
interval given, or five seconds. -/
theorem newStatsPublisher_statsPublishInterval (intervals : List (Option Int)) :
    newStatsPublisher (intervals.map (Option.map statsPublishInterval))
      = .ok (St.init ⟨intervals.reduceOption.getLast?.getD defaultStatsPublisherInterval⟩) := by
  simp only [newStatsPublisher, applyOptions_statsPublishInterval]
  rfl

/-- One atomic action of one goroutine. -/
inductive Act
  /-- `initBackgroundTasks`: `wg.Add(2)`, and the waiter and the republish goroutine start. -/
  | initBackgroundTasks
  /-- The waiter's `wg.Wait()` returns, and it closes `sp.done`. -/
  | waiterClose
  /-- The republish goroutine creates the ticker, starts the stopper, and enters `t.Loop`. -/
  | republishStart
  /-- `t.Loop` returns, and the deferred `wg.Done()` runs. -/
  | republishReturn
  /-- The stopper's `<-sp.quit` returns, and it calls `t.Stop()`. -/
  | stopperStop
  /-- A new call of `Close`. -/
  | callerEnter
  /-- Call `k` of `Close` runs `close(sp.quit)`. -/
  | callerCloseQuit (k : Nat)
  /-- Call `k`'s `<-sp.done` returns. -/
  | callerWake (k : Nat)
  deriving DecidableEq, Repr

namespace St

/-- Whether a goroutine can take the action; a panic ends them all. -/
def enabled (s : St) (a : Act) : Bool :=
  !s.panicked &&
    match a with
    | .initBackgroundTasks => !s.tasksStarted
    | .waiterClose => s.waiter = .waiting ∧ s.wg = 0
    | .republishStart => s.republish = .start
    | .republishReturn => s.republish = .looping
    | .stopperStop => s.stopper = .waiting ∧ s.quit
    | .callerEnter => true
    | .callerCloseQuit k => s.callers[k]? = some .start
    | .callerWake k => s.callers[k]? = some .waiting ∧ s.done

/-- What an action does.  `wg.Done()` on a zero counter panics, and so does `close` on a closed
channel. -/
def apply (s : St) : Act → St
  | .initBackgroundTasks =>
    { s with tasksStarted := true, wg := s.wg + 2, waiter := .waiting, republish := .start }
  | .waiterClose => { s with waiter := .closedDone, done := true }
  | .republishStart => { s with republish := .looping, stopper := .waiting }
  | .republishReturn =>
    if s.wg = 0 then { s with panicked := true } else { s with republish := .returned, wg := s.wg - 1 }
  | .stopperStop => { s with stopper := .stopped }
  | .callerEnter => { s with callers := s.callers ++ [.start] }
  | .callerCloseQuit k =>
    if s.quit then { s with panicked := true }
    else { s with quit := true, callers := s.callers.set k .waiting }
  | .callerWake k => { s with callers := s.callers.set k .returned }

end St

/-- The publisher's goroutines, as a machine. -/
def machine : Machine St Act := ⟨St.enabled, St.apply⟩

/-! ## `wg.Wait()` never returns -/

namespace St

/-- The group counts two for `wg.Add(2)` and loses one for the republish goroutine's
`wg.Done()`, which no other goroutine calls; so `sp.done` stays open and no `Close` returns. -/
structure Inv (s : St) : Prop where
  wg_eq : s.wg + (if s.republish = .returned then 1 else 0) = if s.tasksStarted then 2 else 0
  waiter_started : s.waiter = .waiting → s.tasksStarted
  waiter_blocked : s.waiter ≠ .closedDone
  done_open : s.done = false
  never_returned : CallerPc.returned ∉ s.callers

theorem Inv.wg_pos {s : St} (h : Inv s) (ht : s.tasksStarted) : 1 ≤ s.wg := by
  have := h.wg_eq
  rw [if_pos ht] at this
  split at this <;> omega

theorem inv_init (opts : Options) : Inv (init opts) :=
  ⟨rfl, fun h => (nomatch h), nofun, rfl, List.not_mem_nil _⟩

theorem apply_inv {s : St} {a : Act} (h : Inv s) (he : machine.enabled s a) : Inv (s.apply a) := by
  obtain ⟨hwg, hws, hwb, hd, hr⟩ := h
  cases a <;>
    simp only [machine, enabled, Bool.and_eq_true, Bool.not_eq_true', decide_eq_true_eq] at he
  case initBackgroundTasks =>
    refine ⟨?_, fun _ => rfl, nofun, hd, hr⟩
    simp [he.2] at hwg
    simp [apply, hwg.1]
  case waiterClose =>
    have := Inv.wg_pos ⟨hwg, hws, hwb, hd, hr⟩ (hws he.2.1)
    omega
  case republishStart => exact ⟨by simpa [apply, he.2] using hwg, hws, hwb, hd, hr⟩
  case republishReturn =>
    simp only [apply]
    split
    · exact ⟨hwg, hws, hwb, hd, hr⟩
    · refine ⟨?_, hws, hwb, hd, hr⟩
      simp only [he.2, if_true, reduceCtorEq, if_false] at hwg ⊢
      omega
  case callerEnter => exact ⟨hwg, hws, hwb, hd, by simpa [apply] using hr⟩
  case callerCloseQuit k =>
    simp only [apply]
    split
    · exact ⟨hwg, hws, hwb, hd, hr⟩
    · exact ⟨hwg, hws, hwb, hd, fun hm => (List.mem_or_eq_of_mem_set hm).elim hr nofun⟩
  case callerWake k => simp [hd] at he
  all_goals exact ⟨hwg, hws, hwb, hd, hr⟩

theorem run_inv {opts : Options} {as : List Act} {s : St} (h : machine.run (init opts) as = some s) :
    Inv s :=
  Machine.run_invariant apply_inv (inv_init opts) h

end St

/-- **`Close` never returns**: in every interleaving of the publisher's goroutines, with `Close`
called any number of times and the ticker doing anything, `sp.done` stays open and every call of
`Close` that has closed `sp.quit` is still waiting on it. -/
theorem run_close_never_returns {opts : Options} {as : List Act} {s : St}
    (h : machine.run (St.init opts) as = some s) :
    s.done = false ∧ CallerPc.returned ∉ s.callers :=
  have hinv := St.run_inv h
  ⟨hinv.done_open, hinv.never_returned⟩

/-- The publisher starts; `Close` closes `sp.quit`; the stopper stops the ticker, and the loop
returns. -/
def closeAfterStop : List Act :=
  [.initBackgroundTasks, .republishStart, .callerEnter, .callerCloseQuit 0, .stopperStop,
    .republishReturn]

/-- After `closeAfterStop`, the `Close` call waits on `sp.done`, and no goroutine is left that
could act: only a new call of `Close` can run. -/
theorem run_close_never_returns_afterStop :
    ∃ s, machine.run (St.init getDefaultOptions) closeAfterStop = some s ∧ s.callers = [.waiting] ∧
      (s.done = false ∧ CallerPc.returned ∉ s.callers) ∧
      ∀ a, machine.enabled s a → a = .callerEnter :=
  ⟨⟨getDefaultOptions, true, 1, .waiting, .returned, .stopped, true, false, [.waiting], false⟩,
    rfl, rfl, @run_close_never_returns getDefaultOptions closeAfterStop _ rfl, fun a ha => by
    cases a <;> simp [machine, St.enabled] at ha ⊢
    case callerCloseQuit k => cases k <;> simp at ha⟩

/-- That new call panics, closing `sp.quit` a second time. -/
example : (machine.run (St.init getDefaultOptions)
    (closeAfterStop ++ [.callerEnter, .callerCloseQuit 1])).map St.panicked = some true := rfl

/-! ## Only a second `close(sp.quit)` panics -/

/-- The action runs `close(sp.quit)`. -/
def Act.closesQuit : Act → Bool
  | .callerCloseQuit _ => true
  | _ => false

namespace St

/-- How many times `close(sp.quit)` has run: the first closes the channel, the second panics. -/
def quitCloses (s : St) : Nat := s.quit.toNat + s.panicked.toNat

/-- The republish goroutine exists only once `initBackgroundTasks` has run, whose `wg.Add(2)`
keeps its `wg.Done()` off a zero counter; so only `close` on a closed `sp.quit` panics. -/
structure PanicInv (s : St) : Prop where
  inv : Inv s
  started : s.republish ≠ .absent → s.tasksStarted
  quit_of_panicked : s.panicked → s.quit

theorem panicInv_init (opts : Options) : PanicInv (init opts) :=
  ⟨inv_init opts, fun h => absurd rfl h, fun h => h⟩

/-- `wg.Done()` never finds a zero counter. -/
theorem PanicInv.wg_ne_zero {s : St} (h : PanicInv s) (hr : s.republish = .looping) : s.wg ≠ 0 :=
  Nat.one_le_iff_ne_zero.1 (h.inv.wg_pos (h.started (by rw [hr]; nofun)))

theorem apply_panicInv {s : St} {a : Act} (h : PanicInv s) (he : machine.enabled s a) :
    PanicInv (s.apply a) := by
  obtain ⟨hinv, hst, hq⟩ := h
  have hinv' := apply_inv hinv he
  cases a <;>
    simp only [machine, enabled, Bool.and_eq_true, Bool.not_eq_true', decide_eq_true_eq] at he
  case initBackgroundTasks => exact ⟨hinv', fun _ => rfl, hq⟩
  case republishStart => exact ⟨hinv', fun _ => hst (by rw [he.2]; nofun), hq⟩
  case republishReturn =>
    have hwg := PanicInv.wg_ne_zero ⟨hinv, hst, hq⟩ he.2
    simp only [apply, hwg, if_false] at hinv' ⊢
    exact ⟨hinv', fun _ => hst (by rw [he.2]; nofun), hq⟩
  case callerCloseQuit k =>
    refine ⟨hinv', ?_, ?_⟩ <;> simp only [apply] <;> split <;> simp_all
  all_goals exact ⟨hinv', hst, hq⟩

/-- Every `close(sp.quit)` adds one to the count, and nothing else changes it. -/
theorem apply_quitCloses {s : St} {a : Act} (h : PanicInv s) (he : machine.enabled s a) :
    (s.apply a).quitCloses = s.quitCloses + if a.closesQuit then 1 else 0 := by
  cases a <;>
    simp only [machine, enabled, Bool.and_eq_true, Bool.not_eq_true', decide_eq_true_eq] at he
  case republishReturn => simp [apply, quitCloses, h.wg_ne_zero he.2, Act.closesQuit]
  case callerCloseQuit k =>
    simp only [apply, Act.closesQuit, if_true]
    split <;> simp_all [quitCloses]
  all_goals simp [apply, quitCloses, Act.closesQuit]

end St

/-- **Only a second `Close` panics**: in every interleaving of the publisher's goroutines, with
`Close` called any number of times and the ticker doing anything, `sp.quit` is closed once one
`close(sp.quit)` has run, and the process has panicked exactly when a second one has run: the
republish goroutine's `wg.Done()` never panics, and no third `close(sp.quit)` ever runs. -/
theorem run_panicked_iff_closed_twice {opts : Options} {as : List Act} {s : St}
    (h : machine.run (St.init opts) as = some s) :
    (s.quit = true ↔ 1 ≤ as.countP Act.closesQuit) ∧
      (s.panicked = true ↔ 2 ≤ as.countP Act.closesQuit) ∧ as.countP Act.closesQuit ≤ 2 := by
  have hinv : St.PanicInv s := Machine.run_invariant St.apply_panicInv (St.panicInv_init opts) h
  have hc : s.quitCloses = as.countP Act.closesQuit := by
    simpa [St.quitCloses, St.init] using
      Machine.run_countP St.apply_panicInv St.apply_quitCloses (St.panicInv_init opts) h
  rw [← hc, St.quitCloses]
  have hq := hinv.quit_of_panicked
  cases hq' : s.quit <;> cases hp : s.panicked <;> simp_all

/-- The publisher after `closeAfterStop`, and a second call of `Close`. -/
def closeTwice : List Act := closeAfterStop ++ [.callerEnter, .callerCloseQuit 1]

theorem run_panicked_iff_closed_twice_closeTwice :
    ∃ s, machine.run (St.init getDefaultOptions) closeTwice = some s ∧ s.panicked = true ∧
      ((s.quit = true ↔ 1 ≤ closeTwice.countP Act.closesQuit) ∧
        (s.panicked = true ↔ 2 ≤ closeTwice.countP Act.closesQuit) ∧
        closeTwice.countP Act.closesQuit ≤ 2) :=
  ⟨⟨getDefaultOptions, true, 1, .waiting, .returned, .stopped, true, false, [.waiting, .start], true⟩,
    rfl, rfl, run_panicked_iff_closed_twice rfl⟩

end StatsPub

end NatsRequeue
