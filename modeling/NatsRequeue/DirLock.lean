import NatsRequeue.Machine

/-!
# The directory lock: `AcquireDirectoryLock` and `DirectoryLockGuard.Release`

`internal/badger`'s `AcquireDirectoryLock` opens the data directory and takes a `flock` on it,
shared for a read-only database and exclusive otherwise; a read-write caller then writes its pid
to the pid file, overwriting whatever was there.  Every error after the directory is open closes
it again, so a failed call holds no lock.  `Release` removes the pid file of a read-write guard
*before* it closes the directory and so drops the lock ("It's important that we remove the pid
file first").

The model runs any number of callers at once, each a program counter, against one directory and
one pid file (Badger passes the same pid-file name for every caller).  Each system call is one
action, and the environment chooses which of them fail: `filepath.Abs` and `os.Open`, the write
of the pid file (which may leave anything in it), `os.Remove` and `Close`.  A caller may also
die at any moment, which drops its lock (the kernel closes its descriptors) and leaves the pid
file as it was.  `flock` with `LOCK_NB` fails whenever another descriptor holds a conflicting
lock (`St.canFlock`), and may fail for other reasons of the kernel's.

In every interleaving (`run_lock_exclusive`): while a caller is past an exclusive `flock`, no
other caller holds the lock at all; while a caller holds a read-write guard, the pid file holds
its pid; and between its `os.Remove` and its `Close`, the pid file is gone or still its own.  So
the `os.Remove` of a read-write `Release` only ever removes the caller's own pid file.  That is
what the order in `Release` buys: were the lock dropped first, another caller could take it and
write its pid between the two calls, and lose its pid file to the first caller's `Remove`.

Two consequences for a Badger process and its neighbours.  When a read-write `Release` returns,
no caller holds the lock, and if it returned no error the pid file is gone (`run_release_frees`).
While a caller holds a read-write guard, a second instance's `AcquireDirectoryLock` fails at its
`flock` with the lock-busy error, and no step of any other caller touches the pid file
(`run_locked_out`).

`openDir` and `syncDir` are not reached from the lock and are left out.
-/

set_option autoImplicit false

namespace NatsRequeue

namespace DirLock

/-- Where a call of `AcquireDirectoryLock`, or of its guard's `Release`, has got to. -/
inductive Pc
  /-- Outside the lock's code, holding nothing. -/
  | idle
  /-- `AcquireDirectoryLock` has the pid file's absolute path and the directory open. -/
  | opened (readOnly : Bool)
  /-- A read-write call has its exclusive lock and is about to write the pid file. -/
  | writing
  /-- `AcquireDirectoryLock` has returned its guard. -/
  | holding (readOnly : Bool)
  /-- A read-write guard's `Release` has run `os.Remove`, and is about to close the directory. -/
  | releasing (removeOk : Bool)
  deriving DecidableEq, Repr

namespace Pc

/-- The caller's descriptor holds a `flock` on the directory. -/
def locked : Pc → Bool
  | writing | holding _ | releasing _ => true
  | _ => false

/-- The caller's descriptor holds an exclusive `flock` (`LOCK_EX`). -/
def exclusive : Pc → Bool
  | writing | holding false | releasing _ => true
  | _ => false

theorem locked_of_exclusive {p : Pc} (h : p.exclusive) : p.locked := by
  cases p <;> simp_all [exclusive, locked]

theorem exclusive_eq_false {p : Pc} (h : p.locked = false) : p.exclusive = false := by
  cases p <;> simp_all [exclusive, locked]

end Pc

/-- What a caller's last call returned. -/
inductive Outcome
  | acquired
  | absFailed
  | openFailed
  | lockBusy
  | writeFailed
  /-- `Release` returned; `ok` when it returned `nil`. -/
  | released (ok : Bool)
  deriving DecidableEq, Repr

/-- The text `AcquireDirectoryLock` wraps its error in (`%q` is `String.quote`); `Release` returns
the system call's own error. -/
def Outcome.wrapText (dirPath absPidFilePath : String) : Outcome → Option String
  | absFailed => some "cannot get absolute path for pid lock file"
  | openFailed => some ("cannot open directory " ++ dirPath.quote)
  | lockBusy => some ("Cannot acquire directory lock on " ++ dirPath.quote ++
      ".  Another process is using this Badger database.")
  | writeFailed => some ("Cannot write pid file " ++ absPidFilePath.quote)
  | acquired | released _ => none

/-- The callers, the pid file, and what each caller's last call returned. -/
structure St (n : Nat) where
  pc : Fin n → Pc
  /-- The pid file: absent, or the pid it holds. -/
  pidFile : Option Nat
  last : Fin n → Option Outcome

/-- No caller in the lock's code, and whatever a dead process left in the pid file. -/
def St.init (n : Nat) (pidFile : Option Nat) : St n := ⟨fun _ => .idle, pidFile, fun _ => none⟩

/-- How `filepath.Abs` and `os.Open` went. -/
inductive OpenResult
  | ok
  | absFailed
  | openFailed
  deriving DecidableEq, Repr

/-- One system call of one caller, or its death; the caller's pid is its index. -/
inductive Act (n : Nat)
  /-- `filepath.Abs` of the pid file and `os.Open` of the directory. -/
  | acquireOpen (i : Fin n) (readOnly : Bool) (r : OpenResult)
  /-- `unix.Flock` with `LOCK_NB`, shared when read-only; it fails on a conflict, or for any other
  reason the kernel has (`ok = false`), and on an error the directory is closed. -/
  | acquireFlock (i : Fin n) (ok : Bool)
  /-- `ioutil.WriteFile` of the pid; a failed write leaves `junk` and closes the directory. -/
  | acquireWrite (i : Fin n) (ok : Bool) (junk : Option Nat)
  /-- A read-write guard's `os.Remove` of the pid file. -/
  | releaseRemove (i : Fin n) (ok : Bool)
  /-- `guard.f.Close()`, which drops the lock whatever it returns. -/
  | releaseClose (i : Fin n) (ok : Bool)
  /-- The caller's process dies. -/
  | crash (i : Fin n)
  deriving DecidableEq, Repr

/-- The caller an action is a step of. -/
def Act.caller {n : Nat} : Act n → Fin n
  | .acquireOpen i .. | .acquireFlock i _ | .acquireWrite i .. | .releaseRemove i _
  | .releaseClose i _ | .crash i => i

namespace St

variable {n : Nat}

/-- Caller `i` moves to `p`. -/
def setPc (s : St n) (i : Fin n) (p : Pc) : St n := { s with pc := Function.update s.pc i p }

/-- Caller `i`'s call returns `o`, and the caller is then at `p`. -/
def ret (s : St n) (i : Fin n) (p : Pc) (o : Outcome) : St n :=
  { s with pc := Function.update s.pc i p, last := Function.update s.last i (some o) }

@[simp] theorem setPc_pc (s : St n) (i : Fin n) (p : Pc) :
    (s.setPc i p).pc = Function.update s.pc i p := rfl
@[simp] theorem setPc_pidFile (s : St n) (i : Fin n) (p : Pc) : (s.setPc i p).pidFile = s.pidFile :=
  rfl
@[simp] theorem ret_pc (s : St n) (i : Fin n) (p : Pc) (o : Outcome) :
    (s.ret i p o).pc = Function.update s.pc i p := rfl
@[simp] theorem ret_pidFile (s : St n) (i : Fin n) (p : Pc) (o : Outcome) :
    (s.ret i p o).pidFile = s.pidFile := rfl

/-- `flock` with `LOCK_NB` grants caller `i` the lock when no other descriptor holds a
conflicting one: a shared lock conflicts with an exclusive one, an exclusive lock with any. -/
def canFlock (s : St n) (i : Fin n) (readOnly : Bool) : Bool :=
  decide (∀ j, j ≠ i → if readOnly then (s.pc j).exclusive = false else (s.pc j).locked = false)

/-- Whether the action can be taken. -/
def enabled (s : St n) : Act n → Bool
  | .acquireOpen i _ _ => s.pc i = .idle
  | .acquireFlock i _ => match s.pc i with
    | .opened _ => true
    | _ => false
  | .acquireWrite i _ _ => s.pc i = .writing
  | .releaseRemove i _ => s.pc i = .holding false
  | .releaseClose i _ => match s.pc i with
    | .holding true | .releasing _ => true
    | _ => false
  | .crash _ => true

/-- What the action does. -/
def apply (s : St n) : Act n → St n
  | .acquireOpen i readOnly r => match r with
    | .ok => s.setPc i (.opened readOnly)
    | .absFailed => s.ret i .idle .absFailed
    | .openFailed => s.ret i .idle .openFailed
  | .acquireFlock i ok => match s.pc i with
    | .opened readOnly =>
      if ok && s.canFlock i readOnly then
        if readOnly then s.ret i (.holding true) .acquired else s.setPc i .writing
      else s.ret i .idle .lockBusy
    | _ => s
  | .acquireWrite i ok junk =>
    if ok then { s.ret i (.holding false) .acquired with pidFile := some i.val }
    else { s.ret i .idle .writeFailed with pidFile := junk }
  | .releaseRemove i ok =>
    { s.setPc i (.releasing (ok && s.pidFile.isSome)) with
      pidFile := if ok then none else s.pidFile }
  | .releaseClose i ok => match s.pc i with
    | .releasing removeOk => s.ret i .idle (.released (removeOk && ok))
    | _ => s.ret i .idle (.released ok)
  | .crash i => s.setPc i .idle

end St

/-- The callers of the lock, as a machine. -/
def machine (n : Nat) : Machine (St n) (Act n) := ⟨St.enabled, St.apply⟩

/-! ## Exclusion -/

section Exclusion

variable {n : Nat}

/-- A caller past an exclusive `flock` is the only one holding the lock. -/
def Exclusive (pc : Fin n → Pc) : Prop := ∀ i j, (pc i).exclusive → (pc j).locked → i = j

/-- Caller `i` may move to `p` when `p` conflicts with no lock another caller holds. -/
theorem Exclusive.update {pc : Fin n → Pc} (h : Exclusive pc) {i : Fin n} {p : Pc}
    (hx : p.exclusive → ∀ j, j ≠ i → (pc j).locked = false)
    (hl : p.locked → ∀ j, j ≠ i → (pc j).exclusive = false) :
    Exclusive (Function.update pc i p) := by
  intro a b ha hb
  by_cases hai : a = i <;> by_cases hbi : b = i
  · rw [hai, hbi]
  · subst hai
    rw [Function.update_same] at ha
    rw [Function.update_noteq hbi] at hb
    simp [hx ha b hbi] at hb
  · subst hbi
    rw [Function.update_noteq hai] at ha
    rw [Function.update_same] at hb
    simp [hl hb a hai] at ha
  · rw [Function.update_noteq hai] at ha
    rw [Function.update_noteq hbi] at hb
    exact h a b ha hb

/-- A move that takes no lock the caller did not already hold keeps exclusion. -/
theorem Exclusive.update_of_le {pc : Fin n → Pc} (h : Exclusive pc) {i : Fin n} {p : Pc}
    (hx : p.exclusive → (pc i).exclusive) (hl : p.locked → (pc i).locked) :
    Exclusive (Function.update pc i p) := by
  refine h.update (fun hp j hj => ?_) (fun hp j hj => ?_)
  · by_contra hlj
    exact hj (h i j (hx hp) (by simpa using hlj)).symm
  · by_contra hxj
    exact hj (h j i (by simpa using hxj) (hl hp))

/-- Moving a caller out of the lock keeps exclusion. -/
theorem Exclusive.update_idle {pc : Fin n → Pc} (h : Exclusive pc) (i : Fin n) :
    Exclusive (Function.update pc i .idle) :=
  h.update_of_le (by simp [Pc.exclusive]) (by simp [Pc.locked])

/-- The lock and the pid file: exclusion, and the pid file of a read-write guard is its own
until its `Release` has removed it, and gone once the removal succeeded. -/
structure LockInv (pc : Fin n → Pc) (pidFile : Option Nat) : Prop where
  exclusive : Exclusive pc
  pid_holding : ∀ i, pc i = .holding false → pidFile = some i.val
  pid_releasing : ∀ i ok, pc i = .releasing ok → pidFile = if ok then none else some i.val

/-- The invariant of a state; what each caller's last call returned plays no part in it. -/
def Inv (s : St n) : Prop := LockInv s.pc s.pidFile

theorem inv_init (pidFile : Option Nat) : Inv (St.init n pidFile) :=
  ⟨fun _ _ h => (nomatch h), fun _ h => (nomatch h), fun _ _ h => (nomatch h)⟩

/-- Every other caller is out of the lock while `i` holds it exclusively. -/
theorem LockInv.others_unlocked {pc : Fin n → Pc} {f : Option Nat} (h : LockInv pc f) {i : Fin n}
    (hi : (pc i).exclusive) {j : Fin n} (hj : j ≠ i) : (pc j).locked = false := by
  by_contra hl
  exact hj (h.exclusive i j hi (by simpa using hl)).symm

/-- Caller `i` moves, within exclusion, to a place the pid-file facts say nothing of, and the pid
file is left alone. -/
theorem LockInv.update {pc : Fin n → Pc} {f : Option Nat} (h : LockInv pc f) {i : Fin n} {p : Pc}
    (hex : Exclusive (Function.update pc i p)) (hp : p ≠ .holding false)
    (hr : ∀ ok, p ≠ .releasing ok) : LockInv (Function.update pc i p) f := by
  refine ⟨hex, fun j hj => ?_, fun j ok hj => ?_⟩ <;> by_cases hji : j = i
  · subst hji; simp [hp] at hj
  · rw [Function.update_noteq hji] at hj; exact h.pid_holding j hj
  · subst hji; simp [hr] at hj
  · rw [Function.update_noteq hji] at hj; exact h.pid_releasing j ok hj

/-- Caller `i` leaves the lock, and the pid file is left alone. -/
theorem LockInv.update_idle {pc : Fin n → Pc} {f : Option Nat} (h : LockInv pc f) (i : Fin n) :
    LockInv (Function.update pc i .idle) f :=
  h.update (h.exclusive.update_of_le (by simp [Pc.exclusive]) (by simp [Pc.locked])) nofun nofun

/-- Caller `i`, holding the lock exclusively, moves and sets the pid file: the pid-file facts
then concern `i` alone. -/
theorem LockInv.update_exclusive {pc : Fin n → Pc} {f : Option Nat} (h : LockInv pc f) {i : Fin n}
    (hi : (pc i).exclusive) {p : Pc} {f' : Option Nat} (hex : Exclusive (Function.update pc i p))
    (hhold : p = .holding false → f' = some i.val)
    (hrel : ∀ ok, p = .releasing ok → f' = if ok then none else some i.val) :
    LockInv (Function.update pc i p) f' := by
  refine ⟨hex, fun j hj => ?_, fun j ok hj => ?_⟩ <;> by_cases hji : j = i
  · subst hji; exact hhold (by simpa using hj)
  · rw [Function.update_noteq hji] at hj
    exact absurd (h.others_unlocked hi hji) (by simp [hj, Pc.locked])
  · subst hji; exact hrel ok (by simpa using hj)
  · rw [Function.update_noteq hji] at hj
    exact absurd (h.others_unlocked hi hji) (by simp [hj, Pc.locked])

theorem apply_inv {s : St n} {a : Act n} (h : Inv s) (he : (machine n).enabled s a) :
    Inv (s.apply a) := by
  cases a with
  | acquireOpen i readOnly r =>
    cases r
    · exact h.update (h.exclusive.update_of_le (by simp [Pc.exclusive]) (by simp [Pc.locked]))
        nofun nofun
    · exact h.update_idle i
    · exact h.update_idle i
  | acquireFlock i ok =>
    simp only [St.apply]
    cases hpc : s.pc i with
    | opened readOnly =>
      by_cases hc : ok && s.canFlock i readOnly
      · simp only [hc, if_true]
        simp only [Bool.and_eq_true, St.canFlock, decide_eq_true_eq] at hc
        replace hc := hc.2
        cases readOnly
        · exact h.update (h.exclusive.update (fun _ j hj => by simpa using hc j hj)
            (fun _ j hj => Pc.exclusive_eq_false (by simpa using hc j hj))) nofun nofun
        · exact h.update (h.exclusive.update (by simp [Pc.exclusive])
            (fun _ j hj => by simpa using hc j hj)) nofun nofun
      · simp only [hc]
        exact h.update_idle i
    | _ => exact h
  | acquireWrite i ok junk =>
    simp only [machine, St.enabled, decide_eq_true_eq] at he
    have hi : (s.pc i).exclusive := by simp [he, Pc.exclusive]
    simp only [St.apply]
    split
    · exact h.update_exclusive hi (h.exclusive.update_of_le (fun _ => hi) (by simp [he, Pc.locked]))
        (fun _ => rfl) nofun
    · exact h.update_exclusive hi (h.exclusive.update_of_le (by simp [Pc.exclusive])
        (by simp [Pc.locked])) nofun nofun
  | releaseRemove i ok =>
    simp only [machine, St.enabled, decide_eq_true_eq] at he
    have hi : (s.pc i).exclusive := by simp [he, Pc.exclusive]
    have hown := h.pid_holding i he
    refine h.update_exclusive hi (h.exclusive.update_of_le (fun _ => hi) (by simp [he, Pc.locked]))
      nofun (fun _ hp => ?_)
    cases hp
    cases ok <;> simp [St.apply, hown]
  | releaseClose i ok =>
    simp only [St.apply]
    split <;> exact h.update_idle i
  | crash i => exact h.update_idle i

theorem run_inv {stale : Option Nat} {as : List (Act n)} {s : St n}
    (h : (machine n).run (St.init n stale) as = some s) : Inv s :=
  Machine.run_invariant apply_inv (inv_init stale) h

end Exclusion

/-- **The lock excludes, and the pid file names its read-write holder**: in every interleaving of
any number of callers, whatever system calls fail and whoever dies, and whatever a dead process
left in the pid file, a caller past an exclusive `flock` is the only one holding the lock; a
read-write guard's pid file holds its pid; and after its `os.Remove`, until its `Close`, the
pid file is gone or still its own. -/
theorem run_lock_exclusive {n : Nat} {stale : Option Nat} {as : List (Act n)} {s : St n}
    (h : (machine n).run (St.init n stale) as = some s) :
    (∀ i j, (s.pc i).exclusive → (s.pc j).locked → i = j) ∧
    (∀ i, s.pc i = .holding false → s.pidFile = some i.val) ∧
    (∀ i ok, s.pc i = .releasing ok → s.pidFile = some i.val ∨ s.pidFile = none) :=
  have hinv := run_inv h
  ⟨hinv.exclusive, hinv.pid_holding, fun i ok hi => by
    have := hinv.pid_releasing i ok hi
    cases ok <;> simp [this]⟩

/-- Caller 0 takes the lock read-write over a stale pid file; caller 1's read-write call finds it
busy; caller 0 releases it, and caller 1 takes it. -/
def handover : List (Act 2) :=
  [.acquireOpen 0 false .ok, .acquireFlock 0 true, .acquireWrite 0 true none,
    .acquireOpen 1 false .ok, .acquireFlock 1 true,
    .releaseRemove 0 true, .releaseClose 0 true,
    .acquireOpen 1 false .ok, .acquireFlock 1 true, .acquireWrite 1 true none]

theorem run_lock_exclusive_handover :
    ∃ s, (machine 2).run (St.init 2 (some 77)) handover = some s ∧ s.pc 1 = .holding false ∧
      s.last 0 = some (.released true) ∧ s.pidFile = some 1 ∧
      (∀ i j, (s.pc i).exclusive → (s.pc j).locked → i = j) ∧
      (∀ i, s.pc i = .holding false → s.pidFile = some i.val) ∧
      (∀ i ok, s.pc i = .releasing ok → s.pidFile = some i.val ∨ s.pidFile = none) :=
  ⟨_, rfl, rfl, rfl, rfl, @run_lock_exclusive 2 (some 77) handover _ rfl⟩

/-! ## Release, and a second instance -/

/-- **A read-write `Release` that returns `nil` leaves no pid file and no lock**: when the
`Close` of a guard whose `os.Remove` has run returns, no caller holds the lock, whatever `Close`
returned; and if `Release` returns no error, the pid file is gone. -/
theorem run_release_frees {n : Nat} {stale : Option Nat} {as : List (Act n)} {s : St n}
    (h : (machine n).run (St.init n stale) as = some s) {i : Fin n} {removeOk : Bool}
    (hi : s.pc i = .releasing removeOk) (ok : Bool) :
    (∀ j, ((s.apply (.releaseClose i ok)).pc j).locked = false) ∧
    ((s.apply (.releaseClose i ok)).last i = some (.released true) →
      (s.apply (.releaseClose i ok)).pidFile = none) := by
  have hinv := run_inv h
  have happ : s.apply (.releaseClose i ok) = s.ret i .idle (.released (removeOk && ok)) := by
    simp [St.apply, hi]
  rw [happ]
  refine ⟨fun j => ?_, fun hl => ?_⟩
  · by_cases hji : j = i
    · subst hji
      simp [Pc.locked]
    · simpa [hji] using hinv.others_unlocked (by simp [hi, Pc.exclusive]) hji
  · have hr : removeOk = true := by
      simp only [St.ret, Function.update_same, Option.some.injEq, Outcome.released.injEq,
        Bool.and_eq_true] at hl
      exact hl.1
    simpa [hr] using hinv.pid_releasing i removeOk hi

/-- Caller `0` takes the lock read-write, and releases it with both system calls succeeding. -/
def acquireRelease : List (Act 1) :=
  [.acquireOpen 0 false .ok, .acquireFlock 0 true, .acquireWrite 0 true none, .releaseRemove 0 true]

theorem run_release_frees_acquireRelease :
    ∃ s, (machine 1).run (St.init 1 none) acquireRelease = some s ∧ s.pc 0 = .releasing true ∧
      (∀ j, ((s.apply (.releaseClose 0 true)).pc j).locked = false) ∧
      ((s.apply (.releaseClose 0 true)).last 0 = some (.released true) →
        (s.apply (.releaseClose 0 true)).pidFile = none) :=
  ⟨_, rfl, rfl, @run_release_frees 1 none acquireRelease _ rfl 0 true rfl true⟩

/-- **A second instance is locked out**: while a caller holds a read-write guard, another caller's
`AcquireDirectoryLock`, read-only or not, fails at its `flock` with the lock-busy error, and no
step of another caller creates, rewrites or removes the pid file. -/
theorem run_locked_out {n : Nat} {stale : Option Nat} {as : List (Act n)} {s : St n}
    (h : (machine n).run (St.init n stale) as = some s) {i j : Fin n}
    (hi : s.pc i = .holding false) (hji : j ≠ i) :
    (∀ readOnly ok, s.pc j = .opened readOnly →
      (s.apply (.acquireFlock j ok)).pc j = .idle ∧
        (s.apply (.acquireFlock j ok)).last j = some .lockBusy) ∧
    ∀ a : Act n, a.caller = j → (machine n).enabled s a → (s.apply a).pidFile = s.pidFile := by
  have hinv := run_inv h
  have hj := hinv.others_unlocked (by simp [hi, Pc.exclusive]) hji
  refine ⟨fun readOnly ok hpc => ?_, fun a ha he => ?_⟩
  · have hc : s.canFlock j readOnly = false := by
      simp only [St.canFlock, decide_eq_false_iff_not, not_forall]
      exact ⟨i, Ne.symm hji, by cases readOnly <;> simp [hi, Pc.exclusive, Pc.locked]⟩
    simp [St.apply, hpc, hc, St.ret]
  · cases a <;> simp only [Act.caller] at ha <;> subst ha
    case acquireOpen r => cases r <;> rfl
    case acquireFlock => simp only [St.apply]; split <;> (try split) <;> (try split) <;> rfl
    case acquireWrite =>
      simp only [machine, St.enabled, decide_eq_true_eq] at he
      simp [he, Pc.locked] at hj
    case releaseRemove =>
      simp only [machine, St.enabled, decide_eq_true_eq] at he
      simp [he, Pc.locked] at hj
    case releaseClose => simp only [St.apply]; split <;> rfl
    case crash => rfl

/-- Caller `0` holds the lock read-write; caller `1` has opened the directory for its own call. -/
def secondInstance : List (Act 2) :=
  [.acquireOpen 0 false .ok, .acquireFlock 0 true, .acquireWrite 0 true none,
    .acquireOpen 1 false .ok]

theorem run_locked_out_secondInstance :
    ∃ s, (machine 2).run (St.init 2 none) secondInstance = some s ∧ s.pc 0 = .holding false ∧
      (∀ readOnly ok, s.pc 1 = .opened readOnly →
        (s.apply (.acquireFlock 1 ok)).pc 1 = .idle ∧
          (s.apply (.acquireFlock 1 ok)).last 1 = some .lockBusy) ∧
      ∀ a : Act 2, a.caller = 1 → (machine 2).enabled s a → (s.apply a).pidFile = s.pidFile :=
  ⟨_, rfl, rfl, @run_locked_out 2 none secondInstance _ rfl 0 1 rfl (by decide)⟩

end DirLock

end NatsRequeue
