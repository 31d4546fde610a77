import NatsRequeue.Bytes

/-!
# Machines of goroutines

The stats publisher and the directory lock are modelled as state machines in the same way as the
supervisor: every goroutine (or process) is a program counter in one state record, an action is
one atomic statement of one of them, and an action is taken only where it is enabled.  A
`Machine` packages the two functions a model gives, `enabled` and `apply`, and this file proves
once what every such model needs of its runs: how they compose (`Machine.run_append`), that a
property every enabled action keeps holds at the end of every run (`Machine.run_invariant`), and
that a measure the actions of one kind raise by one counts them (`Machine.run_countP`).

A run is a list of actions, and `Machine.run` is `none` as soon as one of them is not enabled:
a statement about every run is a statement about every interleaving of the goroutines.
-/

set_option autoImplicit false

namespace NatsRequeue

/-- A state machine: which actions can be taken in a state, and the state each leads to. -/
structure Machine (σ α : Type) where
  enabled : σ → α → Bool
  apply : σ → α → σ

namespace Machine

variable {σ α : Type} (m : Machine σ α)

/-- One action, where it is enabled. -/
def step (s : σ) (a : α) : Option σ := if m.enabled s a then some (m.apply s a) else none

/-- A run of actions; `none` if one of them is not enabled when its turn comes. -/
def run : σ → List α → Option σ
  | s, [] => some s
  | s, a :: as => (m.step s a).bind fun s' => run s' as

variable {m}

theorem step_eq_some {s s' : σ} {a : α} : m.step s a = some s' ↔ m.enabled s a ∧ m.apply s a = s' := by
  unfold step
  split <;> simp_all

variable (m)

theorem run_append (s : σ) (as as' : List α) :
    m.run s (as ++ as') = (m.run s as).bind fun s' => m.run s' as' := by
  induction as generalizing s with
  | nil => rfl
  | cons a as ih =>
    show (m.step s a).bind (fun s' => m.run s' (as ++ as')) = _
    simp only [run, ih, Option.bind_assoc]

variable {m}

/-- A property that every enabled action keeps holds at the end of every run. -/
theorem run_invariant {P : σ → Prop} (hstep : ∀ {s : σ} {a : α}, P s → m.enabled s a → P (m.apply s a))
    {s s' : σ} (h : P s) {as : List α} (hr : m.run s as = some s') : P s' := by
  induction as generalizing s with
  | nil => cases hr; exact h
  | cons a as ih =>
    obtain ⟨s₁, h₁, hr⟩ := Option.bind_eq_some.1 hr
    obtain ⟨he, rfl⟩ := step_eq_some.1 h₁
    exact ih (hstep h he) hr

/-- A measure that every enabled action keeps, except that the actions `q` picks raise it by one,
counts those actions in every run: the state remembers how many of them ran. -/
theorem run_countP {P : σ → Prop} (hstep : ∀ {s : σ} {a : α}, P s → m.enabled s a → P (m.apply s a))
    {f : σ → Nat} {q : α → Bool}
    (hf : ∀ {s : σ} {a : α}, P s → m.enabled s a → f (m.apply s a) = f s + if q a then 1 else 0)
    {s s' : σ} (h : P s) {as : List α} (hr : m.run s as = some s') : f s' = f s + as.countP q := by
  induction as generalizing s with
  | nil => cases hr; rfl
  | cons a as ih =>
    obtain ⟨s₁, h₁, hr⟩ := Option.bind_eq_some.1 hr
    obtain ⟨he, rfl⟩ := step_eq_some.1 h₁
    rw [ih (hstep h he) hr, hf h he, List.countP_cons]
    omega

end Machine

end NatsRequeue
