import PackageOperator.Bootstrap.Bootstrapper

/-! The bootstrap window of both bootstrappers. Self-bootstrap derives a cancellable context,
starts `cancelWhenPackageAvailable` in a goroutine and runs the manager in the foreground under
that context. The poller cancels the context once it sees the ClusterPackage available; the
manager, controller-runtime's, returns nil only once its context is done, or an error of its own
at any time. The two tasks run concurrently, so the window is a state stepped by any
interleaving of their steps and of the parent context's cancellation. While the parent stays
live, the poller in the window ends as the poller on its own does, and the foreground call
returns nil only after the poller's cancellation. -/

namespace PackageOperator.Bootstrap
open Api Cluster Client Manager

/-- Where the poller goroutine is: before its immediate check, waiting on its ticker, or ended. -/
inductive PollerState where
  | starting
  | waiting
  | ended (outcome : PollerOutcome)

def PollerState.outcome : PollerState → PollerOutcome
  | .ended outcome => outcome
  | _ => .polling

/-- The two tasks and the context they share. -/
structure Window where
  poller : PollerState
  /-- What the foreground `runManager` call returned, once it has. -/
  manager : Option (Except Error Unit)
  /-- The poller called `cancel`. -/
  cancelled : Bool
  /-- The context the window was derived from is done. -/
  parentDone : Bool

namespace Window

/-- The window's context is done. -/
def done (s : Window) : Bool := s.cancelled || s.parentDone

/-- The window as self-bootstrap opens it: the poller started, the manager running, and the
context live. -/
def start : Window := ⟨.starting, none, false, false⟩

/-- One step of the interleaving. -/
inductive Step where
  /-- The poller's condition runs against the world as it then is: the immediate check, or a
  tick that its `select` took. -/
  | poll (w : World)
  /-- The poller's `select` takes the context's Done channel. -/
  | takeDone
  /-- The parent context is cancelled. -/
  | parentCancelled
  /-- The manager returns, with nil only once its context is done. -/
  | managerReturns (result : Except Error Unit)

/-- The condition's verdict: cancel on `Available`, panic on an error, and `notYet` otherwise. -/
def afterCondition (s : Window) (w : World) (notYet : Window) : Window :=
  match condition w with
  | .ok true => { s with poller := .ended .cancelled, cancelled := true }
  | .error err => { s with poller := .ended (.panicked err) }
  | .ok false => notYet

def step (s : Window) : Step → Window
  | .poll w =>
    match s.poller with
    | .starting =>
      afterCondition s w
        (if s.done then { s with poller := .ended (.panicked ErrWaitTimeout) } else { s with poller := .waiting })
    | .waiting => afterCondition s w s
    | .ended _ => s
  | .takeDone =>
    match s.poller with
    | .waiting => if s.done then { s with poller := .ended (.panicked ErrWaitTimeout) } else s
    | _ => s
  | .parentCancelled => { s with parentDone := true }
  | .managerReturns result =>
    match s.manager, result with
    | none, .ok () => if s.done then { s with manager := some (.ok ()) } else s
    | none, .error err => { s with manager := some (.error err) }
    | some _, _ => s

def run (s : Window) (schedule : List Step) : Window := schedule.foldl step s

@[simp] theorem run_nil (s : Window) : s.run [] = s := rfl

@[simp] theorem run_cons (s : Window) (st : Step) (schedule : List Step) :
    s.run (st :: schedule) = (s.step st).run schedule := rfl

/-- The worlds the poller's condition read, in order. -/
def polls : List Step → List World
  | [] => []
  | .poll w :: schedule => w :: polls schedule
  | _ :: schedule => polls schedule

/-! ## The poller in the window -/

/-- How the poll's result ends the poller: `cancelWhenPackageAvailable`'s last lines. -/
def pollerOutcome : Option (Option Error) → PollerOutcome
  | none => .polling
  | some (some err) => .panicked err
  | some none => .cancelled

theorem cancelWhenPackageAvailable_live (first : World) (wakes : List Wake) :
    cancelWhenPackageAvailable first false wakes = pollerOutcome (waitFor (.tick first :: wakes)) := by
  cases verdict : condition first with
  | error err => simp [cancelWhenPackageAvailable, pollImmediateUntilWithContext, waitFor, verdict, pollerOutcome]
  | ok available =>
    cases available
    · rcases ticks : waitFor wakes with _ | _ | _ <;>
        simp [cancelWhenPackageAvailable, pollImmediateUntilWithContext, waitFor, verdict, ticks, pollerOutcome]
    · simp [cancelWhenPackageAvailable, pollImmediateUntilWithContext, waitFor, verdict, pollerOutcome]

/-- The manager's return touches neither the poller nor the context. -/
theorem step_managerReturns (s : Window) (result : Except Error Unit) :
    (s.step (.managerReturns result)).poller = s.poller ∧ (s.step (.managerReturns result)).done = s.done := by
  simp only [step]
  split <;> (try split) <;> exact ⟨rfl, rfl⟩

/-- An ended poller stays ended. -/
theorem run_ended {s : Window} {outcome : PollerOutcome} (ended : s.poller = .ended outcome)
    (schedule : List Step) : (s.run schedule).poller = .ended outcome := by
  induction schedule generalizing s with
  | nil => exact ended
  | cons st schedule ih =>
    refine ih ?_
    cases st with
    | poll w => simp [step, ended]
    | takeDone => simp [step, ended]
    | parentCancelled => exact ended
    | managerReturns result => exact (step_managerReturns s result).1.trans ended

/-- A poll that finds the ClusterPackage not yet available leaves an undecided poller waiting
and the context live. -/
theorem step_poll_pending {s : Window} (live : s.done = false)
    (undecided : s.poller = .starting ∨ s.poller = .waiting) {w : World} (pending : condition w = .ok false) :
    (s.step (.poll w)).poller = .waiting ∧ (s.step (.poll w)).done = false := by
  rcases undecided with starting | waiting
  · simp only [step, afterCondition, starting, pending, live]
    exact ⟨rfl, live⟩
  · simp only [step, afterCondition, waiting, pending, true_and]
    exact live

/-- Done is not ready while the context is live. -/
theorem step_takeDone_live {s : Window} (live : s.done = false) : s.step .takeDone = s := by
  simp only [step]
  split <;> simp [live]

/-- With the context live, a poller before its verdict ends as the poll over the worlds it
reads from then on. -/
theorem run_poller_undecided {s : Window} (live : s.done = false)
    (undecided : s.poller = .starting ∨ s.poller = .waiting) (schedule : List Step)
    (parentLive : Step.parentCancelled ∉ schedule) :
    (s.run schedule).poller.outcome = pollerOutcome (waitFor ((polls schedule).map .tick)) := by
  induction schedule generalizing s with
  | nil => rcases undecided with starting | waiting <;> simp [PollerState.outcome, pollerOutcome, polls, waitFor, *]
  | cons st schedule ih =>
    have rest : Step.parentCancelled ∉ schedule := fun member => parentLive (List.mem_cons_of_mem _ member)
    cases st with
    | poll w =>
      simp only [run_cons, polls, List.map_cons, waitFor]
      cases verdict : condition w with
      | error err =>
        have ended : (s.step (.poll w)).poller = .ended (.panicked err) := by
          rcases undecided with starting | waiting <;> simp [step, afterCondition, verdict, *]
        rw [run_ended ended]; rfl
      | ok available =>
        cases available with
        | true =>
          have ended : (s.step (.poll w)).poller = .ended .cancelled := by
            rcases undecided with starting | waiting <;> simp [step, afterCondition, verdict, *]
          rw [run_ended ended]; rfl
        | false =>
          obtain ⟨waiting, live'⟩ := step_poll_pending live undecided verdict
          exact ih live' (.inr waiting) rest
    | takeDone =>
      rw [run_cons, step_takeDone_live live]
      exact ih live undecided rest
    | parentCancelled => exact absurd (List.mem_cons_self _ _) parentLive
    | managerReturns result =>
      obtain ⟨poller, done⟩ := step_managerReturns s result
      exact ih (done.trans live) (poller ▸ undecided) rest

/-! ## The foreground call -/

/-- While the parent stays live: the context is done exactly when the poller has cancelled it,
and the manager has returned nil only after that. -/
def Live (s : Window) : Prop :=
  s.parentDone = false ∧ (s.cancelled = true ↔ s.poller = .ended .cancelled) ∧
    (s.manager = some (.ok ()) → s.cancelled = true)

theorem start_live : start.Live := ⟨rfl, by simp [start], nofun⟩

theorem step_live {s : Window} (live : s.Live) {st : Step} (notParent : st ≠ .parentCancelled) :
    (s.step st).Live := by
  obtain ⟨parent, cancelledIff, returned⟩ := live
  cases st with
  | poll w =>
    simp only [step]
    split
    · next starting =>
      have : s.cancelled = false := by simpa [starting] using cancelledIff
      unfold afterCondition
      split <;> simp_all [Live, done]
    · next waiting =>
      have : s.cancelled = false := by simpa [waiting] using cancelledIff
      unfold afterCondition
      split <;> simp_all [Live]
    · exact ⟨parent, cancelledIff, returned⟩
  | takeDone =>
    simp only [step]
    split
    · next waiting =>
      have : s.cancelled = false := by simpa [waiting] using cancelledIff
      simp_all [Live, done]
    · exact ⟨parent, cancelledIff, returned⟩
  | parentCancelled => exact absurd rfl notParent
  | managerReturns result =>
    simp only [step]
    split
    · split
      · next isDone => exact ⟨parent, cancelledIff, fun _ => by simpa [done, parent] using isDone⟩
      · exact ⟨parent, cancelledIff, returned⟩
    · exact ⟨parent, cancelledIff, nofun⟩
    · exact ⟨parent, cancelledIff, returned⟩

theorem run_live {s : Window} (live : s.Live) (schedule : List Step)
    (parentLive : Step.parentCancelled ∉ schedule) : (s.run schedule).Live := by
  induction schedule generalizing s with
  | nil => exact live
  | cons st schedule ih =>
    exact ih (step_live live fun same => parentLive (same ▸ List.mem_cons_self _ _))
      fun member => parentLive (List.mem_cons_of_mem _ member)

/-- Over any interleaving in which the parent context stays live, the poller in the window ends
as `cancelWhenPackageAvailable` on its own does, its first poll the immediate check and the
others the ticks its `select` took; and the foreground call has returned nil only if the poller
has cancelled the context. -/
theorem run_from_start (schedule : List Step) (parentLive : Step.parentCancelled ∉ schedule) :
    (start.run schedule).poller.outcome = (match polls schedule with
      | [] => .polling
      | first :: rest => cancelWhenPackageAvailable first false (rest.map .tick)) ∧
    ((start.run schedule).manager = some (.ok ()) → (start.run schedule).poller.outcome = .cancelled) := by
  refine ⟨?_, fun returned => ?_⟩
  · rw [@run_poller_undecided start rfl (.inl rfl) schedule parentLive]
    cases polls schedule <;> simp [cancelWhenPackageAvailable_live, pollerOutcome, waitFor]
  · obtain ⟨-, cancelledIff, returnedOk⟩ := run_live start_live schedule parentLive
    rw [cancelledIff.mp (returnedOk returned)]
    rfl

/-- The spec's scenario: the immediate check and the first tick see the ClusterPackage pending,
the second tick sees it available, and the manager then returns. -/
def secondTickAvailable : List Step :=
  [.poll Bootstrapper.pendingWorld, .poll Bootstrapper.pendingWorld, .poll Bootstrapper.availableWorld,
    .managerReturns (.ok ())]

theorem run_available_on_second_tick :
    Step.parentCancelled ∉ secondTickAvailable ∧
    ((start.run secondTickAvailable).poller.outcome = (match polls secondTickAvailable with
        | [] => .polling
        | first :: rest => cancelWhenPackageAvailable first false (rest.map .tick)) ∧
      ((start.run secondTickAvailable).manager = some (.ok ()) →
        (start.run secondTickAvailable).poller.outcome = .cancelled)) ∧
    (start.run secondTickAvailable).manager = some (.ok ()) :=
  have parentLive : Step.parentCancelled ∉ secondTickAvailable := by simp [secondTickAvailable]
  ⟨parentLive, run_from_start _ parentLive, rfl⟩

/-- When the parent context is cancelled while the poller waits, the manager returns nil and
the poller may still take Done and panic with `ErrWaitTimeout`, aborting the process. -/
theorem run_parent_cancelled_panics {w : World} (pending : condition w = .ok false) :
    (start.run [.poll w, .parentCancelled, .managerReturns (.ok ()), .takeDone]).manager = some (.ok ()) ∧
    (start.run [.poll w, .parentCancelled, .managerReturns (.ok ()), .takeDone]).poller.outcome =
      .panicked ErrWaitTimeout := by
  simp [step, afterCondition, pending, start, done, PollerState.outcome]

end Window

end PackageOperator.Bootstrap
