import Porto.Tasks.Interval

/-!
# Scheduler record and its calls

Package `tasks`, `src/pkg/tasks/scheduler.go:45–237`. Each exported method runs under
`s.lock` and is modelled as one function on the record; the lock itself, the ticker
goroutine and the blocking of `Stop`'s channel send are the subject of
`Porto.Tasks.Lifecycle`. The channel `quit` is modelled by the number of values in its
one-slot buffer. Logging calls are omitted.
-/

namespace Porto.Tasks

/-- `options`, `scheduler.go:214–216`; zero means "not specified". -/
structure Options where
  tickerInterval : Int := 0
  deriving DecidableEq, Repr

/-- An `Option`, `scheduler.go:210–212`: its `apply` rewrites the options. -/
abbrev Option' := Options → Options

/-- `WithTickerInterval`, `scheduler.go:233–237`. -/
def withTickerInterval (tickerInterval : Int) : Option' :=
  fun o => { o with tickerInterval := tickerInterval }

/-- Capacity of `make(chan bool, 1)`, `scheduler.go:78`. -/
def quitCapacity : Nat := 1

/-- `scheduler`, `scheduler.go:46–53`, with `quit` the number of buffered values. -/
structure Scheduler (τ : Type) where
  dops : Options
  tasks : List τ
  running : Bool
  quit : Nat
  deriving DecidableEq, Repr

/-- How a Go call ends: `nil`, a returned `error`, or a panic with its message. -/
inductive Ret
  | ok
  | error (msg : String)
  | panic (msg : String)
  deriving DecidableEq, Repr

/-- `errors.Errorf("schedule already started")`, `scheduler.go:155`. -/
def alreadyStartedMsg : String := "schedule already started"

/-- `errors.Errorf("the scheduler is not running")`, `scheduler.go:201`. -/
def notRunningMsg : String := "the scheduler is not running"

/-- The panic of `time.NewTicker` on an interval that is not positive. -/
def nonPositiveIntervalMsg : String := "non-positive interval for NewTicker"

variable {τ : Type}

namespace Scheduler

/-- `NewScheduler`, `scheduler.go:74–86`: no tasks, not running, options applied in order. -/
def newScheduler (ops : List Option') : Scheduler τ :=
  { dops := ops.foldl (fun o op => op o) {}, tasks := [], running := false, quit := 0 }

/-- `Count`, `scheduler.go:89–91`. -/
def count (s : Scheduler τ) : Nat := s.tasks.length

/-- `Add`, `scheduler.go:119–125`. -/
def add (s : Scheduler τ) (j : τ) : Scheduler τ := { s with tasks := s.tasks ++ [j] }

/-- `Clear`, `scheduler.go:136–140`. -/
def clear (s : Scheduler τ) : Scheduler τ := { s with tasks := [] }

/-- `IsRunning`, `scheduler.go:143–147`. -/
def isRunning (s : Scheduler τ) : Bool := s.running

/-- `Start`, `scheduler.go:151–194`, given each task's `Duration()`. `ok` means the
ticker goroutine was spawned. `running` is set before the ticker is built, so it is
also set when `time.NewTicker` panics. -/
def start (duration : τ → Int) (s : Scheduler τ) : Ret × Scheduler τ :=
  if s.running then (.error alreadyStartedMsg, s)
  else if 0 < tickerInterval s.dops.tickerInterval (s.tasks.map duration) then
    (.ok, { s with running := true })
  else (.panic nonPositiveIntervalMsg, { s with running := true })

/-- The check of `Stop` under the lock, `scheduler.go:198–202`: an error when not
running, `none` when it goes on to send on `s.quit`. `running` is left as it is. -/
def stopCheck (s : Scheduler τ) : Option Ret :=
  if s.running then none else some (.error notRunningMsg)

/-- `s.quit <- true`, `scheduler.go:204`: `none` while the buffer is full. -/
def sendQuit (s : Scheduler τ) : Option (Scheduler τ) :=
  if s.quit < quitCapacity then some { s with quit := s.quit + 1 } else none

/-- `<-s.quit` in the ticker goroutine, `scheduler.go:186`: `none` while empty. -/
def receiveQuit (s : Scheduler τ) : Option (Scheduler τ) :=
  if 0 < s.quit then some { s with quit := s.quit - 1 } else none

/-- `NewScheduler` is not running. -/
@[simp] theorem running_newScheduler (ops : List Option') :
    (newScheduler ops : Scheduler τ).running = false := rfl

/-- `NewScheduler`'s quit buffer is empty. -/
@[simp] theorem quit_newScheduler (ops : List Option') :
    (newScheduler ops : Scheduler τ).quit = 0 := rfl

/-- `Add` leaves `running` as it is. -/
@[simp] theorem running_add (s : Scheduler τ) (j : τ) : (s.add j).running = s.running := rfl

/-- `Add` leaves the quit buffer as it is. -/
@[simp] theorem quit_add (s : Scheduler τ) (j : τ) : (s.add j).quit = s.quit := rfl

/-- `Add` appends the task. -/
@[simp] theorem tasks_add (s : Scheduler τ) (j : τ) : (s.add j).tasks = s.tasks ++ [j] := rfl

/-- `Clear` leaves `running` as it is. -/
@[simp] theorem running_clear (s : Scheduler τ) : s.clear.running = s.running := rfl

/-- `Clear` leaves the quit buffer as it is. -/
@[simp] theorem quit_clear (s : Scheduler τ) : s.clear.quit = s.quit := rfl

/-- `Clear` drops every task. -/
@[simp] theorem tasks_clear (s : Scheduler τ) : s.clear.tasks = [] := rfl

/-- Every outcome of `Start`: a refusal that changes nothing, or `running` set with
the ticker spawned exactly when the interval is positive. -/
theorem start_cases (duration : τ → Int) (s : Scheduler τ) :
    (s.running = true ∧ start duration s = (.error alreadyStartedMsg, s)) ∨
    (s.running = false ∧
      0 < tickerInterval s.dops.tickerInterval (s.tasks.map duration) ∧
      start duration s = (.ok, { s with running := true })) ∨
    (s.running = false ∧
      ¬ 0 < tickerInterval s.dops.tickerInterval (s.tasks.map duration) ∧
      start duration s = (.panic nonPositiveIntervalMsg, { s with running := true })) := by
  unfold start
  cases s.running <;> by_cases h : 0 < tickerInterval s.dops.tickerInterval (s.tasks.map duration)
    <;> simp [h]

/-- `Start` returns `nil` exactly when not yet running and the interval is positive. -/
theorem start_ok_iff (duration : τ → Int) (s : Scheduler τ) :
    (start duration s).1 = .ok ↔
      s.running = false ∧ 0 < tickerInterval s.dops.tickerInterval (s.tasks.map duration) := by
  rcases start_cases duration s with ⟨h, he⟩ | ⟨h, hi, he⟩ | ⟨h, hi, he⟩
  · simp [he, h]
  · simp [he, h, hi]
  · simp [he, h, hi]

/-- A scheduler not yet running, with no negative option and tasks of positive Duration,
starts: `time.NewTicker` is handed a positive interval and does not panic. -/
theorem start_ok_of_nonneg (duration : τ → Int) (s : Scheduler τ) (hr : s.running = false)
    (ho : 0 ≤ s.dops.tickerInterval) (hpos : ∀ t ∈ s.tasks, 0 < duration t) :
    start duration s = (.ok, { s with running := true }) := by
  have hi : 0 < tickerInterval s.dops.tickerInterval (s.tasks.map duration) :=
    tickerInterval_pos ho (by simpa using hpos)
  simp [start, hr, hi]

/-- `NewScheduler()` with no option and one task added. -/
def oneTask : Scheduler Unit := (newScheduler [] : Scheduler Unit).add ()

/-- With no option and one task of Duration 50ns, `Start` spawns the ticker. -/
theorem start_ok_of_nonneg_example :
    oneTask.running = false ∧ 0 ≤ oneTask.dops.tickerInterval ∧
      (∀ t ∈ oneTask.tasks, 0 < (fun _ => (50 : Int)) t) ∧
      start (fun _ => 50) oneTask = (.ok, { oneTask with running := true }) :=
  ⟨rfl, by decide, by decide, start_ok_of_nonneg _ _ rfl (by decide) (by decide)⟩

/-- `Stop` goes on to its send exactly when the scheduler is running. -/
theorem stopCheck_eq_none_iff (s : Scheduler τ) : s.stopCheck = none ↔ s.running = true := by
  cases h : s.running <;> simp [stopCheck, h]

end Scheduler

end Porto.Tasks
