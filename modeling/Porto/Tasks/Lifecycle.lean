import Porto.Tasks.Scheduler
import Porto.Tasks.Runnable

/-!
# Scheduler lifecycle under interleaving

Package `tasks`, `src/pkg/tasks/scheduler.go:93–207`: one caller issuing the
`Scheduler` calls, interleaved with the ticker goroutines that `Start` spawns
(`:180–191`). A critical section under `s.lock` that cannot block is one step. `Stop`
sends on `s.quit` (`:204`) while it holds `s.lock`, and the send waits while the
one-slot buffer is full, so the lock is free exactly when the caller is not in that
send. A tick enters `runPending` (`:128–133`), whose `getRunnableTasks` takes the lock;
its `sort.Sort` is any conforming sort for the tasks' scheduled times at that moment.
An unrecovered panic ends the process.
-/

namespace Porto.Tasks

/-- Where a ticker goroutine of `Start` stands, `scheduler.go:181–191`: in the `select`,
in `runPending` waiting for `s.lock`, or returned after `<-s.quit`. -/
inductive Ticker
  | selecting
  | locking
  | exited
  deriving DecidableEq, Repr

/-- Where the caller stands: `sending` is `Stop` at `s.quit <- true`, holding `s.lock`. -/
inductive Caller
  | idle
  | sending
  deriving DecidableEq, Repr

/-- The scheduler, its ticker goroutines in spawn order, the caller, and whether a panic
has ended the process. -/
structure Sys (τ : Type) where
  sched : Scheduler τ
  tickers : List Ticker
  caller : Caller
  crashed : Bool

/-- A step of the caller (one per call, `Stop` split at its send) or of a ticker. -/
inductive Event (τ : Type)
  | add (task : τ)
  | clear
  | count
  | isRunning
  | start
  | stop
  | send
  | tick (i : Nat)
  | runPending (i : Nat) (nextScheduledTime : τ → Int) (shouldRun : τ → Bool)
  | receive (i : Nat)

variable {τ : Type}

namespace Sys

/-- A scheduler fresh from `NewScheduler`, before any call. -/
def init (ops : List Option') : Sys τ := ⟨Scheduler.newScheduler ops, [], .idle, false⟩

/-- When a step can be taken. A call needs the caller idle, which also means `s.lock`
is free; a ticker step needs its goroutine at the matching point. -/
def Enabled (s : Sys τ) : Event τ → Prop
  | .add _ | .clear | .count | .isRunning | .start | .stop =>
    s.crashed = false ∧ s.caller = .idle
  | .send => s.crashed = false ∧ s.caller = .sending ∧ s.sched.quit < quitCapacity
  | .tick i => s.crashed = false ∧ s.tickers[i]? = some .selecting
  | .runPending i _ _ => s.crashed = false ∧ s.caller = .idle ∧ s.tickers[i]? = some .locking
  | .receive i => s.crashed = false ∧ s.tickers[i]? = some .selecting ∧ 0 < s.sched.quit

/-- Whether a step can be taken is decided field by field. -/
instance (s : Sys τ) (e : Event τ) : Decidable (Enabled s e) := by
  cases e <;> unfold Enabled <;> infer_instance

section Steps

variable (duration : τ → Int) (srt : ∀ next : τ → Int, SortBy (less next))

/-- The effect of a step, from the per-call functions of `Porto.Tasks.Scheduler`. -/
def next (s : Sys τ) : Event τ → Sys τ
  | .add j => { s with sched := s.sched.add j }
  | .clear => { s with sched := s.sched.clear }
  | .count | .isRunning => s
  | .start =>
    match Scheduler.start duration s.sched with
    | (.ok, sc) => { s with sched := sc, tickers := s.tickers ++ [.selecting] }
    | (.error _, sc) => { s with sched := sc }
    | (.panic _, sc) => { s with sched := sc, crashed := true }
  | .stop => if s.sched.stopCheck = none then { s with caller := .sending } else s
  | .send =>
    match s.sched.sendQuit with
    | some sc => { s with sched := sc, caller := .idle }
    | none => s
  | .tick i => { s with tickers := s.tickers.set i .locking }
  | .runPending i nextScheduledTime shouldRun =>
    { s with
      sched := { s.sched with
        tasks := (getRunnableTasks nextScheduledTime (srt nextScheduledTime) shouldRun
          s.sched.tasks).2 }
      tickers := s.tickers.set i .selecting }
  | .receive i =>
    match s.sched.receiveQuit with
    | some sc => { s with sched := sc, tickers := s.tickers.set i .exited }
    | none => s

/-- One enabled step. -/
def Step (s : Sys τ) (e : Event τ) (u : Sys τ) : Prop := Enabled s e ∧ u = next duration srt s e

/-- Runs of any length. -/
inductive Execution : Sys τ → Sys τ → Prop
  | refl (s : Sys τ) : Execution s s
  | tail {s u v : Sys τ} {e : Event τ} : Execution s u → Step duration srt u e v → Execution s v

/-- States some run from `NewScheduler` reaches. -/
def Reachable (s : Sys τ) : Prop := ∃ ops, Execution duration srt (init ops) s

/-- The state after a list of steps, enabled or not. -/
def runTrace (s : Sys τ) (es : List (Event τ)) : Sys τ := es.foldl (next duration srt) s

/-- Every step of the list is enabled where it is taken. -/
def ValidTrace : Sys τ → List (Event τ) → Prop
  | _, [] => True
  | s, e :: es => Enabled s e ∧ ValidTrace (next duration srt s e) es

/-- Whether a list of steps can be taken is decided step by step. -/
instance (s : Sys τ) (es : List (Event τ)) : Decidable (ValidTrace duration srt s es) := by
  induction es generalizing s with
  | nil => exact isTrue trivial
  | cons e es ih => exact @instDecidableAnd _ _ _ (ih _)

/-- A list of steps that can each be taken extends every run that ends where it starts. -/
theorem validTrace_execution {s : Sys τ} {es : List (Event τ)}
    (h : ValidTrace duration srt s es) :
    ∀ u, Execution duration srt u s → Execution duration srt u (runTrace duration srt s es) := by
  induction es generalizing s with
  | nil => exact fun _ hu => hu
  | cons e es ih => exact fun u hu => ih h.2 u (.tail hu ⟨h.1, rfl⟩)

/-- A list of steps from `NewScheduler` that can each be taken ends in a reachable state. -/
theorem validTrace_reachable {ops : List Option'} {es : List (Event τ)}
    (h : ValidTrace duration srt (init ops) es) :
    Reachable duration srt (runTrace duration srt (init ops) es) :=
  ⟨ops, validTrace_execution duration srt h _ (.refl _)⟩

/-! ### Concrete runs

The concrete runs below have tasks of type `Unit`, each of Duration 1ns, sorted by merge
sort, from `NewScheduler()` with no option. -/

/-- Every task of the concrete runs has Duration 1ns. -/
def unitDuration : Unit → Int := fun _ => 1

/-- Merge sort, the `sort.Sort` of the concrete runs. -/
def unitSort : ∀ next : Unit → Int, SortBy (less next) := fun n => mergeSortBy n

/-- The state a list of steps reaches from `NewScheduler()` in the concrete setting. -/
def unitRun (es : List (Event Unit)) : Sys Unit := runTrace unitDuration unitSort (init []) es

/-- `Start`, then a `Stop` whose send completes. -/
def startStop : List (Event Unit) := [.start, .stop, .send]

/-! ### What one step can do -/

/-- Every outcome of a `Start` step. -/
theorem next_start_cases (s : Sys τ) :
    (s.sched.running = true ∧ next duration srt s .start = s) ∨
    (s.sched.running = false ∧
      0 < tickerInterval s.sched.dops.tickerInterval (s.sched.tasks.map duration) ∧
      next duration srt s .start =
        { s with sched := { s.sched with running := true },
                 tickers := s.tickers ++ [.selecting] }) ∨
    (s.sched.running = false ∧
      next duration srt s .start =
        { s with sched := { s.sched with running := true }, crashed := true }) := by
  rcases Scheduler.start_cases duration s.sched with ⟨h, he⟩ | ⟨h, hi, he⟩ | ⟨h, -, he⟩
  · exact .inl ⟨h, by simp only [next, he]⟩
  · exact .inr (.inl ⟨h, hi, by simp only [next, he]⟩)
  · exact .inr (.inr ⟨h, by simp only [next, he]⟩)

/-- A `Stop` step either reports "not running" and changes nothing, or starts its send. -/
theorem next_stop (s : Sys τ) :
    next duration srt s .stop = if s.sched.running then { s with caller := .sending } else s := by
  simp only [next, Scheduler.stopCheck_eq_none_iff]

/-- A send step fills the buffer and frees the caller when there is room. -/
theorem next_send (s : Sys τ) :
    next duration srt s .send =
      if s.sched.quit < quitCapacity then
        { s with sched := { s.sched with quit := s.sched.quit + 1 }, caller := .idle }
      else s := by
  by_cases h : s.sched.quit < quitCapacity <;> simp [next, Scheduler.sendQuit, h]

/-- A receive step takes a buffered value and ends the goroutine. -/
theorem next_receive (s : Sys τ) (i : Nat) :
    next duration srt s (.receive i) =
      if 0 < s.sched.quit then
        { s with sched := { s.sched with quit := s.sched.quit - 1 },
                 tickers := s.tickers.set i .exited }
      else s := by
  by_cases h : 0 < s.sched.quit <;> simp [next, Scheduler.receiveQuit, h]

/-- Once set, `running` is never cleared: no step of the package writes `false` to it. -/
theorem running_next {s : Sys τ} (e : Event τ) (h : s.sched.running = true) :
    (next duration srt s e).sched.running = true := by
  cases e with
  | start =>
    rcases next_start_cases duration srt s with ⟨-, he⟩ | ⟨-, -, he⟩ | ⟨-, he⟩ <;> simp [he, h]
  | stop => rw [next_stop]; split <;> simp [h]
  | send => rw [next_send]; split <;> simp [h]
  | receive i => rw [next_receive]; split <;> simp [h]
  | _ => simpa [next] using h

/-- Along every run, `running` stays set once it is set. -/
theorem running_execution {s u : Sys τ} (hx : Execution duration srt s u)
    (h : s.sched.running = true) : u.sched.running = true := by
  induction hx with
  | refl => exact h
  | tail _ hs ih => rw [hs.2]; exact running_next duration srt _ ih

/-- What holds in every reachable state: the channel keeps its capacity, `Start` spawns
at most one ticker over the scheduler's life, and before the first `Start` nothing moves. -/
structure Inv (s : Sys τ) : Prop where
  quit_le : s.sched.quit ≤ quitCapacity
  tickers_le : s.tickers.length ≤ 1
  fresh : s.sched.running = false → s.tickers = [] ∧ s.sched.quit = 0 ∧ s.caller = .idle
  spawned : s.sched.running = true → s.crashed = false → s.tickers.length = 1

/-- `NewScheduler` establishes `Inv`. -/
theorem inv_init (ops : List Option') : Inv (init ops : Sys τ) :=
  ⟨by simp [init, quitCapacity], by simp [init], fun _ => ⟨rfl, rfl, rfl⟩,
    fun h => by simp [init] at h⟩

/-- A caller blocked in `Stop`'s send has seen the scheduler running. -/
theorem Inv.running_of_sending {s : Sys τ} (hs : Inv s) (h : s.caller = .sending) :
    s.sched.running = true := by
  cases hr : s.sched.running
  · simp [(hs.fresh hr).2.2] at h
  · rfl

/-- A ticker step only moves its own goroutine. -/
theorem Inv.set_tickers {s : Sys τ} (hs : Inv s) (i : Nat) (t : Ticker) :
    Inv { s with tickers := s.tickers.set i t } :=
  ⟨hs.quit_le, by simpa using hs.tickers_le,
    fun h => by simpa [(hs.fresh h).1] using hs.fresh h,
    fun h hc => by simpa using hs.spawned h hc⟩

/-- Every enabled step keeps `Inv`. -/
theorem inv_next {s : Sys τ} {e : Event τ} (hs : Inv s) (he : Enabled s e) :
    Inv (next duration srt s e) := by
  cases e with
  | add j => exact ⟨hs.quit_le, hs.tickers_le, hs.fresh, hs.spawned⟩
  | clear => exact ⟨hs.quit_le, hs.tickers_le, hs.fresh, hs.spawned⟩
  | count => exact hs
  | isRunning => exact hs
  | start =>
    rcases next_start_cases duration srt s with ⟨-, h⟩ | ⟨hr, -, h⟩ | ⟨hr, h⟩ <;> rw [h]
    · exact hs
    · have ht := (hs.fresh hr).1
      exact ⟨hs.quit_le, by simp [ht], by simp, fun _ _ => by simp [ht]⟩
    · exact ⟨hs.quit_le, by simp [(hs.fresh hr).1], by simp, by simp⟩
  | stop =>
    rw [next_stop]; split
    · next hr => exact ⟨hs.quit_le, hs.tickers_le, fun h => by simp [hr] at h, hs.spawned⟩
    · exact hs
  | send =>
    have hr := hs.running_of_sending he.2.1
    rw [next_send]; split
    · next hq => exact ⟨hq, hs.tickers_le, fun h => by simp [hr] at h, hs.spawned⟩
    · exact hs
  | tick i => exact hs.set_tickers i .locking
  | runPending i nextScheduledTime shouldRun =>
    have hs' := hs.set_tickers i .selecting
    exact ⟨hs'.1, hs'.2, hs'.3, hs'.4⟩
  | receive i =>
    rw [next_receive]; split
    · next hq =>
      have hs' := hs.set_tickers i .exited
      exact ⟨Nat.sub_le_of_le_add (Nat.le_add_right_of_le hs.quit_le), hs'.tickers_le,
        fun h => by simp [(hs.fresh h).2.1] at hq, hs'.spawned⟩
    · exact hs

/-- Along every run, `Inv` is kept. -/
theorem inv_execution {s u : Sys τ} (hx : Execution duration srt s u) (hs : Inv s) : Inv u := by
  induction hx with
  | refl => exact hs
  | tail _ he ih => rw [he.2]; exact inv_next duration srt ih he.1

/-- `Inv` holds in every state a run from `NewScheduler` reaches. -/
theorem reachable_inv {s : Sys τ} (h : Reachable duration srt s) : Inv s :=
  let ⟨ops, hx⟩ := h
  inv_execution duration srt hx (inv_init ops)

/-- After `Start` and a completed `Stop` the state is reachable, so `Inv` holds there. -/
theorem reachable_inv_after_stop :
    Reachable unitDuration unitSort (unitRun startStop) ∧ Inv (unitRun startStop) :=
  have h : Reachable unitDuration unitSort (unitRun startStop) :=
    validTrace_reachable _ _ (by decide)
  ⟨h, reachable_inv _ _ h⟩

/-! ### The tasks held across ticks -/

/-- The tasks the calls have handed to the scheduler, as a bag: `Add` puts one in,
`Clear` empties it, and no other step touches it. -/
def heldStep (held : List τ) : Event τ → List τ
  | .add j => held ++ [j]
  | .clear => []
  | _ => held

/-- `heldStep` along a list of steps. -/
def heldTasks (held : List τ) (es : List (Event τ)) : List τ := es.foldl heldStep held

/-- One step changes `s.tasks` as it changes the bag, up to order. -/
theorem tasks_next_perm {s : Sys τ} {held : List τ} (e : Event τ)
    (h : s.sched.tasks.Perm held) :
    (next duration srt s e).sched.tasks.Perm (heldStep held e) := by
  cases e with
  | add j => exact h.append_right [j]
  | clear => exact .refl _
  | start =>
    rcases next_start_cases duration srt s with ⟨-, he⟩ | ⟨-, -, he⟩ | ⟨-, he⟩ <;> rw [he] <;>
      exact h
  | stop => rw [next_stop]; split <;> exact h
  | send => rw [next_send]; split <;> exact h
  | runPending i nextScheduledTime shouldRun =>
    exact ((srt nextScheduledTime).perm _).trans h
  | receive i => rw [next_receive]; split <;> exact h
  | _ => exact h

/-- Along any list of steps, `s.tasks` follows the bag up to order. -/
theorem tasks_runTrace_perm {s : Sys τ} {held : List τ} (es : List (Event τ))
    (h : s.sched.tasks.Perm held) :
    (runTrace duration srt s es).sched.tasks.Perm (heldTasks held es) := by
  induction es generalizing s held with
  | nil => exact h
  | cons e es ih => exact ih (tasks_next_perm duration srt e h)

/-- In every run, whatever the ticks and their sorts, `s.tasks` holds exactly the bag
of tasks added since the last `Clear`: none is lost or duplicated. -/
theorem tasks_perm_heldTasks (s : Sys τ) (es : List (Event τ)) :
    (runTrace duration srt s es).sched.tasks.Perm (heldTasks s.sched.tasks es) :=
  tasks_runTrace_perm duration srt es (.refl _)

/-- The tasks a step hands to `go task.Run()`, `scheduler.go:128–133`: the `runnable`
list of a `runPending` step. No other step starts a task. -/
def launched (s : Sys τ) : Event τ → List τ
  | .runPending _ nextScheduledTime shouldRun =>
    (getRunnableTasks nextScheduledTime (srt nextScheduledTime) shouldRun s.sched.tasks).1
  | _ => []

/-- In every run, whatever the ticks and their sorts before, a `runPending` whose due test
is monotone in scheduled time starts each due task of the bag as often as it was added,
and no other task. -/
theorem runPending_launches_due (s : Sys τ) (es : List (Event τ)) (i : Nat)
    (nextScheduledTime : τ → Int) (shouldRun : τ → Bool)
    (hmono : ∀ a b, nextScheduledTime a ≤ nextScheduledTime b →
      shouldRun b = true → shouldRun a = true) :
    (launched srt (runTrace duration srt s es) (.runPending i nextScheduledTime shouldRun)).Perm
      ((heldTasks s.sched.tasks es).filter shouldRun) := by
  rw [launched, getRunnableTasks_fst nextScheduledTime _ shouldRun hmono]
  exact (((srt nextScheduledTime).perm _).trans
    (tasks_runTrace_perm duration srt es (.refl _))).filter shouldRun

/-- Tasks due at 7 and 3 are added and the scheduler started; the tick that runs
`runPending` with "due by 5" launches the second one. -/
theorem runPending_launches_due_afterAdds :
    (∀ a b : Int, id a ≤ id b → decide (b ≤ 5) = true → decide (a ≤ 5) = true) ∧
    (launched (fun n => mergeSortBy n)
      (runTrace (fun _ : Int => 1) (fun n => mergeSortBy n) (init [])
        [.add 7, .add 3, .start, .tick 0])
      (.runPending 0 id fun t => decide (t ≤ 5))).Perm
      ((heldTasks (init [] : Sys Int).sched.tasks [.add 7, .add 3, .start, .tick 0]).filter
        fun t => decide (t ≤ 5)) :=
  have hmono : ∀ a b : Int, id a ≤ id b → decide (b ≤ 5) = true → decide (a ≤ 5) = true :=
    fun _ _ hab hb => by simp only [id, decide_eq_true_eq] at *; omega
  ⟨hmono, runPending_launches_due _ _ _ _ _ _ _ hmono⟩

/-- A step after which the scheduler is still not running leaves the options as they were
and changes `s.tasks` only as `Add` and `Clear` change the bag: with no ticker spawned, no
tick can sort it. -/
theorem tasks_next_of_not_running {s : Sys τ} {e : Event τ} (hs : Inv s) (he : Enabled s e)
    (hr : (next duration srt s e).sched.running = false) :
    (next duration srt s e).sched.tasks = heldStep s.sched.tasks e ∧
      (next duration srt s e).sched.dops = s.sched.dops := by
  cases e with
  | start =>
    refine absurd hr ?_
    rcases next_start_cases duration srt s with ⟨h, h'⟩ | ⟨-, -, h'⟩ | ⟨-, h'⟩
    · simp [h', h]
    all_goals simp [h']
  | stop => rw [next_stop]; split <;> exact ⟨rfl, rfl⟩
  | send => rw [next_send]; split <;> exact ⟨rfl, rfl⟩
  | runPending i _ _ => simp [Enabled, (hs.fresh hr).1] at he
  | receive i => rw [next_receive]; split <;> exact ⟨rfl, rfl⟩
  | _ => exact ⟨rfl, rfl⟩

/-- Along a valid run at whose end the scheduler is not running, `s.tasks` follows the
bag exactly, order included, and the options do not change. -/
theorem tasks_runTrace_of_not_running {s : Sys τ} {es : List (Event τ)} (hs : Inv s)
    (h : ValidTrace duration srt s es) (hr : (runTrace duration srt s es).sched.running = false) :
    (runTrace duration srt s es).sched.tasks = heldTasks s.sched.tasks es ∧
      (runTrace duration srt s es).sched.dops = s.sched.dops := by
  induction es generalizing s with
  | nil => exact ⟨rfl, rfl⟩
  | cons e es ih =>
    have hr' : (next duration srt s e).sched.running = false := Bool.eq_false_iff.mpr fun h' =>
      Bool.noConfusion ((running_execution duration srt
        (validTrace_execution duration srt h.2 _ (.refl _)) h').symm.trans hr)
    obtain ⟨ht, hd⟩ := tasks_next_of_not_running duration srt hs h.1 hr'
    obtain ⟨ht', hd'⟩ := ih (inv_next duration srt hs h.1) h.2 hr
    exact ⟨ht'.trans (by rw [ht]; rfl), hd'.trans hd⟩

/-- In every valid run from `NewScheduler` in which the scheduler is not yet running,
`s.tasks` is exactly the tasks passed to `Add` since the last `Clear`, in call order: no
tick has sorted them. So `Start` returns nil exactly when the interval it scans over their
Durations, in `Add` order and with the options of `NewScheduler`, is positive. -/
theorem start_scans_add_order (ops : List Option') (es : List (Event τ))
    (h : ValidTrace duration srt (init ops) es)
    (hr : (runTrace duration srt (init ops) es).sched.running = false) :
    (runTrace duration srt (init ops) es).sched.tasks = heldTasks [] es ∧
    ((Scheduler.start duration (runTrace duration srt (init ops) es).sched).1 = .ok ↔
      0 < tickerInterval (Scheduler.newScheduler ops : Scheduler τ).dops.tickerInterval
        ((heldTasks [] es).map duration)) := by
  obtain ⟨ht, hd⟩ := tasks_runTrace_of_not_running duration srt (inv_init ops) h hr
  refine ⟨ht, ?_⟩
  rw [Scheduler.start_ok_iff, hr, ht, hd]
  exact ⟨fun h => h.2, fun h => ⟨rfl, h⟩⟩

/-- `Add` of a 500ms task, `Add` of a 50ms task, and `Count`. -/
def twoAdds : List (Event Int) := [.add 500000000, .add 50000000, .count]

/-- After the two `Add` calls, `s.tasks` holds the two tasks in call order. -/
theorem start_scans_add_order_twoTasks :
    ValidTrace id (fun n => mergeSortBy n) (init []) twoAdds ∧
    (runTrace id (fun n => mergeSortBy n) (init []) twoAdds).sched.running = false ∧
    (runTrace id (fun n => mergeSortBy n) (init []) twoAdds).sched.tasks = heldTasks [] twoAdds :=
  ⟨by decide, rfl, (start_scans_add_order id (fun n => mergeSortBy n) [] twoAdds (by decide) rfl).1⟩

/-! ### The quit buffer -/

/-- Only a send puts a value into `s.quit`. -/
theorem quit_next_le {s : Sys τ} (e : Event τ) (he : e ≠ .send) :
    (next duration srt s e).sched.quit ≤ s.sched.quit := by
  cases e with
  | send => exact absurd rfl he
  | start =>
    rcases next_start_cases duration srt s with ⟨-, h⟩ | ⟨-, -, h⟩ | ⟨-, h⟩ <;> simp [h]
  | stop => rw [next_stop]; split <;> simp
  | receive i => rw [next_receive]; split <;> simp
  | _ => simp [next]

/-- Along steps none of which is a send, the buffer never grows. -/
theorem quit_runTrace_le (s : Sys τ) (es : List (Event τ)) (h : ∀ e ∈ es, e ≠ .send) :
    (runTrace duration srt s es).sched.quit ≤ s.sched.quit := by
  induction es generalizing s with
  | nil => exact le_rfl
  | cons e es ih =>
    exact (ih _ fun e' he' => h e' (.tail _ he')).trans (quit_next_le duration srt e (h e (.head _)))

/-! ### After the ticker has returned -/

/-- No ticker step is enabled once the only ticker has returned. -/
theorem not_enabled_ticker_of_exited {s : Sys τ} (hx : s.tickers = [.exited]) {i : Nat}
    {t : Ticker} (ht : t ≠ .exited) : s.tickers[i]? ≠ some t := fun h => by
  simpa [hx, ht] using List.mem_iff_getElem?.mpr ⟨i, h⟩

/-- One enabled step from a started scheduler whose ticker has returned: `Start` is
refused and no ticker step is enabled, so the ticker stays returned. -/
theorem exited_next {s : Sys τ} {e : Event τ} (hr : s.sched.running = true)
    (hx : s.tickers = [.exited]) (he : Enabled s e) : (next duration srt s e).tickers = [.exited] := by
  cases e with
  | start =>
    rcases next_start_cases duration srt s with ⟨-, h⟩ | ⟨h, -⟩ | ⟨h, -⟩
    · rw [h, hx]
    all_goals simp [hr] at h
  | stop => rw [next_stop]; split <;> exact hx
  | send => rw [next_send]; split <;> exact hx
  | tick i => exact absurd he.2 (not_enabled_ticker_of_exited hx (by decide))
  | runPending i => exact absurd he.2.2 (not_enabled_ticker_of_exited hx (by decide))
  | receive i => exact absurd he.2.1 (not_enabled_ticker_of_exited hx (by decide))
  | _ => exact hx

/-- Along every run from a started scheduler whose ticker has returned, it stays so. -/
theorem exited_execution {s u : Sys τ} (hx : Execution duration srt s u)
    (hr : s.sched.running = true) (ht : s.tickers = [.exited]) :
    u.sched.running = true ∧ u.tickers = [.exited] := by
  induction hx with
  | refl => exact ⟨hr, ht⟩
  | tail _ he ih =>
    rw [he.2]
    exact ⟨running_next duration srt _ ih.1, exited_next duration srt ih.1 ih.2 he.1⟩

/-- Once the ticker goroutine has taken the quit value and returned, no task is started
again: along every later run the ticker stays returned, and no step that can be taken
hands a task to `go task.Run()`. `Start` cannot spawn a new ticker. -/
theorem no_task_after_exit {s u : Sys τ} (hs : Reachable duration srt s)
    (hx : s.tickers = [.exited]) (hu : Execution duration srt s u) :
    u.tickers = [.exited] ∧ ∀ e, Enabled u e → launched srt u e = [] := by
  have hr : s.sched.running = true := by
    obtain ⟨ops, hs⟩ := hs
    cases h : s.sched.running
    · simp [((inv_execution duration srt hs (inv_init ops)).fresh h).1] at hx
    · rfl
  obtain ⟨-, hu'⟩ := exited_execution duration srt hu hr hx
  refine ⟨hu', fun e he => ?_⟩
  cases e with
  | runPending i => exact absurd he.2.2 (not_enabled_ticker_of_exited hu' (by decide))
  | _ => rfl

/-- `Start`, a completed `Stop`, and the ticker taking the value and returning. -/
def stopThenExit : List (Event Unit) := startStop ++ [.receive 0]

/-- The calls made after the ticker has returned: `Add`, a refused `Start`, and `Stop`. -/
def callsAfterExit : List (Event Unit) := [.add (), .start, .stop]

/-- After the ticker has returned, `Add`, `Start` and `Stop` start no task. -/
theorem no_task_after_exit_afterStop :
    Reachable unitDuration unitSort (unitRun stopThenExit) ∧
    (unitRun stopThenExit).tickers = [.exited] ∧
    Execution unitDuration unitSort (unitRun stopThenExit)
      (unitRun (stopThenExit ++ callsAfterExit)) ∧
    (unitRun (stopThenExit ++ callsAfterExit)).tickers = [.exited] ∧
    ∀ e, Enabled (unitRun (stopThenExit ++ callsAfterExit)) e →
      launched unitSort (unitRun (stopThenExit ++ callsAfterExit)) e = [] :=
  have hs : Reachable unitDuration unitSort (unitRun stopThenExit) :=
    validTrace_reachable _ _ (by decide)
  have hu : Execution unitDuration unitSort (unitRun stopThenExit)
      (unitRun (stopThenExit ++ callsAfterExit)) :=
    @validTrace_execution _ unitDuration unitSort (unitRun stopThenExit) callsAfterExit
      (by decide) _ (.refl _)
  ⟨hs, rfl, hu, no_task_after_exit _ _ hs rfl hu⟩

end Steps

/-! ### Blocking for ever -/

/-- The caller is in `Stop`'s send and no step of anyone can be taken again. -/
def Deadlocked (s : Sys τ) : Prop := s.caller = .sending ∧ ∀ e : Event τ, ¬ Enabled s e

/-- A `Stop` blocked at its send can never go on exactly when the buffer is full and no
ticker is in its `select`: a ticker in `runPending` waits for the lock `Stop` holds. -/
theorem deadlocked_iff {s : Sys τ} (hc : s.crashed = false) (hsend : s.caller = .sending) :
    Deadlocked s ↔ quitCapacity ≤ s.sched.quit ∧ Ticker.selecting ∉ s.tickers := by
  constructor
  · rintro ⟨-, h⟩
    refine ⟨Nat.not_lt.mp fun hq => h .send ⟨hc, hsend, hq⟩, fun hm => ?_⟩
    obtain ⟨i, hi⟩ := List.mem_iff_getElem?.mp hm
    exact h (.tick i) ⟨hc, hi⟩
  · rintro ⟨hq, hm⟩
    refine ⟨hsend, fun e he => ?_⟩
    cases e <;> simp only [Enabled, hsend, reduceCtorEq, and_false, false_and] at he
    · exact absurd he.2.2 (Nat.not_lt.mpr hq)
    · exact hm (List.mem_iff_getElem?.mpr ⟨_, he.2⟩)
    · exact hm (List.mem_iff_getElem?.mpr ⟨_, he.2.1⟩)

/-- Until some `Stop` has completed its send the buffer is empty, so no `Stop` is blocked
for ever: a deadlock needs a second `Stop` after a successful one. -/
theorem not_deadlocked_before_send (duration : τ → Int) (srt : ∀ next : τ → Int, SortBy (less next))
    (ops : List Option') (es : List (Event τ)) (h : ∀ e ∈ es, e ≠ .send)
    (hc : (runTrace duration srt (init ops) es).crashed = false) :
    ¬ Deadlocked (runTrace duration srt (init ops) es) := fun hd => by
  have hq := ((deadlocked_iff hc hd.1).mp hd).1
  have := quit_runTrace_le duration srt (init ops) es h
  simp only [init, Scheduler.quit_newScheduler, quitCapacity] at hq this
  omega

end Sys

/-! ### Runs from `NewScheduler` -/

open Sys

/-- `Start` then `Stop` with its send done: `Start` returned `nil`, and afterwards
`IsRunning` still answers true, a new `Start` is refused and a new `Stop` passes its
check instead of reporting "not running". -/
theorem stop_leaves_running :
    ValidTrace unitDuration unitSort (init []) startStop ∧
    (Scheduler.start unitDuration (init [] : Sys Unit).sched).1 = .ok ∧
    (unitRun startStop).sched.isRunning = true ∧
    (Scheduler.start unitDuration (unitRun startStop).sched).1 = .error alreadyStartedMsg ∧
    (unitRun startStop).sched.stopCheck = none := by
  decide

/-- `Start` then `Stop`, before its send. -/
def firstStop : List (Event Unit) := [.start, .stop]

/-- Before its send, the first `Stop` is not blocked for ever. -/
theorem not_deadlocked_before_send_first_stop :
    (∀ e ∈ firstStop, e ≠ .send) ∧ ¬ Deadlocked (unitRun firstStop) :=
  have h : ∀ e ∈ firstStop, e ≠ .send := by simp [firstStop]
  ⟨h, not_deadlocked_before_send _ _ [] _ h rfl⟩

/-- `Start`, a completed `Stop`, the ticker entering `runPending`, and a second `Stop`. -/
def stopDuringTick : List (Event Unit) := startStop ++ [.tick 0, .stop]

/-- `Start`, a completed `Stop`, the ticker returning with the value, and a second
completed `Stop`. -/
def stopAfterExit : List (Event Unit) := stopThenExit ++ [.stop, .send]

/-- Two ways a `Stop` blocks for ever holding `s.lock`: a second `Stop` while the ticker
waits for the lock in `runPending`; and, once the ticker has taken the first value and
returned, a second `Stop` leaves a value no goroutine will take, so the third blocks. -/
theorem stop_blocks_forever :
    Reachable unitDuration unitSort (unitRun stopDuringTick) ∧
    Deadlocked (unitRun stopDuringTick) ∧
    ValidTrace unitDuration unitSort (init []) stopAfterExit ∧
    (unitRun stopAfterExit).sched.quit = 1 ∧
    (unitRun stopAfterExit).tickers = [.exited] ∧
    Reachable unitDuration unitSort (unitRun (stopAfterExit ++ [.stop])) ∧
    Deadlocked (unitRun (stopAfterExit ++ [.stop])) :=
  ⟨validTrace_reachable _ _ (by decide), (deadlocked_iff rfl rfl).mpr (by decide),
    by decide, rfl, rfl, validTrace_reachable _ _ (by decide),
    (deadlocked_iff rfl rfl).mpr (by decide)⟩

end Porto.Tasks
