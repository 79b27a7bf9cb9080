import Mathlib.Data.List.Perm.Basic
import Mathlib.Data.List.Sort

/-!
# Runnable tasks

Package `tasks`, `src/pkg/tasks/scheduler.go:55–71` (`Less`) and `:93–108`
(`getRunnableTasks`). The `Task` implementation is not part of the package sources: a task
is any value with a scheduled time and a due test, both read at the moment of the call.
`sort.Sort` is the Go library's and is modelled by its documented contract: the data ends
as a permutation of itself in ascending `Less` order, with no promise of stability.
`Len` and `Swap` are only called from inside `sort.Sort`, so the contract subsumes them.
-/

namespace Porto.Tasks

variable {τ : Type}

/-- `time.Time.After` on instants: `t` is strictly later than `u`. -/
def after (t u : Int) : Bool := decide (u < t)

/-- `Less(i, j)`, `scheduler.go:69–71`: `b` (at `j`) is scheduled after `a` (at `i`). -/
def less (nextScheduledTime : τ → Int) (a b : τ) : Bool :=
  after (nextScheduledTime b) (nextScheduledTime a)

/-- `sort.Sort` by its library contract for an order `lt`: a permutation in which no
element is `lt` an element before it. Every conforming implementation is a value. -/
structure SortBy (lt : τ → τ → Bool) where
  sort : List τ → List τ
  perm : ∀ l, (sort l).Perm l
  sorted : ∀ l, (sort l).Pairwise fun a b => lt b a = false

/-- The `for … range` loop at `scheduler.go:100–106`: append each due task to
`runnable`, and `break` at the first task that is not due. -/
def collectRunnable (shouldRun : τ → Bool) : List τ → List τ → List τ
  | runnable, [] => runnable
  | runnable, j :: rest =>
    if shouldRun j then collectRunnable shouldRun (runnable ++ [j]) rest else runnable

/-- `getRunnableTasks`, `scheduler.go:94–108`: `sort.Sort(s)` reorders `s.tasks` in
place, then the loop collects the due prefix. Returns `runnable` and the new `s.tasks`. -/
def getRunnableTasks (nextScheduledTime : τ → Int) (srt : SortBy (less nextScheduledTime))
    (shouldRun : τ → Bool) (tasks : List τ) : List τ × List τ :=
  let tasks := srt.sort tasks
  (collectRunnable shouldRun [] tasks, tasks)

section Collect

variable {shouldRun : τ → Bool}

/-- The loop with its `break` appends exactly the longest due prefix. -/
theorem collectRunnable_eq_takeWhile (runnable tasks : List τ) :
    collectRunnable shouldRun runnable tasks = runnable ++ tasks.takeWhile shouldRun := by
  induction tasks generalizing runnable with
  | nil => simp [collectRunnable]
  | cons j rest ih =>
    by_cases hj : shouldRun j
    · simp [collectRunnable, hj, ih]
    · simp [collectRunnable, hj]

/-- On a list in scheduled order, a due test monotone in the scheduled time passes a
prefix: the `break` drops no due task. -/
theorem takeWhile_eq_filter_of_sorted (nextScheduledTime : τ → Int)
    (hmono : ∀ a b, nextScheduledTime a ≤ nextScheduledTime b →
      shouldRun b = true → shouldRun a = true) :
    ∀ {tasks : List τ}, tasks.Pairwise (fun a b => nextScheduledTime a ≤ nextScheduledTime b) →
      tasks.takeWhile shouldRun = tasks.filter shouldRun
  | [], _ => rfl
  | j :: rest, hs => by
    rw [List.pairwise_cons] at hs
    by_cases hj : shouldRun j
    · simp [hj, takeWhile_eq_filter_of_sorted nextScheduledTime hmono hs.2]
    · have hnone : rest.filter shouldRun = [] := List.filter_eq_nil_iff.mpr fun b hb hb' =>
        hj (hmono j b (hs.1 b hb) hb')
      simp [hj, hnone]

end Collect

/-- A conforming sort leaves the tasks in non-decreasing scheduled time. -/
theorem SortBy.sorted_time {nextScheduledTime : τ → Int}
    (srt : SortBy (less nextScheduledTime)) (l : List τ) :
    (srt.sort l).Pairwise fun a b => nextScheduledTime a ≤ nextScheduledTime b :=
  (srt.sorted l).imp fun h => by simpa [less, after] using h

/-- Under a due test monotone in scheduled time, `runnable` is the sorted tasks' due ones. -/
theorem getRunnableTasks_fst (nextScheduledTime : τ → Int)
    (srt : SortBy (less nextScheduledTime)) (shouldRun : τ → Bool)
    (hmono : ∀ a b, nextScheduledTime a ≤ nextScheduledTime b →
      shouldRun b = true → shouldRun a = true) (tasks : List τ) :
    (getRunnableTasks nextScheduledTime srt shouldRun tasks).1 =
      (srt.sort tasks).filter shouldRun := by
  rw [getRunnableTasks, collectRunnable_eq_takeWhile, List.nil_append,
    takeWhile_eq_filter_of_sorted nextScheduledTime hmono (srt.sorted_time tasks)]

/-- `getRunnableTasks` under a due test monotone in scheduled time: it returns every due
task as often as it occurs, and leaves `s.tasks` a sorted permutation of itself. -/
theorem getRunnableTasks_perm_filter (nextScheduledTime : τ → Int)
    (srt : SortBy (less nextScheduledTime)) (shouldRun : τ → Bool)
    (hmono : ∀ a b, nextScheduledTime a ≤ nextScheduledTime b →
      shouldRun b = true → shouldRun a = true) (tasks : List τ) :
    (getRunnableTasks nextScheduledTime srt shouldRun tasks).1.Perm (tasks.filter shouldRun) ∧
    (getRunnableTasks nextScheduledTime srt shouldRun tasks).2.Perm tasks ∧
    (getRunnableTasks nextScheduledTime srt shouldRun tasks).2.Pairwise
      (fun a b => nextScheduledTime a ≤ nextScheduledTime b) ∧
    (getRunnableTasks nextScheduledTime srt shouldRun tasks).2.length = tasks.length := by
  rw [getRunnableTasks_fst nextScheduledTime srt shouldRun hmono]
  exact ⟨(srt.perm tasks).filter shouldRun, srt.perm tasks, srt.sorted_time tasks,
    (srt.perm tasks).length_eq⟩

/-- The library merge sort on `¬ Less b a` meets the contract. -/
def mergeSortBy (nextScheduledTime : τ → Int) : SortBy (less nextScheduledTime) where
  sort l := l.mergeSort fun a b => !less nextScheduledTime b a
  perm l := List.mergeSort_perm _ _
  sorted l := (List.sorted_mergeSort
      (fun a b c hab hbc => by simp [less, after] at *; omega)
      (fun a b => by simp [less, after]; omega) l).imp
    fun h => by simpa using h

/-- Four tasks due at 7, 3, 9 and 1 with `ShouldRun` "due by 5": every task is kept. -/
theorem getRunnableTasks_perm_filter_example :
    (∀ a b : Int, a ≤ b → decide (b ≤ 5) = true → decide (a ≤ 5) = true) ∧
      (getRunnableTasks id (mergeSortBy id) (fun t => decide (t ≤ 5)) [7, 3, 9, 1]).2.length
        = 4 :=
  ⟨fun _ _ hab hb => by simp at *; omega,
    (getRunnableTasks_perm_filter id (mergeSortBy id) (fun t => decide (t ≤ 5))
      (fun _ _ hab hb => by simp at *; omega) [7, 3, 9, 1]).2.2.2⟩

end Porto.Tasks
