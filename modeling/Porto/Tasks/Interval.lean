import Mathlib.Order.Basic
import Mathlib.Tactic.Linarith

/-!
# Ticker interval selection

Package `tasks`, `src/pkg/tasks/scheduler.go:159–173` (`Start`), with
`DefaultTickerInterval` at `:19`. A `time.Duration` is an int64 count of nanoseconds;
the selection only compares Durations and divides them by ten, which never leaves the
int64 range, so Durations are modelled as `Int`. Go's `/` truncates toward zero.
-/

namespace Porto.Tasks

/-- `DefaultTickerInterval = time.Second`, in nanoseconds. `scheduler.go:19`. -/
def defaultTickerInterval : Int := 1000000000

/-- One turn of the loop at `scheduler.go:163–168`: a Duration below the running
interval replaces it by a tenth of itself. -/
def lowerInterval (interval d : Int) : Int :=
  if d < interval then d.tdiv 10 else interval

/-- The loop at `scheduler.go:162–168` over the tasks' Durations, in task order. -/
def scanInterval (interval : Int) (durations : List Int) : Int :=
  durations.foldl lowerInterval interval

/-- The interval `Start` hands to `time.NewTicker`, `scheduler.go:159–173`: the
`WithTickerInterval` option when set, else the scan from the default; a zero
interval falls back to `DefaultTickerInterval`. -/
def tickerInterval (option : Int) (durations : List Int) : Int :=
  let interval := if option = 0 then scanInterval defaultTickerInterval durations else option
  if interval = 0 then defaultTickerInterval else interval

/-- The scan over no Duration is its start. -/
@[simp] theorem scanInterval_nil (interval : Int) : scanInterval interval [] = interval := rfl

/-- The scan over `d :: ds` is the scan over `ds` from one turn of the loop on `d`. -/
@[simp] theorem scanInterval_cons (interval d : Int) (ds : List Int) :
    scanInterval interval (d :: ds) = scanInterval (lowerInterval interval d) ds := rfl

/-- On a non-negative Duration, Go's truncating division is the floor division. -/
private theorem tdiv_ten_of_nonneg {d : Int} (hd : 0 ≤ d) : d.tdiv 10 = d / 10 :=
  Int.tdiv_eq_ediv hd (by decide)

/-- One turn of the loop on a non-negative Duration, with the floor division. -/
theorem lowerInterval_of_nonneg {interval d : Int} (hd : 0 ≤ d) :
    lowerInterval interval d = if d < interval then d / 10 else interval := by
  simp only [lowerInterval, tdiv_ten_of_nonneg hd]

/-- Without the option, the interval is the scan, or the default where the scan hits zero. -/
theorem tickerInterval_zero (durations : List Int) :
    tickerInterval 0 durations =
      if scanInterval defaultTickerInterval durations = 0 then defaultTickerInterval
      else scanInterval defaultTickerInterval durations := rfl

/-! ### What one turn of the loop can do -/

section Nonneg

variable {interval : Int} {ds : List Int}

/-- Over non-negative Durations the scan never rises and never goes below zero. -/
theorem scanInterval_mem_Icc (hi : 0 ≤ interval) (hds : ∀ d ∈ ds, 0 ≤ d) :
    0 ≤ scanInterval interval ds ∧ scanInterval interval ds ≤ interval := by
  induction ds generalizing interval with
  | nil => exact ⟨hi, le_rfl⟩
  | cons d ds ih =>
    have hd := hds d (List.mem_cons_self _ _)
    have hl : 0 ≤ lowerInterval interval d ∧ lowerInterval interval d ≤ interval := by
      rw [lowerInterval_of_nonneg hd]; split <;> omega
    have := ih hl.1 fun e he => hds e (List.mem_cons_of_mem _ he)
    rw [scanInterval_cons]
    exact ⟨this.1, this.2.trans hl.2⟩

end Nonneg

/-! ### The selected interval -/

section Positive

variable {ds : List Int}

/-- With positive Durations and no option the interval is positive and at most the default,
so `time.NewTicker` never panics on it. -/
theorem tickerInterval_pos_le_default (hpos : ∀ d ∈ ds, 0 < d) :
    0 < tickerInterval 0 ds ∧ tickerInterval 0 ds ≤ defaultTickerInterval := by
  have h := scanInterval_mem_Icc (by decide : (0 : Int) ≤ defaultTickerInterval)
    fun d hd => (hpos d hd).le
  rw [tickerInterval_zero]
  split <;> simp only [defaultTickerInterval] at * <;> omega

/-- A non-negative option and positive Durations give a positive interval. -/
theorem tickerInterval_pos {option : Int} (ho : 0 ≤ option) (hpos : ∀ d ∈ ds, 0 < d) :
    0 < tickerInterval option ds := by
  rcases ho.eq_or_lt with rfl | h
  · exact (tickerInterval_pos_le_default hpos).1
  · simpa [tickerInterval, h.ne'] using h

end Positive

end Porto.Tasks
