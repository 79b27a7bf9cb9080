import Porto.Tasks.Lifecycle

/-!
# Many goroutines calling one scheduler

Package `tasks`, `src/pkg/tasks/scheduler.go:45–207`, as a Go program uses it: any number of
goroutines call the methods of one `scheduler`, interleaved with the ticker goroutine that
`Start` spawns. A call of goroutine `c` is the step of `Porto.Tasks.Lifecycle` taken on `c`'s
view of the system. Every method but `Count` (`:89–91`) takes `s.lock` first, so it waits
while a goroutine stands in `Stop`'s send (`:204`), which holds the lock; `Count` reads
`len(s.tasks)` without it. With one goroutine the model is the single-caller one.
-/

namespace Porto.Tasks

variable {τ : Type}

namespace Sys

variable (duration : τ → Int) (srt : ∀ next : τ → Int, SortBy (less next))

/-- Only `Stop`, which starts its send when running, and the send itself move the caller. -/
theorem caller_next (s : Sys τ) (e : Event τ) :
    (next duration srt s e).caller = s.caller ∨
    (e = .stop ∧ s.sched.running = true ∧ (next duration srt s e).caller = .sending) ∨
    (e = .send ∧ (next duration srt s e).caller = .idle) := by
  cases e with
  | start =>
    rcases next_start_cases duration srt s with ⟨-, h⟩ | ⟨-, -, h⟩ | ⟨-, h⟩ <;> simp [h]
  | stop =>
    rw [next_stop]; split
    · next h => exact .inr (.inl ⟨rfl, h, rfl⟩)
    · exact .inl rfl
  | send => rw [next_send]; split <;> simp
  | receive i => rw [next_receive]; split <;> simp
  | _ => exact .inl rfl

end Sys

/-! ### Places of the calling goroutines -/

section Places

variable {α : Type} {l : List α} {c i : Nat} {x y : α}

/-- Writing back what was read changes nothing. -/
private theorem set_getD_self (l : List α) (c : Nat) (d : α) : l.set c (l.getD c d) = l := by
  refine List.ext_getElem? fun i => ?_
  by_cases hi : c = i
  · subst hi
    by_cases hc : c < l.length
    · simp [List.getElem?_set, hc]
    · simp [List.getElem?_set, hc]; omega
  · simp [List.getElem?_set, hi]

/-- After a write of `x` at `c`, a place holding `y ≠ x` held it before. -/
private theorem getElem?_of_set_ne (hxy : x ≠ y) (h : (l.set c x)[i]? = some y) : l[i]? = some y := by
  rw [List.getElem?_set] at h
  split_ifs at h with hc
  · exact absurd (Option.some.inj h) hxy
  · exact h

/-- After a write of `x` at `c` into a list without `x`, only place `c` holds `x`. -/
private theorem eq_of_set_not_mem (hx : x ∉ l) (h : (l.set c x)[i]? = some x) : i = c := by
  rw [List.getElem?_set] at h
  split_ifs at h with hc
  · exact hc.symm
  · exact absurd (List.mem_iff_getElem?.mpr ⟨_, h⟩) hx

end Places

/-- A goroutine not in `Stop`'s send is idle. -/
private theorem getD_idle_of_not_sending {l : List Caller} (h : Caller.sending ∉ l) (c : Nat) :
    l.getD c .idle = .idle := by
  rw [List.getD_eq_getElem?_getD]
  cases hc : l[c]? with
  | none => rfl
  | some x =>
    cases x
    · rfl
    · exact absurd (List.mem_iff_getElem?.mpr ⟨_, hc⟩) h

/-- The scheduler, its ticker goroutines, where each calling goroutine stands, and whether
a panic has ended the process. -/
structure Shared (τ : Type) where
  sched : Scheduler τ
  tickers : List Ticker
  callers : List Caller
  crashed : Bool

namespace Shared

/-- A scheduler fresh from `NewScheduler`, and `n` idle goroutines that will call it. -/
def init (ops : List Option') (n : Nat) : Shared τ :=
  ⟨Scheduler.newScheduler ops, [], List.replicate n .idle, false⟩

/-- Goroutine `c`'s view: the single-caller system with `c` as its caller. -/
def view (m : Shared τ) (c : Nat) : Sys τ :=
  ⟨m.sched, m.tickers, m.callers.getD c .idle, m.crashed⟩

/-- A step of goroutine `c`'s view, written back. -/
def update (m : Shared τ) (c : Nat) (s : Sys τ) : Shared τ :=
  ⟨s.sched, s.tickers, m.callers.set c s.caller, s.crashed⟩

/-- Writing back a goroutine's own view changes nothing. -/
theorem update_view (m : Shared τ) (c : Nat) : m.update c (m.view c) = m := by
  simp only [update, view, set_getD_self]

/-- When goroutine `c` can take a step, or a ticker step can be taken. A call other than
`Count` needs `s.lock`, which is free when no goroutine stands in `Stop`'s send; so does
the `runPending` of a tick. -/
def Enabled (m : Shared τ) (c : Nat) : Event τ → Prop
  | .count => m.crashed = false ∧ m.callers[c]? = some .idle
  | .add _ | .clear | .isRunning | .start | .stop =>
    m.crashed = false ∧ m.callers[c]? = some .idle ∧ Caller.sending ∉ m.callers
  | .send => m.crashed = false ∧ m.callers[c]? = some .sending ∧ m.sched.quit < quitCapacity
  | .tick i => m.crashed = false ∧ m.tickers[i]? = some .selecting
  | .runPending i _ _ =>
    m.crashed = false ∧ Caller.sending ∉ m.callers ∧ m.tickers[i]? = some .locking
  | .receive i => m.crashed = false ∧ m.tickers[i]? = some .selecting ∧ 0 < m.sched.quit

/-- Whether a goroutine's step can be taken is decided field by field. -/
instance (m : Shared τ) (c : Nat) (e : Event τ) : Decidable (Enabled m c e) := by
  cases e <;> unfold Enabled <;> infer_instance

/-- A step of the shared system can be taken in the acting goroutine's view. -/
theorem enabled_view {m : Shared τ} {c : Nat} {e : Event τ} (he : Enabled m c e) :
    Sys.Enabled (m.view c) e := by
  cases e with
  | send => exact ⟨he.1, by simp [view, he.2.1], he.2.2⟩
  | tick i => exact he
  | runPending i _ _ => exact ⟨he.1, getD_idle_of_not_sending he.2.1 c, he.2.2⟩
  | receive i => exact he
  | count => exact ⟨he.1, by simp [view, he.2]⟩
  | _ => exact ⟨he.1, by simp [view, he.2.1]⟩

section Steps

variable (duration : τ → Int) (srt : ∀ next : τ → Int, SortBy (less next))

/-- The effect of a step of goroutine `c` (for a ticker step, `c` plays no part). -/
def next (m : Shared τ) (c : Nat) (e : Event τ) : Shared τ :=
  m.update c (Sys.next duration srt (m.view c) e)

/-- One enabled step. -/
def Step (m : Shared τ) (c : Nat) (e : Event τ) (m' : Shared τ) : Prop :=
  Enabled m c e ∧ m' = next duration srt m c e

/-- Runs of any length. -/
inductive Execution : Shared τ → Shared τ → Prop
  | refl (m : Shared τ) : Execution m m
  | tail {m u v : Shared τ} {c : Nat} {e : Event τ} :
    Execution m u → Step duration srt u c e v → Execution m v

/-- States some run from `NewScheduler` reaches, with any number of goroutines. -/
def Reachable (m : Shared τ) : Prop := ∃ ops n, Execution duration srt (init ops n) m

/-- The state after a list of steps, each with its goroutine, enabled or not. -/
def runTrace (m : Shared τ) (es : List (Nat × Event τ)) : Shared τ :=
  es.foldl (fun m ce => next duration srt m ce.1 ce.2) m

/-- Every step of the list is enabled where it is taken. -/
def ValidTrace : Shared τ → List (Nat × Event τ) → Prop
  | _, [] => True
  | m, (c, e) :: es => Enabled m c e ∧ ValidTrace (next duration srt m c e) es

/-- Whether a list of steps can be taken is decided step by step. -/
instance (m : Shared τ) (es : List (Nat × Event τ)) :
    Decidable (ValidTrace duration srt m es) := by
  induction es generalizing m with
  | nil => exact isTrue trivial
  | cons ce es ih => exact @instDecidableAnd _ _ _ (ih _)

/-- A list of steps that can each be taken extends every run that ends where it starts. -/
theorem validTrace_execution {m : Shared τ} {es : List (Nat × Event τ)}
    (h : ValidTrace duration srt m es) :
    ∀ u, Execution duration srt u m →
      Execution duration srt u (runTrace duration srt m es) := by
  induction es generalizing m with
  | nil => exact fun _ hu => hu
  | cons ce es ih => exact fun u hu => ih h.2 u (.tail hu ⟨h.1, rfl⟩)

/-- A list of steps from `NewScheduler` that can each be taken ends in a reachable state. -/
theorem validTrace_reachable {ops : List Option'} {n : Nat} {es : List (Nat × Event τ)}
    (h : ValidTrace duration srt (init ops n) es) :
    Reachable duration srt (runTrace duration srt (init ops n) es) :=
  ⟨ops, n, validTrace_execution duration srt h _ (.refl _)⟩

/-- The state a list of steps reaches from `NewScheduler()` with `n` calling goroutines, in
the setting of the single-caller concrete runs (`Sys.unitRun`). -/
def sharedRun (n : Nat) (es : List (Nat × Event Unit)) : Shared Unit :=
  runTrace Sys.unitDuration Sys.unitSort (init [] n) es

/-- Only `Stop`, when running, and its send move a goroutine, and only the acting one. -/
theorem callers_next (m : Shared τ) (c : Nat) (e : Event τ) :
    (next duration srt m c e).callers = m.callers ∨
    (e = .stop ∧ m.sched.running = true ∧
      (next duration srt m c e).callers = m.callers.set c .sending) ∨
    (e = .send ∧ (next duration srt m c e).callers = m.callers.set c .idle) := by
  rcases Sys.caller_next duration srt (m.view c) e with h | ⟨he, hr, h⟩ | ⟨he, h⟩
  · exact .inl (by simp only [next, update]; rw [h]; exact set_getD_self _ _ _)
  · exact .inr (.inl ⟨he, hr, by simp only [next, update, h]⟩)
  · exact .inr (.inr ⟨he, by simp only [next, update, h]⟩)

/-- `Count` changes nothing. -/
theorem next_count (m : Shared τ) (c : Nat) : next duration srt m c .count = m :=
  update_view m c

/-! ### What holds over every interleaving -/

/-- What holds in every reachable state: those of the single-caller `Inv`, with "the caller"
read as "every goroutine", and at most one goroutine in `Stop`'s send, holding `s.lock`. -/
structure Inv (m : Shared τ) : Prop where
  quit_le : m.sched.quit ≤ quitCapacity
  tickers_le : m.tickers.length ≤ 1
  fresh : m.sched.running = false →
    m.tickers = [] ∧ m.sched.quit = 0 ∧ Caller.sending ∉ m.callers
  spawned : m.sched.running = true → m.crashed = false → m.tickers.length = 1
  mutex : ∀ i j : Nat, m.callers[i]? = some Caller.sending →
    m.callers[j]? = some Caller.sending → i = j

/-- `NewScheduler` with idle goroutines establishes `Inv`. -/
theorem inv_init (ops : List Option') (n : Nat) : Inv (init ops n : Shared τ) :=
  ⟨by simp [init, quitCapacity], by simp [init], fun _ => ⟨rfl, rfl, by simp [init]⟩,
    fun h => by simp [init] at h, fun i _ hi => by simp [init, List.getElem?_replicate] at hi⟩

/-- Every goroutine's view satisfies the single-caller invariant. -/
theorem Inv.view {m : Shared τ} (hm : Inv m) (c : Nat) : Sys.Inv (m.view c) :=
  ⟨hm.quit_le, hm.tickers_le,
    fun h => ⟨(hm.fresh h).1, (hm.fresh h).2.1, getD_idle_of_not_sending (hm.fresh h).2.2 c⟩,
    hm.spawned⟩

/-- Every enabled step of every goroutine keeps `Inv`. -/
theorem inv_next {m : Shared τ} {c : Nat} {e : Event τ} (hm : Inv m) (he : Enabled m c e) :
    Inv (next duration srt m c e) := by
  have hs := Sys.inv_next duration srt (hm.view c) (enabled_view he)
  have hr : (next duration srt m c e).sched.running = false → m.sched.running = false :=
    fun h => Bool.eq_false_iff.mpr fun h' => by
      simp [next, update, Sys.running_next duration srt e (s := m.view c) h'] at h
  refine ⟨hs.quit_le, hs.tickers_le, fun h => ⟨(hs.fresh h).1, (hs.fresh h).2.1, ?_⟩,
    hs.spawned, ?_⟩
  · have hns := (hm.fresh (hr h)).2.2
    rcases callers_next duration srt m c e with hc | ⟨-, hrun, -⟩ | ⟨rfl, -⟩
    · rwa [hc]
    · simp [hr h] at hrun
    · exact absurd (List.mem_iff_getElem?.mpr ⟨_, he.2.1⟩) hns
  · rcases callers_next duration srt m c e with hc | ⟨rfl, -, hc⟩ | ⟨rfl, hc⟩ <;> rw [hc]
    · exact hm.mutex
    · exact fun i j hi hj =>
        (eq_of_set_not_mem he.2.2 hi).trans (eq_of_set_not_mem he.2.2 hj).symm
    · exact fun i j hi hj =>
        hm.mutex i j (getElem?_of_set_ne (by decide) hi) (getElem?_of_set_ne (by decide) hj)

/-- Along every run, `Inv` is kept. -/
theorem inv_execution {m u : Shared τ} (hx : Execution duration srt m u) (hm : Inv m) :
    Inv u := by
  induction hx with
  | refl => exact hm
  | tail _ he ih => rw [he.2]; exact inv_next duration srt ih he.1

/-- However many goroutines call the scheduler, in every reachable state at most one of
them stands in `Stop`'s send holding `s.lock`, and at most one ticker goroutine has ever
been spawned: concurrent `Start` calls spawn one between them. -/
theorem reachable_mutex_one_ticker {m : Shared τ} (h : Reachable duration srt m) :
    (∀ i j : Nat, m.callers[i]? = some .sending → m.callers[j]? = some .sending → i = j) ∧
    m.tickers.length ≤ 1 :=
  let ⟨ops, n, hx⟩ := h
  let hm := inv_execution duration srt hx (inv_init ops n)
  ⟨hm.mutex, hm.tickers_le⟩

/-- Goroutine 0 calls `Start`; goroutine 1 calls `Start`, which is refused, then `Stop`. -/
def twoStarts : List (Nat × Event Unit) := [(0, .start), (1, .start), (1, .stop)]

/-- Two goroutines calling `Start` spawn one ticker between them. -/
theorem reachable_mutex_one_ticker_twoStarts :
    Reachable Sys.unitDuration Sys.unitSort (sharedRun 2 twoStarts) ∧
    (sharedRun 2 twoStarts).tickers.length ≤ 1 :=
  have h : Reachable Sys.unitDuration Sys.unitSort (sharedRun 2 twoStarts) :=
    validTrace_reachable _ _ (by decide)
  ⟨h, (reachable_mutex_one_ticker _ _ h).2⟩

/-! ### A `Stop` that blocks for ever -/

section Blocked

variable {m : Shared τ} {c : Nat} (hc : m.callers[c]? = some .sending)
  (hq : quitCapacity ≤ m.sched.quit) (ht : Ticker.selecting ∉ m.tickers)
include hc hq ht

/-- With a goroutine in `Stop`'s send, the buffer full and no ticker in its `select`, the
only step anyone can take is a `Count`. -/
theorem eq_count_of_blocked {c' : Nat} {e : Event τ} (he : Enabled m c' e) : e = .count := by
  have hlock : Caller.sending ∈ m.callers := List.mem_iff_getElem?.mpr ⟨c, hc⟩
  cases e with
  | count => rfl
  | send => exact absurd he.2.2 (Nat.not_lt.mpr hq)
  | tick i => exact absurd (List.mem_iff_getElem?.mpr ⟨i, he.2⟩) ht
  | runPending i _ _ => exact absurd hlock he.2.1
  | receive i => exact absurd (List.mem_iff_getElem?.mpr ⟨i, he.2.1⟩) ht
  | _ => exact absurd hlock he.2.2

/-- From such a state every run stays where it is. -/
theorem execution_eq_of_blocked {u : Shared τ} (hu : Execution duration srt m u) : u = m := by
  induction hu with
  | refl => rfl
  | tail _ hs ih =>
    subst ih
    rw [hs.2, eq_count_of_blocked hc hq ht hs.1, next_count]

end Blocked

/-- A goroutine in `Stop`'s send, with the buffer full and no ticker in its `select`, blocks
the whole scheduler for ever: from then on the only call any goroutine can make is `Count`,
no ticker step can be taken, and no run changes the state. -/
theorem frozen_of_blocked_stop {m : Shared τ} {c : Nat} (hc : m.callers[c]? = some .sending)
    (hq : quitCapacity ≤ m.sched.quit) (ht : Ticker.selecting ∉ m.tickers) :
    (∀ c' e, Enabled m c' e → e = .count) ∧ ∀ u, Execution duration srt m u → u = m :=
  ⟨fun _ _ => eq_count_of_blocked hc hq ht,
    fun _ => execution_eq_of_blocked duration srt hc hq ht⟩

/-- A send step with room in the buffer frees the goroutine that takes it. -/
theorem callers_next_send {m : Shared τ} {c : Nat} (hc : m.callers[c]? = some .sending)
    (hq : m.sched.quit < quitCapacity) :
    (next duration srt m c .send).callers[c]? = some .idle := by
  simp [next, update, view, Sys.next_send, hq, List.getElem?_set,
    (List.getElem?_eq_some_iff.mp hc).1]

/-- A receive step leaves every goroutine where it stands and empties a full buffer. -/
theorem next_receive_of_pos {m : Shared τ} {c i : Nat} (hq : 0 < m.sched.quit) :
    (next duration srt m c (.receive i)).callers = m.callers ∧
      (next duration srt m c (.receive i)).crashed = m.crashed ∧
      (next duration srt m c (.receive i)).sched.quit = m.sched.quit - 1 := by
  simp only [next, update, view, Sys.next_receive, if_pos hq, set_getD_self, and_self]

/-- In every reachable state, a goroutine blocked in `Stop`'s send can still complete it,
by some run from there, exactly when the buffer has room or a ticker goroutine is in its
`select`, which can take the buffered value first; otherwise it blocks for ever. -/
theorem stop_completes_iff {m : Shared τ} {c : Nat} (hr : Reachable duration srt m)
    (hcr : m.crashed = false) (hc : m.callers[c]? = some .sending) :
    (∃ u, Execution duration srt m u ∧ u.callers[c]? = some .idle) ↔
      m.sched.quit < quitCapacity ∨ Ticker.selecting ∈ m.tickers := by
  obtain ⟨ops, n, hx⟩ := hr
  -- a send with room frees the goroutine, wherever the run has got to
  have hsend : ∀ {m'}, Execution duration srt m m' → m'.crashed = false →
      m'.callers[c]? = some .sending → m'.sched.quit < quitCapacity →
      ∃ u, Execution duration srt m u ∧ u.callers[c]? = some .idle := fun hx' hcr' hc' hq' =>
    ⟨_, .tail hx' (⟨⟨hcr', hc', hq'⟩, rfl⟩ : Step duration srt _ c .send _),
      callers_next_send duration srt hc' hq'⟩
  refine ⟨fun ⟨u, hu, hidle⟩ => ?_, fun h => ?_⟩
  · by_contra hno
    rw [not_or, Nat.not_lt] at hno
    rw [execution_eq_of_blocked duration srt hc hno.1 hno.2 hu, hc] at hidle
    cases hidle
  · by_cases hq : m.sched.quit < quitCapacity
    · exact hsend (.refl m) hcr hc hq
    -- the buffer is full: a ticker in its `select` takes the value first
    obtain ⟨i, hi⟩ := List.mem_iff_getElem?.mp (h.resolve_left hq)
    have hq1 : m.sched.quit = 1 := by
      have := (inv_execution duration srt hx (inv_init ops n)).quit_le
      simp only [quitCapacity] at this hq; omega
    obtain ⟨h₁, h₂, h₃⟩ :=
      next_receive_of_pos duration srt (c := c) (i := i) (by omega : 0 < m.sched.quit)
    exact hsend
      (.tail (.refl m) (⟨⟨hcr, hi, by omega⟩, rfl⟩ : Step duration srt m c (.receive i) _))
      (h₂.trans hcr) (h₁ ▸ hc) (by rw [h₃, hq1]; decide)

end Steps

/-- Goroutine 0 calls `Start` and `Stop`, the ticker enters `runPending`, and goroutine 1
calls `Stop`. -/
def twoStops : List (Nat × Event Unit) :=
  [(0, .start), (0, .stop), (0, .send), (0, .tick 0), (1, .stop)]

/-- After `twoStops`, goroutine 1 blocks the whole scheduler for ever. -/
theorem frozen_of_blocked_stop_twoStops :
    ValidTrace Sys.unitDuration Sys.unitSort (init [] 2) twoStops ∧
    (sharedRun 2 twoStops).callers[1]? = some .sending ∧
    quitCapacity ≤ (sharedRun 2 twoStops).sched.quit ∧
    Ticker.selecting ∉ (sharedRun 2 twoStops).tickers ∧
    (∀ c e, Enabled (sharedRun 2 twoStops) c e → e = .count) ∧
    ∀ u, Execution Sys.unitDuration Sys.unitSort (sharedRun 2 twoStops) u →
      u = sharedRun 2 twoStops :=
  have hc : (sharedRun 2 twoStops).callers[1]? = some .sending := by decide
  ⟨by decide, hc, by decide, by decide,
    frozen_of_blocked_stop Sys.unitDuration Sys.unitSort hc (by decide) (by decide)⟩

/-- Goroutine 0 calls `Start`; goroutine 1 calls `Stop` and stands at its send. -/
def startThenStop : List (Nat × Event Unit) := [(0, .start), (1, .stop)]

/-- Goroutine 1, at its send with the buffer empty, can complete its `Stop`. -/
theorem stop_completes_iff_firstStop :
    Reachable Sys.unitDuration Sys.unitSort (sharedRun 2 startThenStop) ∧
    (sharedRun 2 startThenStop).crashed = false ∧
    (sharedRun 2 startThenStop).callers[1]? = some .sending ∧
    ((∃ u, Execution Sys.unitDuration Sys.unitSort (sharedRun 2 startThenStop) u ∧
        u.callers[1]? = some .idle) ↔
      (sharedRun 2 startThenStop).sched.quit < quitCapacity ∨
        Ticker.selecting ∈ (sharedRun 2 startThenStop).tickers) :=
  have h : Reachable Sys.unitDuration Sys.unitSort (sharedRun 2 startThenStop) :=
    validTrace_reachable _ _ (by decide)
  ⟨h, rfl, by decide, stop_completes_iff _ _ h rfl (by decide)⟩

/-! ### One goroutine -/

section Steps

variable (duration : τ → Int) (srt : ∀ next : τ → Int, SortBy (less next))

end Steps

end Shared

end Porto.Tasks
