/-
# `DeliveryTracking.Geocoding.Serial` — the requests to Nominatim are in order and apart

The calls of `throttleNominatim` form a chain: each finds the queue open exactly when
the one before it is closed, so one of them at most is under way.  It alone can have a
timer, which runs until an interval after the last start, or start its task.

    Orderly     what the log of starts, ends and answers is to look like
    Inv         the state is the one the stages describe
    Advances    every event but a call takes one call further
    Serialised  what the throttle promises, derived from `Inv`
-/
import Mathlib.Algebra.Order.BigOperators.Group.List
import Mathlib.Algebra.Order.Ring.Nat
import DeliveryTracking.Geocoding.Throttle
import DeliveryTracking.Runs

namespace DeliveryTracking.Geocoding

/-! ## The order of the calls -/

section Invariant

variable {V : Type}

/-- A task starts once all earlier calls are over, and an interval after each start before
it; it is over once after its start, and its caller is told after that. -/
def Orderly : List (Mark V) → Prop
  | [] => True
  | .started k now :: log =>
      (∀ i < k, ∃ o, .finished i o ∈ log) ∧
        (∀ i t, .started i t ∈ log → i < k ∧ t + nominatimMinIntervalMs ≤ now) ∧ Orderly log
  | .finished k _ :: log =>
      (∃ now, .started k now ∈ log) ∧ (∀ o, .finished k o ∉ log) ∧ Orderly log
  | .received k o :: log => .finished k o ∈ log ∧ (∀ o', .received k o' ∉ log) ∧ Orderly log

/-- A call finds an open queue exactly when the one before it is closed. -/
structure Chain (stage : Nat → Stage V) (calls : Nat) : Prop where
  first : (stage 0).opened = true
  link : ∀ k, (stage (k + 1)).opened = (stage k).closed
  made : ∀ k, (stage k).made = true ↔ k < calls

/-- The timers are those of the stages, and run until an interval after the last start. -/
structure Timed (stage : Nat → Stage V) (s : Throttle V) : Prop where
  timers : ∀ k, s.timers k = (stage k).timer
  due : ∀ k due, (stage k).timer = some due →
    s.nominatimLastDispatchAt + nominatimMinIntervalMs ≤ due
  woken : ∀ k, (stage k).isWoken = true →
    s.nominatimLastDispatchAt + nominatimMinIntervalMs ≤ s.clock
  past : ∀ k t, .started k t ∈ s.log → t ≤ s.nominatimLastDispatchAt

/-- The log records the stages. -/
structure Marked (stage : Nat → Stage V) (log : List (Mark V)) : Prop where
  started : ∀ k, (∃ now, .started k now ∈ log) ↔ (stage k).begun = true
  finished : ∀ k o, .finished k o ∈ log ↔ (stage k).outcome = some o
  received : ∀ k o, .received k o ∈ log ↔ (stage k).answer = some o
  orderly : Orderly log

structure Inv (undefined : V) (stage : Nat → Stage V) (s : Throttle V) : Prop where
  view : ∀ k, View undefined s.loop k (stage k)
  queue : s.nominatimQueue = .queue s.calls
  chain : Chain stage s.calls
  timed : Timed stage s
  marked : Marked stage s.log

namespace Stage

theorem opened_of_closed {st : Stage V} (h : st.closed = true) : st.opened = true := by
  cases st <;> simp_all [closed, opened]

theorem opened_of_begun {st : Stage V} (h : st.begun = true) : st.opened = true := by
  cases st <;> simp_all [begun, opened]

theorem outcome_of_closed {st : Stage V} (h : st.closed = true) : ∃ o, st.outcome = some o := by
  cases st <;> simp_all [closed, outcome]

/-- A call that waits for its timer is under way. -/
theorem under_way_of_timer {st : Stage V} (h : st.timer ≠ none ∨ st.isWoken = true) :
    st.opened = true ∧ st.closed = false := by
  cases st <;> simp_all [timer, isWoken, opened, closed]

end Stage

namespace Chain

variable {stage : Nat → Stage V} {calls k j : Nat} {st : Stage V}

theorem closed_of_lt (h : Chain stage calls) (hopened : (stage k).opened = true) :
    ∀ i < k, (stage i).closed = true := by
  induction k with
  | zero =>
      intro i hi
      exact absurd hi (Nat.not_lt_zero i)
  | succ k ih =>
      intro i hi
      have hclosed : (stage k).closed = true := (h.link k).symm.trans hopened
      rcases Nat.lt_succ_iff_lt_or_eq.mp hi with hlt | rfl
      · exact ih (Stage.opened_of_closed hclosed) i hlt
      · exact hclosed

/-- One call at most is under way. -/
theorem alone (h : Chain stage calls) (hk : (stage k).opened = true) (hk' : (stage k).closed = false)
    (hj : (stage j).opened = true) (hj' : (stage j).closed = false) : j = k := by
  rcases Nat.lt_trichotomy j k with hlt | heq | hlt
  · have hclosed := h.closed_of_lt hk j hlt
    rw [hj'] at hclosed
    cases hclosed
  · exact heq
  · have hclosed := h.closed_of_lt hj k hlt
    rw [hk'] at hclosed
    cases hclosed

/-- A call moves on without opening or closing anything. -/
theorem set (h : Chain stage calls) (hmade : st.made = (stage k).made)
    (hopened : st.opened = (stage k).opened) (hclosed : st.closed = (stage k).closed) :
    Chain (Function.update stage k st) calls := by
  have hsame : ∀ j, (Function.update stage k st j).made = (stage j).made ∧
      (Function.update stage k st j).opened = (stage j).opened ∧
      (Function.update stage k st j).closed = (stage j).closed := by
    intro j
    by_cases hj : j = k
    · subst hj
      simpa using ⟨hmade, hopened, hclosed⟩
    · rw [Function.update_of_ne hj]
      exact ⟨rfl, rfl, rfl⟩
  refine ⟨(hsame 0).2.1.trans h.first, ?_, ?_⟩
  · intro j
    rw [(hsame (j + 1)).2.1, (hsame j).2.2]
    exact h.link j
  · intro j
    rw [(hsame j).1]
    exact h.made j

/-- A call closes, and the next one is open. -/
theorem close {next : Stage V} (h : Chain stage calls) (hmade : st.made = (stage k).made)
    (hopened : st.opened = (stage k).opened) (hclosed : st.closed = true)
    (hnext : next.made = (stage (k + 1)).made) (hnextopened : next.opened = true)
    (hnextclosed : next.closed = (stage (k + 1)).closed) :
    Chain (Function.update (Function.update stage k st) (k + 1) next) calls := by
  have hmade' : ∀ j, (Function.update (Function.update stage k st) (k + 1) next j).made
      = (stage j).made := by
    intro j
    by_cases hj : j = k + 1
    · subst hj
      simpa using hnext
    · rw [Function.update_of_ne hj]
      by_cases hj' : j = k
      · subst hj'
        simpa using hmade
      · rw [Function.update_of_ne hj']
  have hopened' : ∀ j, j ≠ k + 1 →
      (Function.update (Function.update stage k st) (k + 1) next j).opened = (stage j).opened := by
    intro j hj
    rw [Function.update_of_ne hj]
    by_cases hj' : j = k
    · subst hj'
      simpa using hopened
    · rw [Function.update_of_ne hj']
  have hclosed' : ∀ j, j ≠ k →
      (Function.update (Function.update stage k st) (k + 1) next j).closed = (stage j).closed := by
    intro j hj
    by_cases hj' : j = k + 1
    · subst hj'
      simpa using hnextclosed
    · rw [Function.update_of_ne hj', Function.update_of_ne hj]
  refine ⟨?_, ?_, ?_⟩
  · rw [hopened' 0 (Nat.succ_ne_zero k).symm]
    exact h.first
  · intro j
    by_cases hj : j = k
    · subst hj
      rw [Function.update_self, hnextopened, Function.update_of_ne (Nat.succ_ne_self j).symm,
        Function.update_self, hclosed]
    · rw [hopened' (j + 1) fun heq => hj (Nat.succ.inj heq), hclosed' j hj]
      exact h.link j
  · intro j
    rw [hmade' j]
    exact h.made j

/-- A call is made. -/
theorem call (h : Chain stage calls) (hmade : st.made = true)
    (hopened : st.opened = (stage calls).opened) (hclosed : st.closed = (stage calls).closed) :
    Chain (Function.update stage calls st) (calls + 1) := by
  have hsame : ∀ j, (Function.update stage calls st j).opened = (stage j).opened ∧
      (Function.update stage calls st j).closed = (stage j).closed := by
    intro j
    by_cases hj : j = calls
    · subst hj
      simpa using ⟨hopened, hclosed⟩
    · rw [Function.update_of_ne hj]
      exact ⟨rfl, rfl⟩
  refine ⟨(hsame 0).1.trans h.first, ?_, ?_⟩
  · intro j
    rw [(hsame (j + 1)).1, (hsame j).2]
    exact h.link j
  · intro j
    by_cases hj : j = calls
    · subst hj
      simp [hmade]
    · rw [Function.update_of_ne hj, h.made j]
      omega

end Chain

namespace Marked

variable {stage : Nat → Stage V} {log log' : List (Mark V)} {k : Nat} {st : Stage V}

/-- A log that changes for one call only. -/
theorem change (h : Marked stage log)
    (hstarted : ∀ j ≠ k, ∀ t, .started j t ∈ log' ↔ .started j t ∈ log)
    (hfinished : ∀ j ≠ k, ∀ o, .finished j o ∈ log' ↔ .finished j o ∈ log)
    (hreceived : ∀ j ≠ k, ∀ o, .received j o ∈ log' ↔ .received j o ∈ log)
    (hstarted' : (∃ t, .started k t ∈ log') ↔ st.begun = true)
    (hfinished' : ∀ o, .finished k o ∈ log' ↔ st.outcome = some o)
    (hreceived' : ∀ o, .received k o ∈ log' ↔ st.answer = some o) (horderly : Orderly log') :
    Marked (Function.update stage k st) log' where
  started j := by
    by_cases hj : j = k
    · subst hj
      rw [Function.update_self]
      exact hstarted'
    · rw [Function.update_of_ne hj, ← h.started]
      exact exists_congr (hstarted j hj)
  finished j o := by
    by_cases hj : j = k
    · subst hj
      rw [Function.update_self]
      exact hfinished' o
    · rw [Function.update_of_ne hj, ← h.finished]
      exact hfinished j hj o
  received j o := by
    by_cases hj : j = k
    · subst hj
      rw [Function.update_self]
      exact hreceived' o
    · rw [Function.update_of_ne hj, ← h.received]
      exact hreceived j hj o
  orderly := horderly

/-- A stage that begins, ends and answers alike records alike. -/
theorem set (h : Marked stage log) (hbegun : st.begun = (stage k).begun)
    (houtcome : st.outcome = (stage k).outcome) (hanswer : st.answer = (stage k).answer) :
    Marked (Function.update stage k st) log := by
  refine h.change (fun _ _ _ => Iff.rfl) (fun _ _ _ => Iff.rfl) (fun _ _ _ => Iff.rfl) ?_ ?_ ?_
    h.orderly
  · rw [h.started, hbegun]
  · intro o
    rw [h.finished, houtcome]
  · intro o
    rw [h.received, hanswer]

theorem finish {o : Outcome V} (h : Marked stage log) (hbegun : st.begun = true)
    (hstarted : (stage k).begun = true) (hnone : (stage k).outcome = none)
    (houtcome : st.outcome = some o) (hanswer : st.answer = (stage k).answer) :
    Marked (Function.update stage k st) (.finished k o :: log) := by
  have hnew : ∀ o', .finished k o' ∉ log := by
    intro o'
    simp [h.finished, hnone]
  refine h.change ?_ ?_ ?_ ?_ ?_ ?_ ⟨(h.started k).mpr hstarted, hnew, h.orderly⟩
  · simp
  · intro j hj
    simp [hj]
  · simp
  · simp [h.started, hbegun, hstarted]
  · intro o'
    simp [h.finished, hnone, houtcome, eq_comm]
  · intro o'
    simp [h.received, hanswer]

theorem receive {o : Outcome V} (h : Marked stage log) (hbegun : st.begun = (stage k).begun)
    (houtcome : st.outcome = some o) (hold : (stage k).outcome = some o)
    (hnone : (stage k).answer = none) (hanswer : st.answer = some o) :
    Marked (Function.update stage k st) (.received k o :: log) := by
  have hnew : ∀ o', .received k o' ∉ log := by
    intro o'
    simp [h.received, hnone]
  refine h.change ?_ ?_ ?_ ?_ ?_ ?_ ⟨(h.finished k o).mpr hold, hnew, h.orderly⟩
  · simp
  · simp
  · intro j hj
    simp [hj]
  · simp [h.started, hbegun]
  · intro o'
    simp [h.finished, houtcome, hold]
  · intro o'
    simp [h.received, hnone, hanswer, eq_comm]

/-- A task starts, an interval after the earlier ones, which are over. -/
theorem start {now : Int} (h : Marked stage log) (hbegun : st.begun = true)
    (houtcome : st.outcome = (stage k).outcome) (hanswer : st.answer = (stage k).answer)
    (hearlier : ∀ i < k, ∃ o, (stage i).outcome = some o)
    (hspaced : ∀ i t, .started i t ∈ log → i < k ∧ t + nominatimMinIntervalMs ≤ now) :
    Marked (Function.update stage k st) (.started k now :: log) := by
  refine h.change ?_ ?_ ?_ ?_ ?_ ?_ ⟨?_, hspaced, h.orderly⟩
  · intro j hj
    simp [hj]
  · simp
  · simp
  · exact ⟨fun _ => hbegun, fun _ => ⟨now, List.mem_cons_self ..⟩⟩
  · intro o
    simp [h.finished, houtcome]
  · intro o
    simp [h.received, hanswer]
  · intro i hi
    obtain ⟨o, ho⟩ := hearlier i hi
    exact ⟨o, (h.finished i o).mpr ho⟩

end Marked

namespace Timed

variable {stage : Nat → Stage V} {s t : Throttle V} {k : Nat} {st : Stage V}

/-- No task starts. -/
theorem set (h : Timed stage s) (htimers : t.timers = Function.update s.timers k st.timer)
    (hlast : t.nominatimLastDispatchAt = s.nominatimLastDispatchAt) (hclock : s.clock ≤ t.clock)
    (hdue : ∀ due, st.timer = some due → s.nominatimLastDispatchAt + nominatimMinIntervalMs ≤ due)
    (hwoken : st.isWoken = true → s.nominatimLastDispatchAt + nominatimMinIntervalMs ≤ t.clock)
    (hlog : ∀ j u, .started j u ∈ t.log → .started j u ∈ s.log) :
    Timed (Function.update stage k st) t where
  timers j := by
    rw [htimers]
    by_cases hj : j = k
    · subst hj
      rw [Function.update_self, Function.update_self]
    · rw [Function.update_of_ne hj, Function.update_of_ne hj]
      exact h.timers j
  due j due hj := by
    rw [hlast]
    by_cases hjk : j = k
    · subst hjk
      rw [Function.update_self] at hj
      exact hdue due hj
    · rw [Function.update_of_ne hjk] at hj
      exact h.due j due hj
  woken j hj := by
    rw [hlast]
    by_cases hjk : j = k
    · subst hjk
      rw [Function.update_self] at hj
      exact hwoken hj
    · rw [Function.update_of_ne hjk] at hj
      exact (h.woken j hj).trans hclock
  past j u hu := by
    rw [hlast]
    exact h.past j u (hlog j u hu)

/-- Neither a timer nor a start. -/
theorem quiet (h : Timed stage s) (htimers : t.timers = s.timers)
    (hlast : t.nominatimLastDispatchAt = s.nominatimLastDispatchAt) (hclock : s.clock ≤ t.clock)
    (htimer : st.timer = (stage k).timer) (hwoken : st.isWoken = (stage k).isWoken)
    (hlog : ∀ j u, .started j u ∈ t.log → .started j u ∈ s.log) :
    Timed (Function.update stage k st) t := by
  refine h.set ?_ hlast hclock ?_ ?_ hlog
  · rw [htimers, htimer, ← h.timers k, Function.update_eq_self]
  · intro due hdue
    exact h.due k due (htimer ▸ hdue)
  · intro hw
    exact (h.woken k (hwoken ▸ hw)).trans hclock

/-- The task of `k` starts; no other call waits for its timer. -/
theorem start (h : Timed stage s) (hchain : Chain stage s.calls) (hopened : (stage k).opened = true)
    (hclosed : (stage k).closed = false) (hnone : (stage k).timer = none) {now : Int}
    (hspaced : s.nominatimLastDispatchAt + nominatimMinIntervalMs ≤ now)
    (htimers : t.timers = s.timers) (hlast : t.nominatimLastDispatchAt = now)
    (htimer : st.timer = none) (hwoken : st.isWoken = false)
    (hlog : ∀ j u, .started j u ∈ t.log → u = now ∨ .started j u ∈ s.log) :
    Timed (Function.update stage k st) t := by
  have hother : ∀ j ≠ k, ¬((stage j).timer ≠ none ∨ (stage j).isWoken = true) := by
    intro j hj hwaits
    obtain ⟨hopened', hclosed'⟩ := Stage.under_way_of_timer hwaits
    exact hj (hchain.alone hopened hclosed hopened' hclosed')
  constructor
  · intro j
    rw [htimers, h.timers j]
    by_cases hj : j = k
    · subst hj
      rw [Function.update_self, htimer, hnone]
    · rw [Function.update_of_ne hj]
  · intro j due hj
    by_cases hjk : j = k
    · subst hjk
      rw [Function.update_self, htimer] at hj
      cases hj
    · rw [Function.update_of_ne hjk] at hj
      exact absurd (.inl (by rw [hj]; exact Option.some_ne_none due)) (hother j hjk)
  · intro j hj
    by_cases hjk : j = k
    · subst hjk
      rw [Function.update_self, hwoken] at hj
      cases hj
    · rw [Function.update_of_ne hjk] at hj
      exact absurd (.inr hj) (hother j hjk)
  · intro j u hu
    rw [hlast]
    rcases hlog j u hu with rfl | hold
    · exact Int.le_refl u
    · have hpast := h.past j u hold
      rw [nominatimMinIntervalMs] at hspaced
      omega

end Timed

namespace Inv

variable {undefined : V} {stage : Nat → Stage V} {s t : Throttle V} {k : Nat} {st : Stage V}

/-- A call moves on, and opens and closes nothing. -/
theorem move (hi : Inv undefined stage s) (hview : View undefined t.loop k st)
    (hothers : ∀ j ≠ k, s.loop.SameOf Promise.owner jobOwner j t.loop)
    (hmade : st.made = (stage k).made) (hopened : st.opened = (stage k).opened)
    (hclosed : st.closed = (stage k).closed) (hqueue : t.nominatimQueue = s.nominatimQueue)
    (hcalls : t.calls = s.calls) (htimed : Timed (Function.update stage k st) t)
    (hmarked : Marked (Function.update stage k st) t.log) :
    Inv undefined (Function.update stage k st) t where
  view j := by
    by_cases hj : j = k
    · subst hj
      rw [Function.update_self]
      exact hview
    · rw [Function.update_of_ne hj]
      exact (hi.view j).same (hothers j hj)
  queue := by
    rw [hqueue, hcalls]
    exact hi.queue
  chain := hcalls ▸ hi.chain.set hmade hopened hclosed
  timed := htimed
  marked := hmarked

/-- A job that only passes something on. -/
theorem pass (hi : Inv undefined stage s) {m : Loop Promise Handler V} {now : Int}
    (hclock : s.clock ≤ now) (hview : View undefined m k st)
    (hothers : ∀ j ≠ k, s.loop.SameOf Promise.owner jobOwner j m)
    (hst : (st.made, st.opened, st.closed, st.begun, st.outcome, st.answer, st.timer, st.isWoken)
      = ((stage k).made, (stage k).opened, (stage k).closed, (stage k).begun, (stage k).outcome,
        (stage k).answer, (stage k).timer, (stage k).isWoken)) :
    Inv undefined (Function.update stage k st) { s with loop := m, clock := now } := by
  simp only [Prod.mk.injEq] at hst
  obtain ⟨hmade, hopened, hclosed, hbegun, houtcome, hanswer, htimer, hwoken⟩ := hst
  exact hi.move hview hothers hmade hopened hclosed rfl rfl
    (hi.timed.quiet rfl rfl hclock htimer hwoken fun _ _ h => h)
    (hi.marked.set hbegun houtcome hanswer)

/-- The task of a call that is under way starts. -/
theorem dispatch (hi : Inv undefined stage s) {m : Loop Promise Handler V} {now : Int}
    {t : Option V} (hview : View undefined m k st)
    (hothers : ∀ j ≠ k, s.loop.SameOf Promise.owner jobOwner j m)
    (hspaced : s.nominatimLastDispatchAt + nominatimMinIntervalMs ≤ now)
    (hstage : stage k = .ready ∨ ∃ linked, stage k = .running linked .woken)
    (hst : (st.made, st.opened, st.closed, st.begun, st.outcome, st.answer, st.timer, st.isWoken)
      = (true, true, false, true, t.map .rejected, none, none, false)) :
    Inv undefined (Function.update stage k st)
      { s with
        loop := m
        clock := now
        nominatimLastDispatchAt := now
        log := (t.map fun e => .finished k (.rejected e)).toList ++ .started k now :: s.log } := by
  simp only [Prod.mk.injEq] at hst
  obtain ⟨hmade, hopened, hclosed, hbegun, houtcome, hanswer, htimer, hwoken⟩ := hst
  have hold : (stage k).made = true ∧ (stage k).opened = true ∧ (stage k).closed = false ∧
      (stage k).begun = false ∧ (stage k).outcome = none ∧ (stage k).answer = none ∧
        (stage k).timer = none := by
    rcases hstage with hk | ⟨linked, hk⟩ <;> rw [hk] <;> exact ⟨rfl, rfl, rfl, rfl, rfl, rfl, rfl⟩
  obtain ⟨hmade', hopened', hclosed', hbegun', houtcome', hanswer', htimer'⟩ := hold
  refine hi.move hview hothers (hmade.trans hmade'.symm) (hopened.trans hopened'.symm)
    (hclosed.trans hclosed'.symm) rfl rfl ?_ ?_
  · refine hi.timed.start hi.chain hopened' hclosed' htimer' hspaced rfl rfl htimer hwoken ?_
    intro j u hu
    have hcases : (.started j u : Mark V) = .started k now ∨ .started j u ∈ s.log := by
      cases t <;> simpa using hu
    rcases hcases with heq | hold
    · cases heq
      exact .inl rfl
    · exact .inr hold
  · have hearlier : ∀ i < k, ∃ o, (stage i).outcome = some o := by
      intro i hlt
      exact Stage.outcome_of_closed (hi.chain.closed_of_lt hopened' i hlt)
    have hbefore : ∀ i u, .started i u ∈ s.log → i < k ∧ u + nominatimMinIntervalMs ≤ now := by
      intro i u hu
      have hbegun_i := (hi.marked.started i).mp ⟨u, hu⟩
      have hpast := hi.timed.past i u hu
      refine ⟨?_, by rw [nominatimMinIntervalMs] at *; omega⟩
      rcases Nat.lt_trichotomy i k with hlt | rfl | hlt
      · exact hlt
      · rw [hbegun'] at hbegun_i
        cases hbegun_i
      · have hclosed_k := hi.chain.closed_of_lt (Stage.opened_of_begun hbegun_i) k hlt
        rw [hclosed'] at hclosed_k
        cases hclosed_k
    cases t with
    | none =>
        exact hi.marked.start hbegun (houtcome.trans houtcome'.symm) (hanswer.trans hanswer'.symm)
          hearlier hbefore
    | some e =>
        have hstart : Marked (Function.update stage k (.running false (.calling none)))
            (.started k now :: s.log) :=
          hi.marked.start rfl houtcome'.symm hanswer'.symm hearlier hbefore
        have hself : Function.update stage k (.running false (.calling none)) k
            = .running false (.calling none) := Function.update_self ..
        have hfinish : Marked (Function.update (Function.update stage k
            (.running false (.calling none))) k st) (.finished k (.rejected e) :: .started k now ::
              s.log) := by
          refine hstart.finish hbegun ?_ ?_ houtcome ?_
          · rw [hself]
            rfl
          · rw [hself]
            rfl
          · rw [hself]
            exact hanswer
        rw [Function.update_idem] at hfinish
        exact hfinish

end Inv

/-! ## Steps -/

/-- Call `k` has come further, and no call has gone back. -/
def Advances (k : Nat) (stage stage' : Nat → Stage V) : Prop :=
  (stage k).rank < (stage' k).rank ∧ ∀ j, (stage j).rank ≤ (stage' j).rank

theorem advances_update {stage : Nat → Stage V} {k : Nat} {st : Stage V}
    (h : (stage k).rank < st.rank) : Advances k stage (Function.update stage k st) := by
  refine ⟨by rwa [Function.update_self], ?_⟩
  intro j
  by_cases hj : j = k
  · subst hj
    rw [Function.update_self]
    exact Nat.le_of_lt h
  · rw [Function.update_of_ne hj]

theorem Advances.also {stage stage' : Nat → Stage V} {k j : Nat} {st : Stage V}
    (h : Advances k stage stage') (hst : (stage' j).rank ≤ st.rank) :
    Advances k stage (Function.update stage' j st) := by
  have hle : ∀ i, (stage' i).rank ≤ (Function.update stage' j st i).rank := by
    intro i
    by_cases hi : i = j
    · subst hi
      rwa [Function.update_self]
    · rw [Function.update_of_ne hi]
  exact ⟨Nat.lt_of_lt_of_le h.1 (hle k), fun i => Nat.le_trans (h.2 i) (hle i)⟩

namespace Inv

variable {undefined : V} {stage : Nat → Stage V} {s t : Throttle V} {k : Nat}

open Throttle (step)

theorem find_job (hi : Inv undefined stage s) (k : Nat) :
    s.loop.jobs.find? (jobOwner · = k) = ((stage k).jobs undefined k).head? := by
  rw [← List.head?_filter, (hi.view k).jobs]

/-- `run` is called: it awaits a timer, or calls the task. -/
theorem job_ready (hi : Inv undefined stage s) (hst : stage k = .ready) {checkedAt now : Int}
    (hclock : s.clock ≤ checkedAt) (hnow : checkedAt ≤ now) (thrown : Option V) :
    ∃ stage', Inv undefined stage' ((s.dequeue k now).handle undefined (.start k) (.result k)
      (.fulfilled undefined) checkedAt now thrown) ∧ Advances k stage stage' := by
  have hview : View undefined s.loop k .ready := hst ▸ hi.view k
  by_cases hwait : 0 < s.nominatimLastDispatchAt + nominatimMinIntervalMs - checkedAt
  · have hrun : (s.dequeue k now).run k checkedAt now thrown =
        { s.dequeue k now with
          loop := (s.dequeue k now).loop.thenDo (.sleep k) (.call (.resume k) (.run k))
          timers := Function.update s.timers k (some (checkedAt +
            (s.nominatimLastDispatchAt + nominatimMinIntervalMs - checkedAt))) } := if_pos hwait
    simp only [Throttle.handle, hrun]
    refine ⟨_, hi.move (hview.sleep (checkedAt +
      (s.nominatimLastDispatchAt + nominatimMinIntervalMs - checkedAt))) ?_ ?_ ?_ ?_ rfl rfl ?_ ?_,
      advances_update ?_⟩
    · intro j hj
      exact (View.others_thenDo hj rfl fun _ => rfl).adopt hj.symm
    · rw [hst]
      rfl
    · rw [hst]
      rfl
    · rw [hst]
      rfl
    · refine hi.timed.set rfl rfl (hclock.trans hnow) ?_ ?_ fun _ _ h => h
      · rintro due ⟨⟩
        omega
      · intro h
        cases h
    · refine hi.marked.set ?_ ?_ ?_ <;> rw [hst] <;> rfl
    · rw [hst]
      simp [Stage.rank]
  · have hspaced : s.nominatimLastDispatchAt + nominatimMinIntervalMs ≤ now := by omega
    have hrun : (s.dequeue k now).run k checkedAt now thrown
        = (s.dequeue k now).dispatch k now thrown := if_neg hwait
    simp only [Throttle.handle, hrun]
    cases thrown with
    | none =>
        refine ⟨_, hi.dispatch (t := none) hview.direct ?_ hspaced (.inl hst) rfl,
          advances_update ?_⟩
        · intro j hj
          exact (((Loop.SameOf.refl _).dequeue hj.symm).adopt hj.symm).adopt hj.symm
        · rw [hst]
          simp [Stage.rank]
    | some e =>
        refine ⟨_, hi.dispatch (t := some e) hview.direct_throws ?_ hspaced (.inl hst) rfl,
          advances_update ?_⟩
        · intro j hj
          exact (hview.others_settle hj rfl rfl (by simp)).2.adopt hj.symm
        · rw [hst]
          simp [Stage.rank]

/-- The job after the timer calls the task. -/
theorem job_woken (hi : Inv undefined stage s) (hst : stage k = .running true .woken) {now : Int}
    (hclock : s.clock ≤ now) (thrown : Option V) :
    ∃ stage', Inv undefined stage' ((s.dequeue k now).dispatch k now thrown) ∧
      Advances k stage stage' := by
  have hview : View undefined s.loop k (.running true .woken) := hst ▸ hi.view k
  have hspaced : s.nominatimLastDispatchAt + nominatimMinIntervalMs ≤ now :=
    (hi.timed.woken k (by rw [hst]; rfl)).trans hclock
  cases thrown with
  | none =>
      refine ⟨_, hi.dispatch (t := none) hview.resume ?_ hspaced (.inr ⟨true, hst⟩) rfl,
        advances_update ?_⟩
      · intro j hj
        exact ((Loop.SameOf.refl _).dequeue hj.symm).adopt hj.symm
      · rw [hst]
        simp [Stage.rank]
  | some e =>
      refine ⟨_, hi.dispatch (t := some e) hview.resume_throws ?_ hspaced (.inr ⟨true, hst⟩) rfl,
        advances_update ?_⟩
      · intro j hj
        exact (hview.others_settle hj rfl rfl (by simp [jobOwner, Promise.owner])).2
      · rw [hst]
        simp [Stage.rank]

/-- `result` is about to adopt the promise of `run`. -/
theorem job_link (hi : Inv undefined stage s) {body : Body V} (hst : stage k = .running false body)
    (hbody : ∀ o, body ≠ .calling o) {now : Int} (hclock : s.clock ≤ now) :
    ∃ stage', Inv undefined stage' { s with
        loop := (s.loop.dequeue (jobOwner · = k)).thenDo (.run k) (.forward (.result k))
        clock := now } ∧ Advances k stage stage' := by
  have hview : View undefined s.loop k (.running false body) := hst ▸ hi.view k
  refine ⟨_, hi.pass hclock (hview.link hbody) ?_ ?_, advances_update ?_⟩
  · intro j hj
    exact View.others_thenDo hj rfl fun _ => rfl
  · rw [hst]
    cases body <;> rfl
  · rw [hst]
    cases body with
    | calling o => exact absurd rfl (hbody o)
    | _ => simp [Stage.rank]

/-- The promise of `run` is about to adopt the one of the task. -/
theorem job_adopt (hi : Inv undefined stage s) {linked : Bool} {o : Option (Outcome V)}
    (hst : stage k = .running linked (.calling o)) {now : Int} (hclock : s.clock ≤ now) :
    ∃ stage', Inv undefined stage' { s with
        loop := (s.loop.dequeue (jobOwner · = k)).thenDo (.task k) (.forward (.run k))
        clock := now } ∧ Advances k stage stage' := by
  have hview : View undefined s.loop k (.running linked (.calling o)) := hst ▸ hi.view k
  have hothers : ∀ j ≠ k, s.loop.SameOf Promise.owner jobOwner j
      ((s.loop.dequeue (jobOwner · = k)).thenDo (.task k) (.forward (.run k))) := by
    intro j hj
    exact View.others_thenDo hj rfl fun _ => rfl
  cases o with
  | none =>
      refine ⟨_, hi.pass hclock hview.adopt_pending hothers ?_, advances_update ?_⟩
      · rw [hst]
        rfl
      · rw [hst]
        simp [Stage.rank]
  | some o =>
      refine ⟨_, hi.pass hclock hview.adopt_settled hothers ?_, advances_update ?_⟩
      · rw [hst]
        rfl
      · rw [hst]
        simp [Stage.rank]

/-- The call lets the next one go on. -/
theorem job_restart (hi : Inv undefined stage s) {o : Outcome V} (hst : stage k = .settled o)
    {now : Int} (hclock : s.clock ≤ now) :
    ∃ stage', Inv undefined stage' { s with
        loop := (s.loop.dequeue (jobOwner · = k)).settle (.queue (k + 1)) (.fulfilled undefined)
        clock := now } ∧ Advances k stage stage' := by
  have hview : View undefined s.loop k (.settled o) := hst ▸ hi.view k
  have hclosed : (stage (k + 1)).opened = false := by
    rw [hi.chain.link k, hst]
    rfl
  have hne : k + 1 ≠ k := Nat.succ_ne_self k
  -- the next call, and what it is when the queue is open
  have hnext : ∃ next : Stage V, (stage (k + 1) = .unmade false ∧ next = .unmade true) ∨
      (stage (k + 1) = .waiting ∧ next = .ready) := by
    cases hn : stage (k + 1) with
    | unmade b =>
        rw [hn] at hclosed
        exact ⟨.unmade true, .inl ⟨by rw [show b = false from hclosed], rfl⟩⟩
    | waiting => exact ⟨.ready, .inr ⟨rfl, rfl⟩⟩
    | _ =>
        rw [hn] at hclosed
        cases hclosed
  obtain ⟨next, hnext⟩ := hnext
  have hafter : View undefined (s.loop.dequeue (jobOwner · = k)) (k + 1) (stage (k + 1)) :=
    (hi.view (k + 1)).same ((Loop.SameOf.refl _).dequeue hne.symm)
  have hviewnext : View undefined ((s.loop.dequeue (jobOwner · = k)).settle (.queue (k + 1))
      (.fulfilled undefined)) (k + 1) next := by
    rcases hnext with ⟨hn, rfl⟩ | ⟨hn, rfl⟩
    · rw [hn] at hafter
      exact hafter.opens_unmade
    · rw [hn] at hafter
      exact hafter.opens_waiting
  have hothers : ∀ j ≠ k + 1, (s.loop.dequeue (jobOwner · = k)).SameOf Promise.owner jobOwner j
      ((s.loop.dequeue (jobOwner · = k)).settle (.queue (k + 1)) (.fulfilled undefined)) := by
    intro j hj
    rcases hnext with ⟨hn, -⟩ | ⟨hn, -⟩
    · rw [hn] at hafter
      exact (hafter.others_settle hj rfl rfl (by simp)).1
    · rw [hn] at hafter
      exact (hafter.others_settle hj rfl rfl (by simp [jobOwner, Handler.owner])).1
  have hsame : (next.closed, next.begun, next.outcome, next.answer, next.timer, next.isWoken,
      next.made) = ((stage (k + 1)).closed, (stage (k + 1)).begun, (stage (k + 1)).outcome,
      (stage (k + 1)).answer, (stage (k + 1)).timer, (stage (k + 1)).isWoken,
      (stage (k + 1)).made) ∧ next.opened = true := by
    rcases hnext with ⟨hn, rfl⟩ | ⟨hn, rfl⟩ <;> rw [hn] <;> exact ⟨rfl, rfl⟩
  simp only [Prod.mk.injEq] at hsame
  obtain ⟨⟨hclosed', hbegun, houtcome, hanswer, htimer, hwoken, hmade⟩, hopened⟩ := hsame
  have hold : Function.update stage k (.restarted o) (k + 1) = stage (k + 1) :=
    Function.update_of_ne hne _ _
  refine ⟨Function.update (Function.update stage k (.restarted o)) (k + 1) next,
    ⟨?_, hi.queue, ?_, ?_, ?_⟩, ?_⟩
  · intro j
    by_cases hj : j = k + 1
    · subst hj
      rw [Function.update_self]
      exact hviewnext
    · rw [Function.update_of_ne hj]
      by_cases hjk : j = k
      · subst hjk
        rw [Function.update_self]
        exact hview.restart.same (hothers j hj)
      · rw [Function.update_of_ne hjk]
        exact ((hi.view j).same ((Loop.SameOf.refl _).dequeue (Ne.symm hjk))).same (hothers j hj)
  · exact hi.chain.close (by rw [hst]; rfl) (by rw [hst]; rfl) rfl hmade hopened hclosed'
  · have hfirst : Timed (Function.update stage k (.restarted o)) { s with clock := now } := by
      refine hi.timed.quiet rfl rfl hclock ?_ ?_ fun _ _ h => h <;> rw [hst] <;> rfl
    refine hfirst.quiet rfl rfl (Int.le_refl _) ?_ ?_ fun _ _ h => h
    · rw [hold]
      exact htimer
    · rw [hold]
      exact hwoken
  · have hfirst : Marked (Function.update stage k (.restarted o)) s.log := by
      refine hi.marked.set ?_ ?_ ?_ <;> rw [hst] <;> rfl
    refine hfirst.set ?_ ?_ ?_
    · rw [hold]
      exact hbegun
    · rw [hold]
      exact houtcome
    · rw [hold]
      exact hanswer
  · refine (advances_update ?_).also ?_
    · rw [hst]
      simp [Stage.rank]
    · rw [hold]
      rcases hnext with ⟨hn, rfl⟩ | ⟨hn, rfl⟩ <;> rw [hn] <;> simp [Stage.rank]

/-- A job takes its call one stage further. -/
theorem job (hi : Inv undefined stage s) {checkedAt now : Int} {thrown : Option V}
    (h : step undefined s (.job k checkedAt now thrown) = some t) :
    ∃ stage', Inv undefined stage' t ∧ Advances k stage stage' := by
  obtain ⟨⟨hclock, hnow⟩, h⟩ := Option.ite_none_right_eq_some.mp h
  have hlater : s.clock ≤ now := hclock.trans hnow
  rw [hi.find_job] at h
  cases hst : stage k with
  | unmade b => simp [hst, Stage.jobs] at h
  | waiting => simp [hst, Stage.jobs] at h
  | received o => simp [hst, Stage.jobs] at h
  | ready =>
      obtain rfl := Option.some.inj (by simpa [hst, Stage.jobs] using h)
      exact hi.job_ready hst hclock hnow thrown
  | running linked body =>
      cases body with
      | calling o =>
          obtain rfl := Option.some.inj (by simpa [hst, Stage.jobs] using h)
          exact hi.job_adopt hst hlater
      | asleep due =>
          cases linked with
          | true => simp [hst, Stage.jobs] at h
          | false =>
              obtain rfl := Option.some.inj (by simpa [hst, Stage.jobs] using h)
              exact hi.job_link hst (by simp) hlater
      | woken =>
          cases linked with
          | true =>
              obtain rfl := Option.some.inj (by simpa [hst, Stage.jobs] using h)
              exact hi.job_woken hst hlater thrown
          | false =>
              obtain rfl := Option.some.inj (by simpa [hst, Stage.jobs] using h)
              exact hi.job_link hst (by simp) hlater
      | pending =>
          cases linked with
          | true => simp [hst, Stage.jobs] at h
          | false =>
              obtain rfl := Option.some.inj (by simpa [hst, Stage.jobs] using h)
              exact hi.job_link hst (by simp) hlater
      | returning o =>
          cases linked with
          | true =>
              obtain rfl := Option.some.inj (by simpa [hst, Stage.jobs] using h)
              have hview : View undefined s.loop k (.running true (.returning o)) := hst ▸ hi.view k
              refine ⟨_, hi.pass hlater hview.forward_run ?_ ?_, advances_update ?_⟩
              · intro j hj
                exact (hview.others_settle hj rfl rfl (by simp [jobOwner, Promise.owner])).2
              · rw [hst]
                rfl
              · rw [hst]
                simp [Stage.rank]
          | false =>
              obtain rfl := Option.some.inj (by simpa [hst, Stage.jobs] using h)
              exact hi.job_link hst (by simp) hlater
  | ended o =>
      obtain rfl := Option.some.inj (by simpa [hst, Stage.jobs] using h)
      have hview : View undefined s.loop k (.ended o) := hst ▸ hi.view k
      refine ⟨_, hi.pass hlater hview.link_ended ?_ ?_, advances_update ?_⟩
      · intro j hj
        exact View.others_thenDo hj rfl fun _ => rfl
      · rw [hst]
        rfl
      · rw [hst]
        simp [Stage.rank]
  | forwarding o =>
      obtain rfl := Option.some.inj (by simpa [hst, Stage.jobs] using h)
      have hview : View undefined s.loop k (.forwarding o) := hst ▸ hi.view k
      refine ⟨_, hi.pass hlater hview.forward_result ?_ ?_, advances_update ?_⟩
      · intro j hj
        exact (hview.others_settle hj rfl rfl (by simp [jobOwner, Handler.owner])).2
      · rw [hst]
        rfl
      · rw [hst]
        simp [Stage.rank]
  | settled o =>
      obtain rfl := Option.some.inj (by simpa [hst, Stage.jobs] using h)
      exact hi.job_restart hst hlater
  | restarted o =>
      obtain rfl := Option.some.inj (by simpa [hst, Stage.jobs] using h)
      have hview : View undefined s.loop k (.restarted o) := hst ▸ hi.view k
      refine ⟨_, hi.move hview.receive ?_ ?_ ?_ ?_ rfl rfl ?_ ?_, advances_update ?_⟩
      · intro j hj
        exact (hview.others_settle hj rfl rfl (by simp)).2
      · rw [hst]
        rfl
      · rw [hst]
        rfl
      · rw [hst]
        rfl
      · refine hi.timed.quiet rfl rfl hlater ?_ ?_ ?_
        · rw [hst]
          rfl
        · rw [hst]
          rfl
        · intro j u hu
          have hmem : .started j u ∈ (.received k o :: s.log : List (Mark V)) := hu
          simpa using hmem
      · refine hi.marked.receive ?_ rfl ?_ ?_ rfl <;> rw [hst] <;> rfl
      · rw [hst]
        simp [Stage.rank]

/-- A timer fires at its due time or later. -/
theorem fire (hi : Inv undefined stage s) {now : Int}
    (h : step undefined s (.fire k now) = some t) :
    ∃ stage', Inv undefined stage' t ∧ Advances k stage stage' := by
  simp only [step] at h
  split at h
  · rename_i due htimer
    obtain ⟨⟨hdue, hclock⟩, heq⟩ := Option.ite_none_right_eq_some.mp h
    obtain rfl := Option.some.inj heq
    rw [hi.timed.timers k] at htimer
    cases hst : stage k with
    | running linked body =>
        cases body with
        | asleep due' =>
            rw [hst] at htimer
            obtain rfl : due' = due := Option.some.inj htimer
            have hview : View undefined s.loop k (.running linked (.asleep due')) := hst ▸ hi.view k
            refine ⟨_, hi.move hview.fire ?_ ?_ ?_ ?_ rfl rfl ?_ ?_, advances_update ?_⟩
            · intro j hj
              exact (hview.others_settle hj rfl rfl (by simp [jobOwner, Handler.owner])).1
            · rw [hst]
              rfl
            · rw [hst]
              rfl
            · rw [hst]
              rfl
            · refine hi.timed.set rfl rfl hclock ?_ ?_ fun _ _ h => h
              · intro due hnone
                cases hnone
              · intro _
                exact (hi.timed.due k due' (by rw [hst]; rfl)).trans hdue
            · refine hi.marked.set ?_ ?_ ?_ <;> rw [hst] <;> rfl
            · rw [hst]
              simp [Stage.rank]
        | _ =>
            rw [hst] at htimer
            cases htimer
    | _ =>
        rw [hst] at htimer
        cases htimer
  · cases h

/-- A task is on from its start until its promise settles. -/
theorem running_iff (hi : Inv undefined stage s) (k : Nat) :
    s.Running k ↔ (stage k).begun = true ∧ (stage k).outcome = none := by
  have hstarted : s.log.any (·.isStarted k) = true ↔ ∃ now, .started k now ∈ s.log := by
    rw [List.any_eq_true]
    constructor
    · rintro ⟨x, hx, h⟩
      cases x with
      | started i now =>
          obtain rfl : i = k := of_decide_eq_true h
          exact ⟨now, hx⟩
      | _ => cases h
    · rintro ⟨now, hx⟩
      exact ⟨_, hx, decide_eq_true rfl⟩
  have hfinished : s.log.any (·.isFinished k) = true ↔ ∃ o, .finished k o ∈ s.log := by
    rw [List.any_eq_true]
    constructor
    · rintro ⟨x, hx, h⟩
      cases x with
      | finished i o =>
          obtain rfl : i = k := of_decide_eq_true h
          exact ⟨o, hx⟩
      | _ => cases h
    · rintro ⟨o, hx⟩
      exact ⟨_, hx, decide_eq_true rfl⟩
  rw [Throttle.Running, hstarted, hfinished, hi.marked.started]
  simp only [hi.marked.finished, Option.eq_none_iff_forall_ne_some, not_exists, ne_eq]

/-- The task of a call settles while it is on. -/
theorem finish (hi : Inv undefined stage s) {o : Outcome V}
    (h : step undefined s (.finish k o) = some t) :
    ∃ stage', Inv undefined stage' t ∧ Advances k stage stage' := by
  obtain ⟨hrunning, heq⟩ := Option.ite_none_right_eq_some.mp h
  obtain rfl := Option.some.inj heq
  obtain ⟨hbegun, hnone⟩ := (hi.running_iff k).mp hrunning
  -- the two stages in which the task is on
  have hcases : ∃ linked body, stage k = .running linked body ∧
      (body = .calling none ∨ body = .pending) := by
    cases hst : stage k with
    | running linked body =>
        rw [hst] at hbegun hnone
        cases body with
        | calling o' =>
            obtain rfl : o' = none := hnone
            exact ⟨linked, _, rfl, .inl rfl⟩
        | pending => exact ⟨linked, _, rfl, .inr rfl⟩
        | asleep due => cases hbegun
        | woken => cases hbegun
        | returning o' => cases hnone
    | unmade b => simp [hst, Stage.begun] at hbegun
    | waiting => simp [hst, Stage.begun] at hbegun
    | ready => simp [hst, Stage.begun] at hbegun
    | _ => simp [hst, Stage.outcome] at hnone
  obtain ⟨linked, body, hst, hbody⟩ := hcases
  have hview : View undefined s.loop k (.running linked body) := hst ▸ hi.view k
  have hmarks : ∀ j u, .started j u ∈ (.finished k o :: s.log : List (Mark V)) →
      .started j u ∈ s.log := by
    intro j u hu
    simpa using hu
  rcases hbody with rfl | rfl
  · refine ⟨_, hi.move hview.finish_early ?_ ?_ ?_ ?_ rfl rfl ?_ ?_, advances_update ?_⟩
    · intro j hj
      exact (hview.others_settle hj rfl rfl (by simp)).1
    · rw [hst]
      rfl
    · rw [hst]
      rfl
    · rw [hst]
      rfl
    · refine hi.timed.quiet rfl rfl (Int.le_refl _) ?_ ?_ hmarks <;> rw [hst] <;> rfl
    · refine hi.marked.finish rfl hbegun hnone rfl ?_
      rw [hst]
      rfl
    · rw [hst]
      simp [Stage.rank]
  · refine ⟨_, hi.move hview.finish_adopted ?_ ?_ ?_ ?_ rfl rfl ?_ ?_, advances_update ?_⟩
    · intro j hj
      exact (hview.others_settle hj rfl rfl (by simp [jobOwner, Promise.owner])).1
    · rw [hst]
      rfl
    · rw [hst]
      rfl
    · rw [hst]
      rfl
    · refine hi.timed.quiet rfl rfl (Int.le_refl _) ?_ ?_ hmarks <;> rw [hst] <;> rfl
    · refine hi.marked.finish rfl hbegun hnone rfl ?_
      rw [hst]
      rfl
    · rw [hst]
      simp [Stage.rank]

theorem call (hi : Inv undefined stage s) :
    ∃ stage', Inv undefined stage' s.throttleNominatim := by
  have hunmade : ∃ b, stage s.calls = .unmade b := by
    have hmade := mt (hi.chain.made s.calls).mp (Nat.lt_irrefl _)
    cases hst : stage s.calls with
    | unmade b => exact ⟨b, rfl⟩
    | _ => exact absurd (by rw [hst]; rfl) hmade
  obtain ⟨b, hst⟩ := hunmade
  have hview : View undefined s.loop s.calls (.unmade b) := hst ▸ hi.view s.calls
  have hnext : ∃ st, View undefined s.throttleNominatim.loop s.calls st ∧ st.made = true ∧
      (st.opened, st.closed, st.begun, st.outcome, st.answer, st.timer, st.isWoken)
        = ((stage s.calls).opened, (stage s.calls).closed, (stage s.calls).begun,
          (stage s.calls).outcome, (stage s.calls).answer, (stage s.calls).timer,
          (stage s.calls).isWoken) := by
    simp only [Throttle.throttleNominatim, hi.queue, hst]
    cases b with
    | true => exact ⟨.ready, hview.call_ready, rfl, rfl⟩
    | false => exact ⟨.waiting, hview.call_waits, rfl, rfl⟩
  obtain ⟨st, hafter, hmade, hsame⟩ := hnext
  simp only [Prod.mk.injEq] at hsame
  obtain ⟨hopened, hclosed, hbegun, houtcome, hanswer, htimer, hwoken⟩ := hsame
  have hothers : ∀ j ≠ s.calls, s.loop.SameOf Promise.owner jobOwner j s.throttleNominatim.loop := by
    intro j hj
    simp only [Throttle.throttleNominatim, hi.queue]
    refine Loop.SameOf.thenDo (Loop.SameOf.thenDo (Loop.SameOf.thenDo (.refl _) ?_ ?_) ?_ ?_) ?_ ?_
    · exact hj.symm
    · intro _
      exact hj.symm
    · exact hj.symm
    · intro _
      exact hj.symm
    · exact hj.symm
    · intro _
      exact hj.symm
  refine ⟨Function.update stage s.calls st, ?_, rfl, hi.chain.call hmade hopened hclosed,
    hi.timed.quiet rfl rfl (Int.le_refl _) htimer hwoken fun _ _ h => h,
    hi.marked.set hbegun houtcome hanswer⟩
  intro j
  by_cases hj : j = s.calls
  · subst hj
    rw [Function.update_self]
    exact hafter
  · rw [Function.update_of_ne hj]
    exact (hi.view j).same (hothers j hj)

theorem step {e : ThrottleEvent V} (hi : Inv undefined stage s)
    (h : Throttle.step undefined s e = some t) : ∃ stage', Inv undefined stage' t := by
  cases e with
  | call =>
      obtain rfl := Option.some.inj h
      exact hi.call
  | job k checkedAt now thrown =>
      obtain ⟨stage', hi', -⟩ := hi.job h
      exact ⟨stage', hi'⟩
  | fire k now =>
      obtain ⟨stage', hi', -⟩ := hi.fire h
      exact ⟨stage', hi'⟩
  | finish k o =>
      obtain ⟨stage', hi', -⟩ := hi.finish h
      exact ⟨stage', hi'⟩

end Inv

end Invariant

/-! ## What the throttle promises -/

section Promises

variable {V : Type}

/-- The starts, oldest first. -/
def starts : List (Mark V) → List (Nat × Int)
  | [] => []
  | .started k now :: log => starts log ++ [(k, now)]
  | _ :: log => starts log

theorem mem_starts {k : Nat} {now : Int} : ∀ {log : List (Mark V)},
    (k, now) ∈ starts log ↔ .started k now ∈ log := by
  intro log
  induction log with
  | nil => simp [starts]
  | cons x log ih => cases x <;> simp [starts, ih, or_comm]

theorem Orderly.started_of_finished {k : Nat} {o : Outcome V} : ∀ {log : List (Mark V)},
    Orderly log → .finished k o ∈ log → ∃ now, .started k now ∈ log := by
  intro log
  induction log with
  | nil => simp
  | cons x log ih =>
      intro h hmem
      cases x with
      | started i now =>
          obtain ⟨t, ht⟩ := ih h.2.2 (by simpa using hmem)
          exact ⟨t, List.mem_cons_of_mem _ ht⟩
      | finished i o' =>
          have hcases : (k = i ∧ o = o') ∨ .finished k o ∈ log := by simpa using hmem
          rcases hcases with ⟨rfl, -⟩ | hmem
          · obtain ⟨t, ht⟩ := h.1
            exact ⟨t, List.mem_cons_of_mem _ ht⟩
          · obtain ⟨t, ht⟩ := ih h.2.2 hmem
            exact ⟨t, List.mem_cons_of_mem _ ht⟩
      | received i o' =>
          obtain ⟨t, ht⟩ := ih h.2.2 (by simpa using hmem)
          exact ⟨t, List.mem_cons_of_mem _ ht⟩

/-- Tasks start in the order of their calls, each once. -/
theorem Orderly.starts_fst : ∀ {log : List (Mark V)}, Orderly log →
    (starts log).map Prod.fst = List.range (starts log).length := by
  intro log
  induction log with
  | nil =>
      intro _
      rfl
  | cons x log ih =>
      intro h
      cases x with
      | started k now =>
          have hold := ih h.2.2
          have hmem : ∀ i, i < (starts log).length ↔ ∃ t, .started i t ∈ log := by
            intro i
            rw [← List.mem_range, ← hold, List.mem_map]
            constructor
            · rintro ⟨⟨j, t⟩, hj, rfl⟩
              exact ⟨t, mem_starts.mp hj⟩
            · rintro ⟨t, ht⟩
              exact ⟨(i, t), mem_starts.mpr ht, rfl⟩
          have hnext : k = (starts log).length := by
            refine Nat.le_antisymm (Nat.le_of_not_lt ?_) (Nat.le_of_not_lt ?_)
            · intro hlt
              obtain ⟨o, ho⟩ := h.1 _ hlt
              exact Nat.lt_irrefl _ ((hmem _).mpr (h.2.2.started_of_finished ho))
            · intro hlt
              obtain ⟨t, ht⟩ := (hmem k).mp hlt
              exact Nat.lt_irrefl _ (h.2.1 k t ht).1
          simp [starts, hold, hnext, List.range_succ]
      | finished k o => exact ih h.2.2
      | received k o => exact ih h.2.2

theorem Orderly.starts_spaced : ∀ {log : List (Mark V)}, Orderly log →
    ((starts log).map Prod.snd).Pairwise fun t u => t + nominatimMinIntervalMs ≤ u := by
  intro log
  induction log with
  | nil =>
      intro _
      exact .nil
  | cons x log ih =>
      intro h
      cases x with
      | started k now =>
          rw [starts, List.map_append, List.pairwise_append]
          refine ⟨ih h.2.2, List.pairwise_singleton .., ?_⟩
          intro t ht u hu
          obtain ⟨⟨i, t'⟩, hmem, rfl⟩ := List.mem_map.mp ht
          rw [List.mem_singleton.mp hu]
          exact (h.2.1 i t' (mem_starts.mp hmem)).2
      | finished k o => exact ih h.2.2
      | received k o => exact ih h.2.2

namespace Throttle

/-- No job waits and no timer runs. -/
def Quiet (s : Throttle V) : Prop :=
  s.loop.jobs = [] ∧ ∀ k, s.timers k = none

/-- `inOrder`, `spaced`, `exclusive`: tasks start in call order, an interval apart, one at a
time.  `orderly`: each behind finished ones, whatever their outcome.  `own`, `unique`: a caller
receives the one outcome of its own task.  `progress`: once the jobs and timers have run, every
caller has received it, but for those behind a task that has not settled.  `jobs`, `timers`: they
can always run, and `drains`: run out. -/
structure Serialised (undefined : V) (s : Throttle V) : Prop where
  inOrder : (starts s.log).map Prod.fst = List.range (starts s.log).length
  spaced : ((starts s.log).map Prod.snd).Pairwise fun t u => t + nominatimMinIntervalMs ≤ u
  exclusive : ∀ j k, s.Running j → s.Running k → j = k
  orderly : Orderly s.log
  own : ∀ k o, .received k o ∈ s.log → .finished k o ∈ s.log
  unique : ∀ k o o', .finished k o ∈ s.log → .finished k o' ∈ s.log → o = o'
  progress : s.Quiet → ∀ k < s.calls, (∃ o, .received k o ∈ s.log) ∨ ∃ i ≤ k, s.Running i
  jobs : ∀ j ∈ s.loop.jobs, ∀ now, s.clock ≤ now → ∀ thrown,
    (s.step undefined (.job (jobOwner j) now now thrown)).isSome
  timers : ∀ k due, s.timers k = some due → ∀ now, due ≤ now → s.clock ≤ now →
    (s.step undefined (.fire k now)).isSome
  drains : ∀ es t, Run (Steps (step undefined)) s es t → .call ∉ es → es.length ≤ 11 * s.calls

variable {undefined : V} {stage : Nat → Stage V} {s t : Throttle V}

theorem inv_start (undefined : V) (clock : Int) :
    Inv undefined (fun k => .unmade (k = 0)) (start undefined clock) where
  view k := by
    have hstart : View undefined (Loop.start : Loop Promise Handler V) k (.unmade false) := by
      refine ⟨rfl, ?_⟩
      intro p x hp hx
      cases p <;> simp_all [Loop.start]
    by_cases hk : k = 0
    · subst hk
      exact hstart.opens_unmade
    · rw [decide_eq_false hk]
      have hzero : View undefined (Loop.start : Loop Promise Handler V) 0 (.unmade false) := by
        refine ⟨rfl, ?_⟩
        intro p x hp hx
        cases p <;> simp_all [Loop.start]
      exact hstart.same (hzero.others_settle hk rfl rfl (by simp)).1
  queue := rfl
  chain := ⟨rfl, fun k => by simp [Stage.opened, Stage.closed], fun k => by simp [Stage.made, start]⟩
  timed := {
    timers := fun k => rfl
    due := fun k due h => by cases h
    woken := fun k h => by cases h
    past := fun k t h => by cases h }
  marked := {
    started := fun k => by simp [start, Stage.begun]
    finished := fun k o => by simp [start, Stage.outcome]
    received := fun k o => by simp [start, Stage.answer]
    orderly := trivial }

theorem exclusive (hi : Inv undefined stage s) {j k : Nat} (hj : s.Running j) (hk : s.Running k) :
    j = k := by
  have hopen : ∀ i, s.Running i → (stage i).opened = true ∧ (stage i).closed = false := by
    intro i hrunning
    obtain ⟨hbegun, hnone⟩ := (hi.running_iff i).mp hrunning
    refine ⟨Stage.opened_of_begun hbegun, Bool.not_eq_true _ ▸ fun hclosed => ?_⟩
    obtain ⟨o, ho⟩ := Stage.outcome_of_closed hclosed
    rw [hnone] at ho
    cases ho
  exact hi.chain.alone (hopen k hk).1 (hopen k hk).2 (hopen j hj).1 (hopen j hj).2

/-- Once the jobs and timers have run, a call waits, or its task is on, or its caller has received
the outcome. -/
theorem settled_down (hi : Inv undefined stage s) (hquiet : s.Quiet) {k : Nat} (hk : k < s.calls) :
    stage k = .waiting ∨ s.Running k ∨ ∃ o, .received k o ∈ s.log := by
  have hjobs : (stage k).jobs undefined k = [] := by
    rw [← (hi.view k).jobs, hquiet.1]
    rfl
  have htimer : (stage k).timer = none := (hi.timed.timers k).symm.trans (hquiet.2 k)
  cases hst : stage k with
  | unmade b =>
      have hmade := (hi.chain.made k).mpr hk
      rw [hst] at hmade
      cases hmade
  | waiting => exact .inl rfl
  | running linked body =>
      rw [hst] at hjobs htimer
      cases body with
      | asleep due => cases htimer
      | woken => simp [Stage.jobs] at hjobs
      | calling o => simp [Stage.jobs] at hjobs
      | returning o => simp [Stage.jobs] at hjobs
      | pending =>
          refine .inr (.inl ((hi.running_iff k).mpr ?_))
          rw [hst]
          exact ⟨rfl, rfl⟩
  | received o =>
      refine .inr (.inr ⟨o, (hi.marked.received k o).mpr ?_⟩)
      rw [hst]
      rfl
  | ready => simp [hst, Stage.jobs] at hjobs
  | ended o => simp [hst, Stage.jobs] at hjobs
  | forwarding o => simp [hst, Stage.jobs] at hjobs
  | settled o => simp [hst, Stage.jobs] at hjobs
  | restarted o => simp [hst, Stage.jobs] at hjobs

/-- A call that waits has a running task before it. -/
theorem progress (hi : Inv undefined stage s) (hquiet : s.Quiet) : ∀ k < s.calls,
    (∃ o, .received k o ∈ s.log) ∨ ∃ i ≤ k, s.Running i := by
  intro k
  induction k with
  | zero =>
      intro hk
      rcases settled_down hi hquiet hk with hwaits | hrunning | hreceived
      · have hfirst := hi.chain.first
        rw [hwaits] at hfirst
        cases hfirst
      · exact .inr ⟨0, Nat.le_refl 0, hrunning⟩
      · exact .inl hreceived
  | succ k ih =>
      intro hk
      rcases settled_down hi hquiet hk with hwaits | hrunning | hreceived
      · have hclosed := hi.chain.link k
        rw [hwaits] at hclosed
        rcases ih (Nat.lt_of_succ_lt hk) with ⟨o, ho⟩ | ⟨i, hle, hrunning⟩
        · -- the call before has been received, so the queue is open
          have hanswer := (hi.marked.received k o).mp ho
          cases hst : stage k with
          | received o' =>
              rw [hst] at hclosed
              cases hclosed
          | _ =>
              rw [hst] at hanswer
              cases hanswer
        · exact .inr ⟨i, Nat.le_succ_of_le hle, hrunning⟩
      · exact .inr ⟨k + 1, Nat.le_refl _, hrunning⟩
      · exact .inl hreceived

theorem calls_runJob (s : Throttle V) (checkedAt now : Int) (thrown : Option V)
    (j : Job Promise Handler V) : (s.runJob undefined checkedAt now thrown j).calls = s.calls := by
  cases j with
  | adopt source target => rfl
  | react r o =>
      cases r with
      | forward target => rfl
      | call h derived =>
          cases h with
          | start k =>
              simp only [runJob, handle, run]
              split
              · rfl
              · cases thrown <;> rfl
          | resume k => cases thrown <;> rfl
          | restart k => rfl
          | receive k => rfl

/-- An event that is not a call takes one of the calls further. -/
theorem advances (hi : Inv undefined stage s) {e : ThrottleEvent V} (he : e ≠ .call)
    (h : step undefined s e = some t) :
    t.calls = s.calls ∧ ∃ k stage', Inv undefined stage' t ∧ Advances k stage stage' := by
  cases e with
  | call => exact absurd rfl he
  | job k checkedAt now thrown =>
      obtain ⟨stage', hi', hadvances⟩ := hi.job h
      obtain ⟨-, hjob⟩ := Option.ite_none_right_eq_some.mp h
      obtain ⟨j, -, rfl⟩ := Option.map_eq_some_iff.mp hjob
      exact ⟨calls_runJob .., k, stage', hi', hadvances⟩
  | fire k now =>
      obtain ⟨stage', hi', hadvances⟩ := hi.fire h
      refine ⟨?_, k, stage', hi', hadvances⟩
      simp only [step] at h
      split at h
      · obtain ⟨-, heq⟩ := Option.ite_none_right_eq_some.mp h
        rw [← Option.some.inj heq]
      · cases h
  | finish k o =>
      obtain ⟨stage', hi', hadvances⟩ := hi.finish h
      obtain ⟨-, heq⟩ := Option.ite_none_right_eq_some.mp h
      exact ⟨by rw [← Option.some.inj heq], k, stage', hi', hadvances⟩

/-- A call can only come so far. -/
theorem drains (hi : Inv undefined stage s) {es : List (ThrottleEvent V)}
    (h : Run (Steps (step undefined)) s es t) (hes : .call ∉ es) :
    ((List.range s.calls).map fun k => (stage k).rank).sum + es.length ≤ 11 * s.calls := by
  induction h generalizing stage with
  | nil s =>
      have hsum : ((List.range s.calls).map fun k => (stage k).rank).sum
          ≤ ((List.range s.calls).map fun _ => 11).sum :=
        List.sum_le_sum fun k _ => (stage k).rank_le
      simpa [Nat.mul_comm] using hsum
  | @cons s u t e es hstep hrest ih =>
      obtain ⟨he, hes⟩ := List.ne_and_not_mem_of_not_mem_cons hes
      obtain ⟨hcalls, k, stage', hi', hlt, hle⟩ := advances hi (Ne.symm he) hstep
      have hk : k ∈ List.range s.calls := by
        rw [List.mem_range, ← hcalls, ← hi'.chain.made k]
        cases hst : stage' k with
        | unmade b => simp [hst, Stage.rank] at hlt
        | _ => rfl
      have hsum : ((List.range s.calls).map fun k => (stage k).rank).sum
          < ((List.range s.calls).map fun k => (stage' k).rank).sum :=
        List.sum_lt_sum _ _ (fun j _ => hle j) ⟨k, hk, hlt⟩
      have hlater := ih hi' hes
      rw [hcalls] at hlater
      simp only [List.length_cons]
      omega

/-- **`throttleNominatim` runs one task at a time, in call order and an interval apart, and hands
each caller the outcome of its own task, whatever the order of calls, jobs, timers, and settled
and rejected tasks.** -/
theorem throttleNominatim_serialised {undefined : V} {clock : Int} {es : List (ThrottleEvent V)}
    {s : Throttle V} (h : Run (Steps (step undefined)) (start undefined clock) es s) :
    Serialised undefined s := by
  obtain ⟨stage, hi⟩ : ∃ stage, Inv undefined stage s := by
    refine h.invariant (I := fun s => ∃ stage, Inv undefined stage s) ?_ ⟨_, inv_start undefined clock⟩
    rintro s e t ⟨stage, hi⟩ hstep
    exact hi.step hstep
  constructor
  · exact hi.marked.orderly.starts_fst
  · exact hi.marked.orderly.starts_spaced
  · intro j k hj hk
    exact exclusive hi hj hk
  · exact hi.marked.orderly
  · intro k o hreceived
    rw [hi.marked.received] at hreceived
    rw [hi.marked.finished]
    cases hst : stage k with
    | received o' =>
        rw [hst] at hreceived
        exact hreceived
    | _ =>
        rw [hst] at hreceived
        cases hreceived
  · intro k o o' ho ho'
    rw [hi.marked.finished] at ho ho'
    exact Option.some.inj (ho.symm.trans ho')
  · exact progress hi
  · intro j hj now hnow thrown
    have hfind : (s.loop.jobs.find? (jobOwner · = jobOwner j)).isSome = true :=
      List.find?_isSome.mpr ⟨j, hj, decide_eq_true rfl⟩
    simp [step, hnow, hfind]
  · intro k due htimer now hdue hnow
    simp [step, htimer, hdue, hnow]
  · intro es t hrun hes
    have hbound := drains hi hrun hes
    omega

/-- Three calls: the first task is rejected, the second is spaced by a timer and throws, the third
is spaced as well. -/
def geocodingCalls : List (ThrottleEvent String) :=
  [.call, .call, .job 0 5000 5001 none, .finish 0 (.rejected "HTTP 429"), .call, .job 0 5002 5002 none,
    .job 0 5002 5002 none, .job 0 5003 5003 none, .job 0 5004 5004 none, .job 0 5004 5004 none,
    .job 1 5004 5005 none, .job 0 5005 5005 none, .job 1 5005 5005 none, .fire 1 6101,
    .job 1 6101 6102 (some "fetch"), .job 1 6102 6102 none, .job 1 6102 6102 none,
    .job 2 6103 6103 none, .fire 2 7300, .job 2 7300 7300 none, .job 2 7300 7300 none,
    .job 2 7300 7300 none, .finish 2 (.fulfilled "[]"), .job 1 7400 7400 none]

theorem geocodingCalls_serialised : ∃ s,
    geocodingCalls.foldlM (step "undefined") (start "undefined" 5000) = some s ∧
      Serialised "undefined" s := by
  have hsome : (geocodingCalls.foldlM (step "undefined") (start "undefined" 5000)).isSome := by
    decide +kernel
  obtain ⟨s, hs⟩ := Option.isSome_iff_exists.mp hsome
  exact ⟨s, hs, throttleNominatim_serialised (Run.of_foldlM hs)⟩

end Throttle

end Promises

end DeliveryTracking.Geocoding
