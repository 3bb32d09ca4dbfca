/-
# `DeliveryTracking.Traccar.DeviceLock` — one task at a time for a device

`withDeviceLock` of `traccar-bridge.service.ts` on the promises of
`DeliveryTracking.Promise`.  Call number `k` for a device makes four promises: the
`run` it returns, the `stored` entry of the map, the `task` promise its task
returns and, when the map has no entry, a promise that is resolved already.  The
caller awaits `run`.

The environment chooses the order: calls arrive at any time, a task settles its
promise at any time after it started, and any call's first waiting job may run
next.  The queue of the language is first in, first out, which is one of these
orders; the others cover a task whose body calls the lock itself.

    Stage       where a call stands; it determines the call's promises and jobs
    Inv         the state is the one the stages describe
    Mutex       what the lock promises, derived from `Inv`
-/
import Mathlib.Algebra.Order.BigOperators.Group.List
import Mathlib.Algebra.Order.Ring.Nat
import Mathlib.Data.List.Nodup
import DeliveryTracking.Runs
import DeliveryTracking.Promise

namespace DeliveryTracking.Traccar

/-- The `index`-th call of `withDeviceLock` for a device. -/
@[ext]
structure Call where
  device : String
  index : Nat
  deriving DecidableEq, Repr

/-- The next call for the same device. -/
def Call.next (c : Call) : Call := ⟨c.device, c.index + 1⟩

@[simp] theorem Call.next_device (c : Call) : c.next.device = c.device := rfl

@[simp] theorem Call.next_index (c : Call) : c.next.index = c.index + 1 := rfl

@[simp] theorem Call.next_ne (c : Call) : c.next ≠ c := by
  intro h
  simpa using congrArg Call.index h

theorem Call.next_inj {c c' : Call} (h : c.next = c'.next) : c = c' := by
  injection h with hdevice hindex
  exact Call.ext hdevice (Nat.succ.inj hindex)

/-- The promises of a call. -/
inductive Promise where
  | resolved (c : Call)
  | run (c : Call)
  | stored (c : Call)
  | task (c : Call)
  | received (c : Call)
  deriving DecidableEq, Repr

/-- The functions passed to `then`: `start` is `() => task()`, `cleanup` the pair
that removes the entry, `receive` the caller's `await`. -/
inductive Handler where
  | start (c : Call)
  | cleanup (c : Call)
  | receive (c : Call)
  deriving DecidableEq, Repr

def Promise.owner : Promise → Call
  | .resolved c | .run c | .stored c | .task c | .received c => c

def Handler.owner : Handler → Call
  | .start c | .cleanup c | .receive c => c

/-- The call a waiting job belongs to. -/
def jobOwner {V : Type} : Job Promise Handler V → Call
  | .react (.call h _) _ => h.owner
  | .react (.forward t) _ => t.owner
  | .adopt s _ => s.owner

/-- What can be observed of a call. -/
inductive Mark (V : Type) where
  | started (c : Call)
  | finished (c : Call) (o : Outcome V)
  | received (c : Call) (o : Outcome V)
  deriving DecidableEq, Repr

def Mark.owner {V : Type} : Mark V → Call
  | .started c | .finished c _ | .received c _ => c

/-- The task of `c` is over. -/
def Mark.isFinished {V : Type} (c : Call) : Mark V → Bool
  | .finished c' _ => c' = c
  | _ => false

/-- The promises and jobs, the map `deviceLocks`, the number of calls made for each
device, and what was observed, newest first. -/
structure Locks (V : Type) where
  loop : Loop Promise Handler V
  deviceLocks : String → Option Promise
  calls : String → Nat
  log : List (Mark V)

inductive LockEvent (V : Type) where
  | call (device : String)
  | job (c : Call) (thrown : Option V)
  | finish (c : Call) (o : Outcome V)
  deriving DecidableEq, Repr

namespace Locks

variable {V : Type}

/-- The task of `c` has started and its promise is not settled. -/
def Running (s : Locks V) (c : Call) : Prop :=
  .started c ∈ s.log ∧ ¬ s.log.any (·.isFinished c)

instance [DecidableEq V] (s : Locks V) (c : Call) : Decidable (s.Running c) :=
  inferInstanceAs (Decidable (_ ∧ _))

section Model

variable (undefined : V)

def start : Locks V := ⟨Loop.start, fun _ => none, fun _ => 0, []⟩

/-- `this.deviceLocks.get(deviceId) ?? Promise.resolve()` -/
def prev (s : Locks V) (c : Call) : Promise × Loop Promise Handler V :=
  match s.deviceLocks c.device with
  | some q => (q, s.loop)
  | none => (.resolved c, s.loop.settle (.resolved c) (.fulfilled undefined))

/-- `withDeviceLock`, with the caller's `await` of the promise it returns. -/
def withDeviceLock (s : Locks V) (device : String) : Locks V :=
  let c : Call := ⟨device, s.calls device⟩
  let (prev, loop) := s.prev undefined c
  let loop := loop.thenDo prev (.call (.start c) (.run c))
  let loop := loop.thenDo (.run c) (.call (.cleanup c) (.stored c))
  let loop := loop.thenDo (.run c) (.call (.receive c) (.received c))
  { s with
    loop := loop
    deviceLocks := Function.update s.deviceLocks device (some (.stored c))
    calls := Function.update s.calls device (c.index + 1) }

/-- `if (this.deviceLocks.get(deviceId) === stored) this.deviceLocks.delete(deviceId)` -/
def deleteEntry (s : Locks V) (c : Call) : Locks V :=
  if s.deviceLocks c.device = some (.stored c) then
    { s with deviceLocks := Function.update s.deviceLocks c.device none }
  else s

/-- The task is called: it returns its promise, or throws before it has one. -/
def callTask (s : Locks V) (c : Call) (derived : Promise) : Option V → Locks V
  | none => { s with loop := s.loop.adopt (.task c) derived, log := .started c :: s.log }
  | some e =>
      { s with
        loop := s.loop.settle derived (.rejected e)
        log := .finished c (.rejected e) :: .started c :: s.log }

/-- One handler run with the outcome of the promise it was registered on.  `start`
is registered without a second function: a rejection goes to the derived promise. -/
def handle (s : Locks V) (h : Handler) (derived : Promise) (o : Outcome V) (thrown : Option V) :
    Locks V :=
  match h, o with
  | .start c, .fulfilled _ => s.callTask c derived thrown
  | .start _, .rejected e => { s with loop := s.loop.settle derived (.rejected e) }
  | .cleanup c, _ =>
      let s := s.deleteEntry c
      { s with loop := s.loop.settle derived (.fulfilled undefined) }
  | .receive c, o =>
      { s with
        loop := s.loop.settle derived (.fulfilled undefined)
        log := .received c o :: s.log }

def runJob (s : Locks V) (thrown : Option V) : Job Promise Handler V → Locks V
  | .react (.call h derived) o => s.handle undefined h derived o thrown
  | .react (.forward target) o => { s with loop := s.loop.settle target o }
  | .adopt source target => { s with loop := s.loop.thenDo source (.forward target) }

/-- The queue without the first job of `c`. -/
def dequeue (s : Locks V) (c : Call) : Locks V :=
  { s with loop := { s.loop with jobs := s.loop.jobs.eraseP (jobOwner · = c) } }

@[simp] theorem cells_dequeue (s : Locks V) (c : Call) :
    (s.dequeue c).loop.cells = s.loop.cells := rfl

def step [DecidableEq V] (s : Locks V) : LockEvent V → Option (Locks V)
  | .call device => some (s.withDeviceLock undefined device)
  | .job c thrown => (s.loop.jobs.find? (jobOwner · = c)).map ((s.dequeue c).runJob undefined thrown)
  | .finish c o =>
      if s.Running c then
        some { s with loop := s.loop.settle (.task c) o, log := .finished c o :: s.log }
      else none

end Model

end Locks

/-! ## Where a call stands -/

/-- The life of a call: `waiting` behind the previous call, `ready` when its task
may be called, `adopting` and `running` while the task is on (it may settle in
both), `forwarding` its outcome to `run`, `settled`, then `cleaned` when the entry
has been seen to, and `received` by the caller. -/
inductive Stage (V : Type) where
  | unmade
  | waiting
  | ready
  | adopting (settled : Option (Outcome V))
  | running
  | forwarding (o : Outcome V)
  | settled (o : Outcome V)
  | cleaned (o : Outcome V)
  | received (o : Outcome V)

namespace Stage

variable {V : Type}

/-- The promise `stored` is settled: the next call need not wait. -/
def closed : Stage V → Bool
  | cleaned _ | received _ => true
  | _ => false

def begun : Stage V → Bool
  | unmade | waiting | ready => false
  | _ => true

/-- How the task ended. -/
def outcome : Stage V → Option (Outcome V)
  | adopting o => o
  | forwarding o | settled o | cleaned o | received o => some o
  | _ => none

/-- What the caller got. -/
def answer : Stage V → Option (Outcome V)
  | received o => some o
  | _ => none

/-- The waiting jobs of a call. -/
def jobs (undefined : V) (c : Call) : Stage V → List (Job Promise Handler V)
  | ready => [.react (.call (.start c) (.run c)) (.fulfilled undefined)]
  | adopting _ => [.adopt (.task c) (.run c)]
  | forwarding o => [.react (.forward (.run c)) o]
  | settled o => [.react (.call (.cleanup c) (.stored c)) o,
      .react (.call (.receive c) (.received c)) o]
  | cleaned o => [.react (.call (.receive c) (.received c)) o]
  | _ => []

def runCell (c : Call) : Stage V → Cell Promise Handler V
  | unmade => .pending []
  | settled o | cleaned o | received o => .settled o
  | _ => .pending [.call (.cleanup c) (.stored c), .call (.receive c) (.received c)]

def taskCell (c : Call) : Stage V → Option (Cell Promise Handler V)
  | unmade | waiting | ready | adopting none => some (.pending [])
  | running => some (.pending [.forward (.run c)])
  | adopting (some o) | forwarding o => some (.settled o)
  | _ => none

/-- The promise `stored`, from the stages of its call and of the next one. -/
def storedCell (undefined : V) (c : Call) (st next : Stage V) : Cell Promise Handler V :=
  match st.closed, next with
  | true, _ => .settled (.fulfilled undefined)
  | false, unmade => .pending []
  | false, _ => .pending [.call (.start c.next) (.run c.next)]

def receivedCell (undefined : V) : Stage V → Cell Promise Handler V
  | received _ => .settled (.fulfilled undefined)
  | _ => .pending []

/-- What is stored depends on the next call by whether it was made. -/
theorem storedCell_congr {undefined : V} {c : Call} {st next next' : Stage V} (h : next ≠ unmade)
    (h' : next' ≠ unmade) : st.storedCell undefined c next = st.storedCell undefined c next' := by
  unfold storedCell
  split <;> simp_all

/-- How far a call has come. -/
def rank : Stage V → Nat
  | unmade | waiting => 0
  | ready => 1
  | adopting _ => 2
  | running => 3
  | forwarding _ => 4
  | settled _ => 5
  | cleaned _ => 6
  | received _ => 7

theorem rank_le (st : Stage V) : st.rank ≤ 7 := by
  cases st <;> simp [rank]

theorem outcome_of_closed {st : Stage V} (h : st.closed = true) : ∃ o, st.outcome = some o := by
  cases st <;> simp_all [closed, outcome]

end Stage

namespace Locks

variable {V : Type}

/-- Every task that started was behind finished ones: the marks below it in the
log have the end of each earlier call for its device. -/
def Serial : List (Mark V) → Prop
  | [] => True
  | .started c :: log =>
      (∀ i < c.index, ∃ o, .finished ⟨c.device, i⟩ o ∈ log) ∧ Serial log
  | _ :: log => Serial log

/-! ## The invariant -/

section Invariant

variable (undefined : V) (stage : Call → Stage V)

/-- The waiting jobs are those of the stages, in order for each call. -/
def Queued (jobs : List (Job Promise Handler V)) : Prop :=
  ∀ c, jobs.filter (jobOwner · = c) = (stage c).jobs undefined c

/-- The promises are those of the stages. -/
structure Cells (cells : Promise → Cell Promise Handler V) : Prop where
  resolved : ∀ c, stage c = .unmade → cells (.resolved c) = .pending []
  run : ∀ c, cells (.run c) = (stage c).runCell c
  stored : ∀ c, cells (.stored c) = (stage c).storedCell undefined c (stage c.next)
  task : ∀ c x, (stage c).taskCell c = some x → cells (.task c) = x
  received : ∀ c, cells (.received c) = (stage c).receivedCell undefined

/-- A call waits exactly while the one before it is not closed, and the map holds
the last call of a device until it is closed. -/
structure Ordered (calls : String → Nat) (deviceLocks : String → Option Promise) : Prop where
  made : ∀ c, stage c = .unmade ↔ calls c.device ≤ c.index
  first : ∀ d, stage ⟨d, 0⟩ ≠ .waiting
  waits : ∀ c, stage c.next ≠ .unmade → (stage c.next = .waiting ↔ (stage c).closed = false)
  empty : ∀ d, calls d = 0 → deviceLocks d = none
  entry : ∀ c, calls c.device = c.index + 1 →
    deviceLocks c.device = if (stage c).closed then none else some (.stored c)

/-- The log records the stages. -/
structure Marked (log : List (Mark V)) : Prop where
  started : ∀ c, .started c ∈ log ↔ (stage c).begun = true
  finished : ∀ c o, .finished c o ∈ log ↔ (stage c).outcome = some o
  received : ∀ c o, .received c o ∈ log ↔ (stage c).answer = some o
  nodup : log.Nodup
  serial : Serial log

structure Inv (s : Locks V) : Prop where
  queued : Queued undefined stage s.loop.jobs
  cells : Cells undefined stage s.loop.cells
  ordered : Ordered stage s.calls s.deviceLocks
  marked : Marked stage s.log

end Invariant

theorem inv_start (undefined : V) : Inv undefined (fun _ => .unmade) (start : Locks V) where
  queued := by intro c; rfl
  cells := {
    resolved := by intro c _; rfl
    run := by intro c; rfl
    stored := by intro c; rfl
    task := by intro c x hx; exact Option.some.inj hx
    received := by intro c; rfl }
  ordered := {
    made := by intro c; simp [start]
    first := by intro d; simp
    waits := by intro c h; exact absurd rfl h
    empty := by intro d _; rfl
    entry := by intro c h; simp [start] at h }
  marked := {
    started := by intro c; simp [start, Stage.begun]
    finished := by intro c o; simp [start, Stage.outcome]
    received := by intro c o; simp [start, Stage.answer]
    nodup := List.nodup_nil
    serial := trivial }

/-! ## What a change of one stage keeps -/

section Set

variable {undefined : V} {stage : Call → Stage V} {c : Call} {st : Stage V}

/-- A log that changes for one call only. -/
theorem Marked.change {log log' : List (Mark V)} (h : Marked stage log)
    (hframe : ∀ m : Mark V, m.owner ≠ c → (m ∈ log' ↔ m ∈ log))
    (hstarted : .started c ∈ log' ↔ st.begun = true)
    (hfinished : ∀ o, .finished c o ∈ log' ↔ st.outcome = some o)
    (hreceived : ∀ o, .received c o ∈ log' ↔ st.answer = some o)
    (hnodup : log'.Nodup) (hserial : Serial log') : Marked (Function.update stage c st) log' where
  started := by
    intro c'
    by_cases hc : c' = c
    · subst hc; simpa using hstarted
    · rw [hframe (.started c') hc, h.started, Function.update_of_ne hc]
  finished := by
    intro c' o
    by_cases hc : c' = c
    · subst hc; simpa using hfinished o
    · rw [hframe (.finished c' o) hc, h.finished, Function.update_of_ne hc]
  received := by
    intro c' o
    by_cases hc : c' = c
    · subst hc; simpa using hreceived o
    · rw [hframe (.received c' o) hc, h.received, Function.update_of_ne hc]
  nodup := hnodup
  serial := hserial

/-- A stage that begins, ends and answers alike records alike. -/
theorem Marked.set {log : List (Mark V)} (h : Marked stage log) (hbegun : st.begun = (stage c).begun)
    (houtcome : st.outcome = (stage c).outcome) (hanswer : st.answer = (stage c).answer) :
    Marked (Function.update stage c st) log := by
  refine h.change (fun _ _ => Iff.rfl) ?_ ?_ ?_ h.nodup h.serial
  · rw [h.started, hbegun]
  · intro o; rw [h.finished, houtcome]
  · intro o; rw [h.received, hanswer]

/-- The task of a ready call starts once every earlier task is over. -/
theorem Marked.start {log : List (Mark V)} (h : Marked stage log)
    (hbegun : (stage c).begun = false) (hbegun' : st.begun = true)
    (houtcome : st.outcome = (stage c).outcome) (hanswer : st.answer = (stage c).answer)
    (hearlier : ∀ i < c.index, ∃ o, (stage ⟨c.device, i⟩).outcome = some o) :
    Marked (Function.update stage c st) (.started c :: log) := by
  have hnew : .started c ∉ log := by simp [h.started, hbegun]
  refine h.change ?_ ?_ ?_ ?_ (List.nodup_cons.mpr ⟨hnew, h.nodup⟩) ⟨?_, h.serial⟩
  · rintro m hm
    exact List.mem_cons.trans (or_iff_right (fun e => hm (e ▸ rfl)))
  · simp [hbegun']
  · intro o; simp [h.finished, houtcome]
  · intro o; simp [h.received, hanswer]
  · intro i hi
    obtain ⟨o, ho⟩ := hearlier i hi
    exact ⟨o, (h.finished _ _).mpr ho⟩

theorem Marked.finish {log : List (Mark V)} {o : Outcome V} (h : Marked stage log)
    (hbegun : st.begun = (stage c).begun) (hnone : (stage c).outcome = none)
    (houtcome : st.outcome = some o) (hanswer : st.answer = (stage c).answer) :
    Marked (Function.update stage c st) (.finished c o :: log) := by
  have hnew : .finished c o ∉ log := by simp [h.finished, hnone]
  refine h.change ?_ ?_ ?_ ?_ (List.nodup_cons.mpr ⟨hnew, h.nodup⟩) h.serial
  · rintro m hm
    exact List.mem_cons.trans (or_iff_right (fun e => hm (e ▸ rfl)))
  · simp [h.started, hbegun]
  · intro o'; simp [h.finished, hnone, houtcome, eq_comm]
  · intro o'; simp [h.received, hanswer]

theorem Marked.receive {log : List (Mark V)} {o : Outcome V} (h : Marked stage log)
    (hbegun : st.begun = (stage c).begun) (houtcome : st.outcome = (stage c).outcome)
    (hnone : (stage c).answer = none) (hanswer : st.answer = some o) :
    Marked (Function.update stage c st) (.received c o :: log) := by
  have hnew : .received c o ∉ log := by simp [h.received, hnone]
  refine h.change ?_ ?_ ?_ ?_ (List.nodup_cons.mpr ⟨hnew, h.nodup⟩) h.serial
  · rintro m hm
    exact List.mem_cons.trans (or_iff_right (fun e => hm (e ▸ rfl)))
  · simp [h.started, hbegun]
  · intro o'; simp [h.finished, houtcome]
  · intro o'; simp [h.received, hnone, hanswer, eq_comm]

/-- A made call that neither waits nor changes its closing keeps the order. -/
theorem Ordered.set {calls : String → Nat} {deviceLocks : String → Option Promise}
    (h : Ordered stage calls deviceLocks) (hmade : st = .unmade ↔ stage c = .unmade)
    (hwaits : st = .waiting ↔ stage c = .waiting) (hclosed : st.closed = (stage c).closed) :
    Ordered (Function.update stage c st) calls deviceLocks where
  made := by
    intro c'
    by_cases hc : c' = c
    · subst hc; simp [hmade, h.made]
    · simp [hc, h.made]
  first := by
    intro d
    by_cases hc : (⟨d, 0⟩ : Call) = c
    · subst hc; simpa [hwaits] using h.first d
    · simpa [hc] using h.first d
  waits := by
    intro c' hc'
    have hold := h.waits c'
    by_cases hn : c'.next = c
    · subst hn
      simp only [Function.update_self, ne_eq, hmade] at hc'
      simp only [Function.update_self, hwaits, Function.update_of_ne c'.next_ne.symm]
      exact hold hc'
    · rw [Function.update_of_ne hn] at hc' ⊢
      by_cases hc : c' = c
      · subst hc; simpa [hclosed] using hold hc'
      · simpa [hc] using hold hc'
  empty := h.empty
  entry := by
    intro c' hc'
    rw [h.entry c' hc']
    by_cases hc : c' = c
    · subst hc; simp [hclosed]
    · simp [hc]

/-- The last call of a device closes: the entry is removed. -/
theorem Ordered.close_last {calls : String → Nat} {deviceLocks : String → Option Promise}
    {o : Outcome V} (h : Ordered stage calls deviceLocks) (hst : stage c = .settled o)
    (hnext : stage c.next = .unmade) (hcalls : calls c.device = c.index + 1) :
    Ordered (Function.update stage c (.cleaned o)) calls
      (Function.update deviceLocks c.device none) where
  made := by
    intro c'
    by_cases hc : c' = c
    · subst hc; simp [← h.made, hst]
    · simp [hc, h.made]
  first := by
    intro d
    by_cases hc : (⟨d, 0⟩ : Call) = c
    · subst hc; simp
    · simpa [hc] using h.first d
  waits := by
    intro c' hc'
    by_cases hc : c' = c
    · subst hc
      rw [Function.update_of_ne c'.next_ne] at hc'
      exact absurd hnext hc'
    · by_cases hn : c'.next = c
      · subst hn
        simpa [Function.update_of_ne hc, hst] using h.waits c' (by simp [hst])
      · rw [Function.update_of_ne hn] at hc' ⊢
        rw [Function.update_of_ne hc]
        exact h.waits c' hc'
  empty := by
    intro d hd
    by_cases hc : d = c.device
    · subst hc; simp
    · rw [Function.update_of_ne hc, h.empty d hd]
  entry := by
    intro c' hc'
    by_cases hd : c'.device = c.device
    · obtain rfl : c' = c := by
        rw [hd, hcalls] at hc'
        exact Call.ext hd (by omega)
      simp [Stage.closed]
    · have hc : c' ≠ c := fun e => hd (e ▸ rfl)
      rw [Function.update_of_ne hd, Function.update_of_ne hc, h.entry c' hc']

/-- A call closes and the next one need not wait any more. -/
theorem Ordered.close_next {calls : String → Nat} {deviceLocks : String → Option Promise}
    {o : Outcome V} (h : Ordered stage calls deviceLocks) (hst : stage c = .settled o)
    (hnext : stage c.next = .waiting) :
    Ordered (Function.update (Function.update stage c (.cleaned o)) c.next .ready) calls
      deviceLocks where
  made := by
    intro c'
    rw [← h.made]
    by_cases hn : c' = c.next
    · subst hn; simp [hnext]
    · by_cases hc : c' = c
      · subst hc; simp [hn, hst]
      · simp [hn, hc]
  first := by
    intro d
    by_cases hn : (⟨d, 0⟩ : Call) = c.next
    · rw [hn]; simp
    · by_cases hc : (⟨d, 0⟩ : Call) = c
      · subst hc; simp [hn]
      · simpa [hn, hc] using h.first d
  waits := by
    intro c' hc'
    by_cases hc : c' = c
    · subst hc; simp [Function.update_of_ne c'.next_ne.symm, Stage.closed]
    · have hcn : c'.next ≠ c.next := fun e => hc (Call.next_inj e)
      rw [Function.update_of_ne hcn] at hc' ⊢
      by_cases hn : c'.next = c
      · subst hn
        have hnn : c' ≠ c'.next.next := by
          intro e
          have hindex := congrArg Call.index e
          simp only [Call.next_index] at hindex
          omega
        simpa [Function.update_of_ne hc, Function.update_of_ne hnn, hst]
          using h.waits c' (by simp [hst])
      · rw [Function.update_of_ne hn] at hc' ⊢
        by_cases he : c' = c.next
        · subst he
          simpa [hnext, Stage.closed] using h.waits c.next hc'
        · rw [Function.update_of_ne he, Function.update_of_ne hc]
          exact h.waits c' hc'
  empty := h.empty
  entry := by
    intro c' hc'
    rw [h.entry c' hc']
    by_cases hn : c' = c.next
    · subst hn; simp [hnext, Stage.closed]
    · have hc : c' ≠ c := by
        rintro rfl
        have hmade := mt (h.made c'.next).mpr (by simp [hnext])
        simp [hc'] at hmade
      simp [hn, hc]

/-- A new call takes the entry of its device, and waits unless the one before it is
closed. -/
theorem Ordered.call {calls : String → Nat} {deviceLocks : String → Option Promise}
    (h : Ordered stage calls deviceLocks) (hindex : c.index = calls c.device)
    (hmade : st ≠ .unmade) (hclosed : st.closed = false) (hfirst : c.index = 0 → st ≠ .waiting)
    (hwaits : ∀ p : Call, p.next = c → (st = .waiting ↔ (stage p).closed = false)) :
    Ordered (Function.update stage c st) (Function.update calls c.device (c.index + 1))
      (Function.update deviceLocks c.device (some (.stored c))) where
  made := by
    intro c'
    by_cases hc : c' = c
    · subst hc; simp [hmade]
    · rw [Function.update_of_ne hc, h.made]
      by_cases hd : c'.device = c.device
      · have hne : c'.index ≠ c.index := fun e => hc (Call.ext hd e)
        rw [hd, Function.update_self]
        omega
      · rw [Function.update_of_ne hd]
  first := by
    intro d
    by_cases hc : (⟨d, 0⟩ : Call) = c
    · subst hc; simpa using hfirst rfl
    · simpa [hc] using h.first d
  waits := by
    intro c' hc'
    by_cases hn : c'.next = c
    · rw [hn, Function.update_self, hwaits c' hn, Function.update_of_ne]
      rintro rfl
      exact c'.next_ne hn
    · rw [Function.update_of_ne hn] at hc' ⊢
      by_cases hc : c' = c
      · subst hc
        exact absurd ((h.made c'.next).mpr (by simp [hindex])) hc'
      · rw [Function.update_of_ne hc]
        exact h.waits c' hc'
  empty := by
    intro d hd
    by_cases hc : d = c.device
    · subst hc; simp at hd
    · rw [Function.update_of_ne hc] at hd ⊢
      exact h.empty d hd
  entry := by
    intro c' hc'
    by_cases hd : c'.device = c.device
    · obtain rfl : c' = c := by
        rw [hd, Function.update_self] at hc'
        exact Call.ext hd (by omega)
      simp [hclosed]
    · have hc : c' ≠ c := fun e => hd (e ▸ rfl)
      rw [Function.update_of_ne hd] at hc' ⊢
      rw [Function.update_of_ne hc, h.entry c' hc']

/-- A new call makes its own promises, and waits on the one before it unless that one is closed. -/
theorem Cells.call {cells cells' : Promise → Cell Promise Handler V}
    (h : Cells undefined stage cells) (hmade : stage c = .unmade) (hnext : stage c.next = .unmade)
    (hnew : st = .waiting ∨ st = .ready)
    (hframe : ∀ q, q ≠ .run c → q ≠ .resolved c → (∀ p : Call, p.next = c → q ≠ .stored p) →
      cells' q = cells q)
    (hrun : cells' (.run c) = st.runCell c)
    (hstored : ∀ p : Call, p.next = c →
      cells' (.stored p) = (stage p).storedCell undefined p st) :
    Cells undefined (Function.update stage c st) cells' where
  resolved := by
    intro c' hc'
    by_cases hc : c' = c
    · subst hc
      rcases hnew with rfl | rfl <;> simp at hc'
    · rw [Function.update_of_ne hc] at hc'
      rw [hframe _ (by simp) (by simp [hc]) (by simp), h.resolved c' hc']
  run := by
    intro c'
    by_cases hc : c' = c
    · subst hc
      rw [hrun, Function.update_self]
    · rw [hframe _ (by simp [hc]) (by simp) (by simp), h.run c', Function.update_of_ne hc]
  stored := by
    intro c'
    by_cases hn : c'.next = c
    · have hc : c' ≠ c := fun e => c'.next_ne (hn.trans e.symm)
      rw [hstored c' hn, hn, Function.update_self, Function.update_of_ne hc]
    · have hother : ∀ p : Call, p.next = c → Promise.stored c' ≠ .stored p := by
        rintro p hp ⟨⟩
        exact hn hp
      rw [hframe _ (by simp) (by simp) hother, h.stored, Function.update_of_ne hn]
      by_cases hc : c' = c
      · subst hc
        rw [Function.update_self, hmade, hnext]
        rcases hnew with rfl | rfl <;> rfl
      · rw [Function.update_of_ne hc]
  task := by
    intro c' x hx
    rw [hframe _ (by simp) (by simp) (by simp)]
    by_cases hc : c' = c
    · subst hc
      rw [Function.update_self] at hx
      refine h.task c' x (hmade ▸ ?_)
      rcases hnew with rfl | rfl <;> exact hx
    · rw [Function.update_of_ne hc] at hx
      exact h.task c' x hx
  received := by
    intro c'
    rw [hframe _ (by simp) (by simp) (by simp), h.received]
    by_cases hc : c' = c
    · subst hc
      rw [Function.update_self, hmade]
      rcases hnew with rfl | rfl <;> rfl
    · rw [Function.update_of_ne hc]

/-- A made call that stays made changes its own promises only. -/
theorem Cells.set {cells cells' : Promise → Cell Promise Handler V}
    (h : Cells undefined stage cells) (hmade : st ≠ .unmade) (hmade' : stage c ≠ .unmade)
    (hframe : ∀ p, p.owner ≠ c → cells' p = cells p)
    (hrun : cells' (.run c) = st.runCell c)
    (hstored : cells' (.stored c) = st.storedCell undefined c (stage c.next))
    (htask : ∀ x, st.taskCell c = some x → cells' (.task c) = x)
    (hreceived : cells' (.received c) = st.receivedCell undefined) :
    Cells undefined (Function.update stage c st) cells' where
  resolved := by
    intro c' hc'
    by_cases hc : c' = c
    · subst hc; simp [hmade] at hc'
    · rw [Function.update_of_ne hc] at hc'
      rw [hframe (.resolved c') hc, h.resolved c' hc']
  run := by
    intro c'
    by_cases hc : c' = c
    · subst hc; simpa using hrun
    · rw [hframe (.run c') hc, h.run, Function.update_of_ne hc]
  stored := by
    intro c'
    by_cases hc : c' = c
    · subst hc; simpa [Function.update_of_ne c'.next_ne] using hstored
    · rw [hframe (.stored c') hc, h.stored, Function.update_of_ne hc]
      by_cases hn : c'.next = c
      · subst hn; rw [Function.update_self, Stage.storedCell_congr hmade' hmade]
      · rw [Function.update_of_ne hn]
  task := by
    intro c' x hx
    by_cases hc : c' = c
    · subst hc; exact htask x (by simpa using hx)
    · rw [Function.update_of_ne hc] at hx
      rw [hframe (.task c') hc, h.task c' x hx]
  received := by
    intro c'
    by_cases hc : c' = c
    · subst hc; simpa using hreceived
    · rw [hframe (.received c') hc, h.received, Function.update_of_ne hc]

/-- A call that does not close keeps its promise `stored`. -/
theorem Cells.stored_same {cells : Promise → Cell Promise Handler V}
    (h : Cells undefined stage cells) (st : Stage V) (hclosed : st.closed = (stage c).closed) :
    cells (.stored c) = st.storedCell undefined c (stage c.next) := by
  simp only [h.stored, Stage.storedCell, hclosed]

/-- Jobs of `c` leave the front of its share of the queue and join at its end. -/
theorem Queued.set {jobs jobs' js : List (Job Promise Handler V)}
    (h : Queued undefined stage jobs) (hjs : ∀ j ∈ js, jobOwner j = c)
    (hframe : ∀ c' ≠ c, jobs'.filter (jobOwner · = c') = jobs.filter (jobOwner · = c'))
    (hself : jobs'.filter (jobOwner · = c) ++ js = st.jobs undefined c) :
    Queued undefined (Function.update stage c st) (jobs' ++ js) := by
  intro c'
  rw [List.filter_append]
  by_cases hc : c' = c
  · subst hc
    have hall : js.filter (jobOwner · = c') = js := List.filter_eq_self.mpr (by simpa using hjs)
    rw [hall, Function.update_self, hself]
  · have hnone : js.filter (jobOwner · = c') = [] := by
      refine List.filter_eq_nil_iff.mpr fun j hj => ?_
      simpa [hjs j hj] using fun e : c = c' => hc e.symm
    rw [hnone, List.append_nil, hframe c' hc, h, Function.update_of_ne hc]

/-- The first job of `c` has run and its handler has queued `js`. -/
theorem Queued.run {jobs js : List (Job Promise Handler V)} (h : Queued undefined stage jobs)
    (hjs : ∀ j ∈ js, jobOwner j = c)
    (hst : st.jobs undefined c = ((stage c).jobs undefined c).tail ++ js) :
    Queued undefined (Function.update stage c st) (jobs.eraseP (jobOwner · = c) ++ js) := by
  refine h.set hjs (fun c' hc' => ?_) ?_
  · refine filter_eraseP_of_disjoint (fun j hj => ?_) jobs
    simpa [of_decide_eq_true hj] using fun e : c = c' => hc' e.symm
  · rw [filter_eraseP_self, h c, hst]

theorem Queued.push {jobs js : List (Job Promise Handler V)} (h : Queued undefined stage jobs)
    (hjs : ∀ j ∈ js, jobOwner j = c) (hst : st.jobs undefined c = (stage c).jobs undefined c ++ js) :
    Queued undefined (Function.update stage c st) (jobs ++ js) := by
  refine h.set hjs (fun _ _ => rfl) ?_
  rw [h c, hst]

end Set

/-! ## One lemma for each thing that happens -/

section Transitions

variable {undefined : V} {stage : Call → Stage V} {s : Locks V} {c : Call}

/-- Behind a call that does not wait, every call of its device is closed. -/
theorem Ordered.closed_of_lt {calls : String → Nat} {deviceLocks : String → Option Promise}
    (h : Ordered stage calls deviceLocks) {d : String} : ∀ {k : Nat}, stage ⟨d, k⟩ ≠ .unmade →
      stage ⟨d, k⟩ ≠ .waiting → ∀ i < k, (stage ⟨d, i⟩).closed = true := by
  intro k
  induction k with
  | zero => intro _ _ i hi; exact absurd hi (Nat.not_lt_zero i)
  | succ k ih =>
      intro hmade hwaits i hi
      have hk : (stage ⟨d, k⟩).closed = true := by
        simpa using mt (h.waits ⟨d, k⟩ hmade).mpr hwaits
      rcases Nat.lt_succ_iff_lt_or_eq.mp hi with hi | rfl
      · refine ih ?_ ?_ i hi <;> intro e <;> simp [e, Stage.closed] at hk
      · exact hk

/-- The task of a ready call is called and returns its promise. -/
theorem Inv.callTask_none (hi : Inv undefined stage s) (hst : stage c = .ready) :
    Inv undefined (Function.update stage c (.adopting none))
      ((s.dequeue c).callTask c (.run c) none) where
  queued := by
    refine hi.queued.run ?_ ?_
    · simp [jobOwner, Promise.owner]
    · simp [hst, Stage.jobs]
  cells := by
    refine hi.cells.set (by simp) (by simp [hst]) (fun _ _ => rfl) ?_
      (hi.cells.stored_same _ (by simp [hst, Stage.closed])) ?_ ?_
    · exact (hi.cells.run c).trans (by simp [hst, Stage.runCell])
    · intro x hx
      exact hi.cells.task c x (by simpa [hst, Stage.taskCell] using hx)
    · exact (hi.cells.received c).trans (by simp [hst, Stage.receivedCell])
  ordered := hi.ordered.set (by simp [hst]) (by simp [hst]) (by simp [hst, Stage.closed])
  marked := by
    refine hi.marked.start (by simp [hst, Stage.begun]) rfl (by simp [hst, Stage.outcome])
      (by simp [hst, Stage.answer]) fun i hlt => ?_
    exact Stage.outcome_of_closed
      (hi.ordered.closed_of_lt (by simp [hst]) (by simp [hst]) i hlt)

/-- Overwriting a promise of `c` leaves those of the other calls. -/
theorem update_frame {cells : Promise → Cell Promise Handler V} {p : Promise} (hp : p.owner = c)
    (x : Cell Promise Handler V) (q : Promise) (hq : q.owner ≠ c) :
    Function.update cells p x q = cells q := by
  refine Function.update_of_ne ?_ _ _
  rintro rfl
  exact hq hp

/-- The entry of a call that is not the last one has been replaced. -/
theorem Ordered.entry_ne {calls : String → Nat} {deviceLocks : String → Option Promise}
    (h : Ordered stage calls deviceLocks) (hnext : stage c.next ≠ .unmade) :
    deviceLocks c.device ≠ some (.stored c) := by
  have hlt : c.index + 1 < calls c.device := by
    simpa using mt (h.made c.next).mpr hnext
  obtain ⟨k, hk⟩ : ∃ k, calls c.device = k + 1 := ⟨calls c.device - 1, by omega⟩
  rw [h.entry ⟨c.device, k⟩ hk]
  split
  · simp
  · intro e
    have hindex : k = c.index := congrArg Call.index (Promise.stored.inj (Option.some.inj e))
    omega

/-- Settling `run` queues the clean-up before the caller's continuation. -/
theorem Cells.settle_run {m : Loop Promise Handler V} (h : Cells undefined stage m.cells)
    (hst : (stage c).runCell c =
      .pending [.call (.cleanup c) (.stored c), .call (.receive c) (.received c)])
    (o : Outcome V) :
    m.settle (.run c) o =
      (m.put (.run c) (.settled o)).enqueue ((Stage.settled o).jobs undefined c) :=
  Loop.settle_of_pending ((h.run c).trans hst) o

/-- The promises once `run` is settled. -/
theorem Cells.settled {cells : Promise → Cell Promise Handler V} (h : Cells undefined stage cells)
    (hmade : stage c ≠ .unmade) (hclosed : (stage c).closed = false)
    (hreceived : (stage c).receivedCell undefined = .pending []) (o : Outcome V) :
    Cells undefined (Function.update stage c (.settled o))
      (Function.update cells (.run c) (.settled o)) := by
  refine h.set (by simp) hmade (update_frame (p := .run c) rfl _)
    (by simp [Stage.runCell]) ?_ ?_ ?_
  · rw [Function.update_of_ne (by simp), h.stored_same (.settled o) hclosed.symm]
  · intro x hx; cases hx
  · rw [Function.update_of_ne (by simp), h.received, hreceived]
    rfl

/-- The task of a ready call throws before it has a promise. -/
theorem Inv.callTask_some (hi : Inv undefined stage s) (hst : stage c = .ready) (e : V) :
    Inv undefined (Function.update stage c (.settled (.rejected e)))
      ((s.dequeue c).callTask c (.run c) (some e)) := by
  have hcells : Cells undefined stage (s.dequeue c).loop.cells := hi.cells
  have hrun := hcells.settle_run (c := c) (by simp [hst, Stage.runCell]) (.rejected e)
  refine ⟨?_, ?_, ?_, ?_⟩
  · simp only [callTask, hrun]
    refine hi.queued.run ?_ (by simp [hst, Stage.jobs])
    simp [Stage.jobs, jobOwner, Handler.owner]
  · simp only [callTask, hrun]
    exact hi.cells.settled (by simp [hst]) (by simp [hst, Stage.closed])
      (by simp [hst, Stage.receivedCell]) _
  · exact hi.ordered.set (by simp [hst]) (by simp [hst]) (by simp [hst, Stage.closed])
  · have hstarted := (hi.callTask_none hst).marked
    have hfinished : Marked
        (Function.update (Function.update stage c (.adopting none)) c (.settled (.rejected e)))
        (.finished c (.rejected e) :: .started c :: s.log) :=
      hstarted.finish (by simp [Stage.begun]) (by simp [Stage.outcome]) rfl (by simp [Stage.answer])
    rwa [Function.update_idem] at hfinished

/-- `run` adopts the promise of a task that is still on. -/
theorem Inv.adopt_pending (hi : Inv undefined stage s) (hst : stage c = .adopting none) :
    Inv undefined (Function.update stage c .running)
      { s.dequeue c with
        loop := (s.dequeue c).loop.thenDo (.task c) (.forward (.run c)) } := by
  have htask : (s.dequeue c).loop.cells (.task c) = .pending [] :=
    hi.cells.task c _ (by simp [hst, Stage.taskCell])
  rw [Loop.thenDo_of_pending htask]
  refine ⟨?_, ?_, ?_, ?_⟩
  · have h : Queued undefined (Function.update stage c .running)
        (s.loop.jobs.eraseP (jobOwner · = c) ++ []) :=
      hi.queued.run (by simp) (by simp [hst, Stage.jobs])
    rwa [List.append_nil] at h
  · refine hi.cells.set (by simp) (by simp [hst])
      (fun q hq => update_frame (p := .task c) rfl _ q hq) ?_ ?_ ?_ ?_
    · simp [hi.cells.run c, hst, Stage.runCell]
    · simpa using hi.cells.stored_same .running (by simp [hst, Stage.closed])
    · intro x hx
      obtain rfl : _ = x := Option.some.inj hx
      simp
    · simp [hi.cells.received c, hst, Stage.receivedCell]
  · exact hi.ordered.set (by simp [hst]) (by simp [hst]) (by simp [hst, Stage.closed])
  · exact hi.marked.set (by simp [hst, Stage.begun]) (by simp [hst, Stage.outcome])
      (by simp [hst, Stage.answer])

/-- `run` adopts the promise of a task that has settled already. -/
theorem Inv.adopt_settled {o : Outcome V} (hi : Inv undefined stage s)
    (hst : stage c = .adopting (some o)) :
    Inv undefined (Function.update stage c (.forwarding o))
      { s.dequeue c with
        loop := (s.dequeue c).loop.thenDo (.task c) (.forward (.run c)) } := by
  have htask : (s.dequeue c).loop.cells (.task c) = .settled o :=
    hi.cells.task c _ (by simp [hst, Stage.taskCell])
  rw [Loop.thenDo_of_settled htask]
  refine ⟨?_, ?_, ?_, ?_⟩
  · refine hi.queued.run ?_ (by simp [hst, Stage.jobs])
    simp [jobOwner, Promise.owner]
  · refine hi.cells.set (by simp) (by simp [hst]) (fun _ _ => rfl) ?_
      (hi.cells.stored_same _ (by simp [hst, Stage.closed])) ?_ ?_
    · exact (hi.cells.run c).trans (by simp [hst, Stage.runCell])
    · intro x hx
      obtain rfl : _ = x := Option.some.inj hx
      exact htask
    · exact (hi.cells.received c).trans (by simp [hst, Stage.receivedCell])
  · exact hi.ordered.set (by simp [hst]) (by simp [hst]) (by simp [hst, Stage.closed])
  · exact hi.marked.set (by simp [hst, Stage.begun]) (by simp [hst, Stage.outcome])
      (by simp [hst, Stage.answer])

/-- The outcome of the task reaches `run`. -/
theorem Inv.forward {o : Outcome V} (hi : Inv undefined stage s) (hst : stage c = .forwarding o) :
    Inv undefined (Function.update stage c (.settled o))
      { s.dequeue c with loop := (s.dequeue c).loop.settle (.run c) o } := by
  have hcells : Cells undefined stage (s.dequeue c).loop.cells := hi.cells
  have hrun := hcells.settle_run (c := c) (by simp [hst, Stage.runCell]) o
  refine ⟨?_, ?_, ?_, ?_⟩
  · simp only [hrun]
    refine hi.queued.run ?_ (by simp [hst, Stage.jobs])
    simp [Stage.jobs, jobOwner, Handler.owner]
  · simp only [hrun]
    exact hi.cells.settled (by simp [hst]) (by simp [hst, Stage.closed])
      (by simp [hst, Stage.receivedCell]) _
  · exact hi.ordered.set (by simp [hst]) (by simp [hst]) (by simp [hst, Stage.closed])
  · exact hi.marked.set (by simp [hst, Stage.begun]) (by simp [hst, Stage.outcome])
      (by simp [hst, Stage.answer])

/-- The caller goes on with the outcome. -/
theorem Inv.receive {o : Outcome V} (hi : Inv undefined stage s) (hst : stage c = .cleaned o) :
    Inv undefined (Function.update stage c (.received o))
      ((s.dequeue c).handle undefined (.receive c) (.received c) o none) := by
  have hcell : (s.dequeue c).loop.cells (.received c) = .pending [] :=
    (hi.cells.received c).trans (by simp [hst, Stage.receivedCell])
  refine ⟨?_, ?_, ?_, ?_⟩
  · simp only [handle, Loop.settle_of_pending hcell]
    exact hi.queued.run (by simp) (by simp [hst, Stage.jobs])
  · simp only [handle, Loop.settle_of_pending hcell]
    refine hi.cells.set (by simp) (by simp [hst])
      (fun q hq => update_frame (p := .received c) rfl _ q hq) ?_ ?_ ?_ ?_
    · simp [hi.cells.run c, hst, Stage.runCell]
    · simpa using hi.cells.stored_same (.received o) (by simp [hst, Stage.closed])
    · intro x hx; cases hx
    · simp [Stage.receivedCell]
  · exact hi.ordered.set (by simp [hst]) (by simp [hst]) (by simp [hst, Stage.closed])
  · exact hi.marked.receive (by simp [hst, Stage.begun]) (by simp [hst, Stage.outcome])
      (by simp [hst, Stage.answer]) rfl

/-- The clean-up removes the entry of the last call of a device. -/
theorem Inv.cleanup_last {o : Outcome V} (hi : Inv undefined stage s) (hst : stage c = .settled o)
    (hnext : stage c.next = .unmade) :
    Inv undefined (Function.update stage c (.cleaned o))
      ((s.dequeue c).handle undefined (.cleanup c) (.stored c) o none) := by
  have hcalls : s.calls c.device = c.index + 1 := by
    have hle := (hi.ordered.made c.next).mp hnext
    have hlt := mt (hi.ordered.made c).mpr (by simp [hst])
    simp only [Call.next_device, Call.next_index] at hle
    omega
  have hentry : s.deviceLocks c.device = some (.stored c) := by
    simpa [hst, Stage.closed] using hi.ordered.entry c hcalls
  have hcell : (s.dequeue c).loop.cells (.stored c) = .pending [] := by
    simp [hi.cells.stored c, hst, hnext, Stage.storedCell, Stage.closed]
  have hsettle : (s.dequeue c).loop.settle (.stored c) (.fulfilled undefined) = _ :=
    Loop.settle_of_pending hcell _
  have hstate : (s.dequeue c).handle undefined (.cleanup c) (.stored c) o none =
      { s with
        loop := ((s.dequeue c).loop.put (.stored c) (.settled (.fulfilled undefined))).enqueue []
        deviceLocks := Function.update s.deviceLocks c.device none } := by
    have hdelete : (s.dequeue c).deleteEntry c = _ := if_pos hentry
    simp only [handle, hdelete, hsettle]
    rfl
  rw [hstate]
  refine ⟨?_, ?_, ?_, ?_⟩
  · exact hi.queued.run (by simp) (by simp [hst, Stage.jobs])
  · refine hi.cells.set (by simp) (by simp [hst])
      (fun q hq => update_frame (p := .stored c) rfl _ q hq) ?_ ?_ ?_ ?_
    · simp [hi.cells.run c, hst, Stage.runCell]
    · simp [Stage.storedCell, Stage.closed]
    · intro x hx; cases hx
    · simp [hi.cells.received c, hst, Stage.receivedCell]
  · exact hi.ordered.close_last hst hnext hcalls
  · exact hi.marked.set (by simp [hst, Stage.begun]) (by simp [hst, Stage.outcome])
      (by simp [hst, Stage.answer])

/-- The clean-up leaves the entry of a later call, and lets the next call go. -/
theorem Inv.cleanup_next {o : Outcome V} (hi : Inv undefined stage s) (hst : stage c = .settled o)
    (hnext : stage c.next = .waiting) :
    Inv undefined (Function.update (Function.update stage c (.cleaned o)) c.next .ready)
      ((s.dequeue c).handle undefined (.cleanup c) (.stored c) o none) := by
  have hentry : s.deviceLocks c.device ≠ some (.stored c) :=
    hi.ordered.entry_ne (by simp [hnext])
  have hcell : (s.dequeue c).loop.cells (.stored c) =
      .pending [.call (.start c.next) (.run c.next)] := by
    simp [hi.cells.stored c, hst, hnext, Stage.storedCell, Stage.closed]
  have hsettle : (s.dequeue c).loop.settle (.stored c) (.fulfilled undefined) = _ :=
    Loop.settle_of_pending hcell _
  have hstate : (s.dequeue c).handle undefined (.cleanup c) (.stored c) o none =
      { s with
        loop := ((s.dequeue c).loop.put (.stored c) (.settled (.fulfilled undefined))).enqueue
          (Stage.ready.jobs undefined c.next) } := by
    have hdelete : (s.dequeue c).deleteEntry c = _ := if_neg hentry
    simp only [handle, hdelete, hsettle]
    rfl
  rw [hstate]
  refine ⟨?_, ?_, ?_, ?_⟩
  · have hdone : Queued undefined (Function.update stage c (.cleaned o))
        (s.loop.jobs.eraseP (jobOwner · = c) ++ []) :=
      hi.queued.run (by simp) (by simp [hst, Stage.jobs])
    rw [List.append_nil] at hdone
    refine hdone.push (by simp [Stage.jobs, jobOwner, Handler.owner]) ?_
    rw [Function.update_of_ne c.next_ne, hnext]
    rfl
  · have hdone : Cells undefined (Function.update stage c (.cleaned o))
        (Function.update s.loop.cells (.stored c) (.settled (.fulfilled undefined))) := by
      refine hi.cells.set (by simp) (by simp [hst])
        (fun q hq => update_frame (p := .stored c) rfl _ q hq) ?_ ?_ ?_ ?_
      · simp [hi.cells.run c, hst, Stage.runCell]
      · simp [Stage.storedCell, Stage.closed]
      · intro x hx; cases hx
      · simp [hi.cells.received c, hst, Stage.receivedCell]
    have hwaits : Function.update stage c (.cleaned o) c.next = .waiting := by simp [hnext]
    refine hdone.set (by simp) (by simp [hnext]) (fun _ _ => rfl) ?_ ?_ ?_ ?_
    · exact (hdone.run c.next).trans (by rw [hwaits]; rfl)
    · exact hdone.stored_same _ (by rw [hwaits]; rfl)
    · intro x hx
      exact hdone.task c.next x (by rw [hwaits]; exact hx)
    · exact (hdone.received c.next).trans (by rw [hwaits]; rfl)
  · exact hi.ordered.close_next hst hnext
  · refine Marked.set (hi.marked.set (by simp [hst, Stage.begun]) (by simp [hst, Stage.outcome])
      (by simp [hst, Stage.answer])) ?_ ?_ ?_
    · simp [c.next_ne, hnext, Stage.begun]
    · simp [c.next_ne, hnext, Stage.outcome]
    · simp [c.next_ne, hnext, Stage.answer]

/-- A task settles its promise before `run` has adopted it. -/
theorem Inv.finish_early {o : Outcome V} (hi : Inv undefined stage s)
    (hst : stage c = .adopting none) :
    Inv undefined (Function.update stage c (.adopting (some o)))
      { s with loop := s.loop.settle (.task c) o, log := .finished c o :: s.log } := by
  have htask : s.loop.cells (.task c) = .pending [] :=
    hi.cells.task c _ (by simp [hst, Stage.taskCell])
  rw [Loop.settle_of_pending htask]
  refine ⟨?_, ?_, ?_, ?_⟩
  · exact hi.queued.push (by simp) (by simp [hst, Stage.jobs])
  · refine hi.cells.set (by simp) (by simp [hst])
      (fun q hq => update_frame (p := .task c) rfl _ q hq) ?_ ?_ ?_ ?_
    · simp [hi.cells.run c, hst, Stage.runCell]
    · simpa using hi.cells.stored_same (.adopting (some o)) (by simp [hst, Stage.closed])
    · intro x hx
      obtain rfl : _ = x := Option.some.inj hx
      simp
    · simp [hi.cells.received c, hst, Stage.receivedCell]
  · exact hi.ordered.set (by simp [hst]) (by simp [hst]) (by simp [hst, Stage.closed])
  · exact hi.marked.finish (by simp [hst, Stage.begun]) (by simp [hst, Stage.outcome]) rfl
      (by simp [hst, Stage.answer])

/-- A task settles its promise once `run` has adopted it. -/
theorem Inv.finish_adopted {o : Outcome V} (hi : Inv undefined stage s)
    (hst : stage c = .running) :
    Inv undefined (Function.update stage c (.forwarding o))
      { s with loop := s.loop.settle (.task c) o, log := .finished c o :: s.log } := by
  have htask : s.loop.cells (.task c) = .pending [.forward (.run c)] :=
    hi.cells.task c _ (by simp [hst, Stage.taskCell])
  rw [Loop.settle_of_pending htask]
  refine ⟨?_, ?_, ?_, ?_⟩
  · refine hi.queued.push ?_ (by simp [hst, Stage.jobs])
    simp [jobOwner, Promise.owner]
  · refine hi.cells.set (by simp) (by simp [hst])
      (fun q hq => update_frame (p := .task c) rfl _ q hq) ?_ ?_ ?_ ?_
    · simp [hi.cells.run c, hst, Stage.runCell]
    · simpa using hi.cells.stored_same (.forwarding o) (by simp [hst, Stage.closed])
    · intro x hx
      obtain rfl : _ = x := Option.some.inj hx
      simp
    · simp [hi.cells.received c, hst, Stage.receivedCell]
  · exact hi.ordered.set (by simp [hst]) (by simp [hst]) (by simp [hst, Stage.closed])
  · exact hi.marked.finish (by simp [hst, Stage.begun]) (by simp [hst, Stage.outcome]) rfl
      (by simp [hst, Stage.answer])

/-- A call that finds no entry is ready. -/
theorem Inv.call_ready {d : String} (hi : Inv undefined stage s) (hc : c = ⟨d, s.calls d⟩)
    (hnone : s.deviceLocks d = none) :
    Inv undefined (Function.update stage c .ready) (s.withDeviceLock undefined d) := by
  subst hc
  set c : Call := ⟨d, s.calls d⟩ with hc
  have hmade : stage c = .unmade := (hi.ordered.made c).mpr (Nat.le_refl _)
  have hnext : stage c.next = .unmade := (hi.ordered.made c.next).mpr (by simp [hc])
  have hprev : ∀ p : Call, p.next = c → (stage p).closed = true := by
    intro p hp
    have hcalls : s.calls p.device = p.index + 1 := by
      have hd : p.device = d := congrArg Call.device hp
      have hindex : p.index + 1 = s.calls d := congrArg Call.index hp
      rw [hd, hindex]
    have hentry := hi.ordered.entry p hcalls
    rw [show p.device = d from congrArg Call.device hp, hnone] at hentry
    by_contra hopen
    simp [hopen] at hentry
  have hresolved : s.loop.settle (.resolved c) (.fulfilled undefined) = _ :=
    Loop.settle_of_pending (hi.cells.resolved c hmade) _
  have hrun : s.loop.cells (.run c) = .pending [] := by
    simp [hi.cells.run c, hmade, Stage.runCell]
  have hstate : s.withDeviceLock undefined d =
      { loop := ⟨Function.update (Function.update s.loop.cells (.resolved c)
            (.settled (.fulfilled undefined))) (.run c) (Stage.ready.runCell c),
          s.loop.jobs ++ Stage.ready.jobs undefined c⟩
        deviceLocks := Function.update s.deviceLocks d (some (.stored c))
        calls := Function.update s.calls d (s.calls d + 1)
        log := s.log } := by
    simp only [withDeviceLock, prev, ← hc, hnone, hresolved]
    rw [Loop.thenDo_of_settled (p := Promise.resolved c) (o := .fulfilled undefined) (by simp),
      Loop.thenDo_thenDo_of_pending (l := []) (by simpa using hrun)]
    simp [Loop.put, Loop.enqueue, Stage.jobs, Stage.runCell]
  rw [hstate]
  refine ⟨?_, ?_, ?_, ?_⟩
  · exact hi.queued.push (by simp [Stage.jobs, jobOwner, Handler.owner])
      (by simp [hmade, Stage.jobs])
  · refine hi.cells.call hmade hnext (.inr rfl) (fun q hq hq' _ => ?_) (by simp) fun p hp => ?_
    · simp [hq, hq']
    · simp [hi.cells.stored p, hprev p hp, Stage.storedCell]
  · refine hi.ordered.call (c := c) rfl (by simp) rfl (by simp) fun p hp => ?_
    simp [hprev p hp]
  · exact hi.marked.set (by simp [hmade, Stage.begun]) (by simp [hmade, Stage.outcome])
      (by simp [hmade, Stage.answer])

/-- A call that finds an entry waits for it. -/
theorem Inv.call_waits {p : Call} (hi : Inv undefined stage s)
    (hcalls : s.calls p.device = p.index + 1) (hclosed : (stage p).closed = false) :
    Inv undefined (Function.update stage p.next .waiting)
      (s.withDeviceLock undefined p.device) := by
  have hmade : stage p.next = .unmade := (hi.ordered.made p.next).mpr (by simp [hcalls])
  have hnext : stage p.next.next = .unmade := (hi.ordered.made p.next.next).mpr (by simp [hcalls])
  have hentry : s.deviceLocks p.device = some (.stored p) := by
    simpa [hclosed] using hi.ordered.entry p hcalls
  have hstored : s.loop.cells (.stored p) = .pending [] := by
    simp [hi.cells.stored p, hclosed, hmade, Stage.storedCell]
  have hrun : s.loop.cells (.run p.next) = .pending [] := by
    simp [hi.cells.run p.next, hmade, Stage.runCell]
  have hstate : s.withDeviceLock undefined p.device =
      { loop := ⟨Function.update (Function.update s.loop.cells (.stored p)
            (.pending [.call (.start p.next) (.run p.next)])) (.run p.next)
            (Stage.waiting.runCell p.next), s.loop.jobs⟩
        deviceLocks := Function.update s.deviceLocks p.device (some (.stored p.next))
        calls := Function.update s.calls p.device (p.next.index + 1)
        log := s.log } := by
    have hc : (⟨p.device, p.index + 1⟩ : Call) = p.next := rfl
    simp only [withDeviceLock, prev, hcalls, hc, hentry]
    rw [Loop.thenDo_of_pending hstored, Loop.thenDo_thenDo_of_pending (l := []) (by simpa using hrun)]
    simp [Loop.put, Stage.runCell]
  rw [hstate]
  refine ⟨?_, ?_, ?_, ?_⟩
  · have h : Queued undefined (Function.update stage p.next .waiting) (s.loop.jobs ++ []) :=
      hi.queued.push (by simp) (by simp [hmade, Stage.jobs])
    rwa [List.append_nil] at h
  · refine hi.cells.call hmade hnext (.inl rfl) (fun q hq _ hother => ?_) (by simp) fun q hq => ?_
    · simp [hq, hother p rfl]
    · obtain rfl := Call.next_inj hq
      simp [hclosed, Stage.storedCell]
  · refine hi.ordered.call (c := p.next) (by simp [hcalls]) (by simp) rfl (by simp) fun q hq => ?_
    simp [Call.next_inj hq, hclosed]
  · exact hi.marked.set (by simp [hmade, Stage.begun]) (by simp [hmade, Stage.outcome])
      (by simp [hmade, Stage.answer])

/-- A step that takes `c` further and none back. -/
def Advances (c : Call) (stage stage' : Call → Stage V) : Prop :=
  (stage c).rank < (stage' c).rank ∧ ∀ c', (stage c').rank ≤ (stage' c').rank

theorem Advances.update {st : Stage V} (h : (stage c).rank < st.rank) :
    Advances c stage (Function.update stage c st) := by
  refine ⟨by simpa using h, fun c' => ?_⟩
  by_cases hc : c' = c
  · subst hc; simpa using Nat.le_of_lt h
  · simp [hc]

theorem Advances.also {stage' : Call → Stage V} {c' : Call} {st : Stage V}
    (h : Advances c stage stage') (hst : (stage' c').rank ≤ st.rank) :
    Advances c stage (Function.update stage' c' st) := by
  have hle : ∀ x, (stage' x).rank ≤ (Function.update stage' c' st x).rank := by
    intro x
    by_cases hx : x = c'
    · subst hx; simpa using hst
    · simp [hx]
  exact ⟨Nat.lt_of_lt_of_le h.1 (hle c), fun x => Nat.le_trans (h.2 x) (hle x)⟩

/-- A task is on from the start of its call until its promise settles. -/
theorem Inv.running_iff (hi : Inv undefined stage s) (c : Call) :
    s.Running c ↔ (stage c).begun = true ∧ (stage c).outcome = none := by
  have hfinished : (s.log.any (·.isFinished c)) = true ↔ ∃ o, .finished c o ∈ s.log := by
    rw [List.any_eq_true]
    constructor
    · rintro ⟨m, hm, h⟩
      cases m with
      | finished c' o =>
          obtain rfl : c' = c := of_decide_eq_true h
          exact ⟨o, hm⟩
      | _ => cases h
    · rintro ⟨o, ho⟩
      exact ⟨_, ho, decide_eq_true rfl⟩
  rw [Running, hfinished, hi.marked.started]
  simp only [hi.marked.finished, Option.eq_none_iff_forall_ne_some, not_exists, ne_eq]

section Step

variable [DecidableEq V] {t : Locks V}

theorem Inv.step_job (hi : Inv undefined stage s) (c : Call) (thrown : Option V) :
    step undefined s (.job c thrown) =
      ((stage c).jobs undefined c).head?.map ((s.dequeue c).runJob undefined thrown) := by
  simp only [step, ← List.head?_filter, hi.queued c]

/-- A job takes its call one stage further. -/
theorem Inv.job {thrown : Option V} (hi : Inv undefined stage s)
    (h : step undefined s (.job c thrown) = some t) :
    ∃ stage', Inv undefined stage' t ∧ Advances c stage stage' := by
  rw [hi.step_job] at h
  cases hst : stage c with
  | unmade | waiting | running | received o => simp [hst, Stage.jobs] at h
  | ready =>
      obtain rfl : (s.dequeue c).callTask c (.run c) thrown = t := by
        simpa [hst, Stage.jobs, runJob, handle] using h
      cases thrown with
      | none => exact ⟨_, hi.callTask_none hst, .update (by simp [hst, Stage.rank])⟩
      | some e => exact ⟨_, hi.callTask_some hst e, .update (by simp [hst, Stage.rank])⟩
  | adopting o =>
      obtain rfl := Option.some.inj (by simpa [hst, Stage.jobs] using h)
      cases o with
      | none => exact ⟨_, hi.adopt_pending hst, .update (by simp [hst, Stage.rank])⟩
      | some o => exact ⟨_, hi.adopt_settled hst, .update (by simp [hst, Stage.rank])⟩
  | forwarding o =>
      obtain rfl := Option.some.inj (by simpa [hst, Stage.jobs] using h)
      exact ⟨_, hi.forward hst, .update (by simp [hst, Stage.rank])⟩
  | settled o =>
      obtain rfl := Option.some.inj (by simpa [hst, Stage.jobs] using h)
      by_cases hnext : stage c.next = .unmade
      · exact ⟨_, hi.cleanup_last hst hnext, .update (by simp [hst, Stage.rank])⟩
      · have hwaits := (hi.ordered.waits c hnext).mpr (by simp [hst, Stage.closed])
        refine ⟨_, hi.cleanup_next hst hwaits, .also (.update ?_) ?_⟩
        · simp [hst, Stage.rank]
        · simp [hwaits, Stage.rank]
  | cleaned o =>
      obtain rfl := Option.some.inj (by simpa [hst, Stage.jobs] using h)
      exact ⟨_, hi.receive hst, .update (by simp [hst, Stage.rank])⟩

/-- The task of a call settles while it is on. -/
theorem Inv.finish {o : Outcome V} (hi : Inv undefined stage s)
    (h : step undefined s (.finish c o) = some t) : ∃ stage', Inv undefined stage' t := by
  simp only [Locks.step] at h
  split at h
  · rename_i hrunning
    obtain rfl := Option.some.inj h
    obtain ⟨hbegun, hnone⟩ := (hi.running_iff c).mp hrunning
    cases hst : stage c with
    | adopting o' =>
        obtain rfl : o' = none := by simpa [hst, Stage.outcome] using hnone
        exact ⟨_, hi.finish_early hst⟩
    | running => exact ⟨_, hi.finish_adopted hst⟩
    | unmade | waiting | ready => simp [hst, Stage.begun] at hbegun
    | forwarding o' | settled o' | cleaned o' | received o' => simp [hst, Stage.outcome] at hnone
  · cases h

omit [DecidableEq V] in
theorem Inv.call {d : String} (hi : Inv undefined stage s) :
    ∃ stage', Inv undefined stage' (s.withDeviceLock undefined d) := by
  cases hentry : s.deviceLocks d with
  | none => exact ⟨_, hi.call_ready rfl hentry⟩
  | some q =>
      have hmade : s.calls d ≠ 0 := fun h => by simp [hi.ordered.empty d h] at hentry
      obtain ⟨k, hk⟩ := Nat.exists_eq_succ_of_ne_zero hmade
      have hlast := hi.ordered.entry ⟨d, k⟩ hk
      have hclosed : (stage ⟨d, k⟩).closed = false := by
        by_contra hopen
        simp [hopen, hentry] at hlast
      exact ⟨_, hi.call_waits (p := ⟨d, k⟩) hk hclosed⟩

theorem Inv.step {e : LockEvent V} (hi : Inv undefined stage s)
    (h : step undefined s e = some t) : ∃ stage', Inv undefined stage' t := by
  cases e with
  | call d =>
      obtain rfl := Option.some.inj h
      exact hi.call
  | job c thrown =>
      obtain ⟨stage', hi', -⟩ := hi.job h
      exact ⟨stage', hi'⟩
  | finish c o => exact hi.finish h

end Step

end Transitions

/-! ## What the lock promises -/

/-- No call for the device has a waiting job. -/
def Quiet (s : Locks V) (d : String) : Prop :=
  ∀ j ∈ s.loop.jobs, (jobOwner j).device ≠ d

/-- A mutex for each device.  `serial` and `once`: the tasks of a device start in
call order, each once and behind finished ones; `own` and `answered`: a caller
receives the outcome of its own task; `progress`: only a running task of the same
device keeps a call waiting once the jobs of its device have run; `drains`: these
jobs run out. -/
structure Mutex (undefined : V) [DecidableEq V] (s : Locks V) : Prop where
  exclusive : ∀ c c', s.Running c → s.Running c' → c.device = c'.device → c = c'
  serial : Serial s.log
  once : s.log.Nodup
  own : ∀ c o, .received c o ∈ s.log → .finished c o ∈ s.log
  answered : ∀ c o, s.Quiet c.device → .finished c o ∈ s.log → .received c o ∈ s.log
  progress : ∀ c, s.Quiet c.device → c.index < s.calls c.device → .started c ∉ s.log →
    ∃ i < c.index, s.Running ⟨c.device, i⟩
  released : ∀ d, (∀ k < s.calls d, ∃ o, .received ⟨d, k⟩ o ∈ s.log) → s.deviceLocks d = none
  drains : ∃ n, ∀ es t, Run (Steps (step undefined)) s es t →
    (∀ e ∈ es, ∃ c thrown, e = .job c thrown) → es.length ≤ n

section Promises

variable {undefined : V} {stage : Call → Stage V} {s : Locks V}

theorem Inv.jobs_of_quiet (hi : Inv undefined stage s) {c : Call} (hquiet : s.Quiet c.device) :
    (stage c).jobs undefined c = [] := by
  rw [← hi.queued c]
  refine List.filter_eq_nil_iff.mpr fun j hj h => ?_
  exact hquiet j hj (congrArg Call.device (of_decide_eq_true h))

theorem Inv.exclusive (hi : Inv undefined stage s) {c c' : Call} (hc : s.Running c)
    (hc' : s.Running c') (hdevice : c.device = c'.device) : ¬ c.index < c'.index := by
  intro hlt
  obtain ⟨hbegun, -⟩ := (hi.running_iff c').mp hc'
  have hclosed := hi.ordered.closed_of_lt (d := c'.device) (k := c'.index)
    (fun e => by simp [e, Stage.begun] at hbegun) (fun e => by simp [e, Stage.begun] at hbegun)
    c.index hlt
  rw [← hdevice] at hclosed
  obtain ⟨o, ho⟩ := Stage.outcome_of_closed hclosed
  obtain ⟨-, hnone⟩ := (hi.running_iff c).mp hc
  simp [hnone] at ho

theorem Inv.answered (hi : Inv undefined stage s) {c : Call} {o : Outcome V}
    (hquiet : s.Quiet c.device) (h : .finished c o ∈ s.log) : .received c o ∈ s.log := by
  have hjobs := hi.jobs_of_quiet hquiet
  rw [hi.marked.finished] at h
  rw [hi.marked.received]
  cases hst : stage c <;> simp_all [Stage.jobs, Stage.outcome, Stage.answer]

/-- A call that waits has a running task of its device before it. -/
theorem Inv.progress (hi : Inv undefined stage s) {d : String} (hquiet : s.Quiet d) :
    ∀ k, stage ⟨d, k⟩ = .waiting → ∃ i < k, s.Running ⟨d, i⟩ := by
  intro k
  induction k with
  | zero => intro hwaits; exact absurd hwaits (hi.ordered.first d)
  | succ k ih =>
      intro hwaits
      have hclosed : (stage ⟨d, k⟩).closed = false :=
        (hi.ordered.waits ⟨d, k⟩ (fun e => by
          rw [show Call.next ⟨d, k⟩ = ⟨d, k + 1⟩ from rfl, hwaits] at e
          cases e)).mp hwaits
      have hmade : stage ⟨d, k⟩ ≠ .unmade := by
        intro e
        have hk := (hi.ordered.made ⟨d, k⟩).mp e
        have hk' := mt (hi.ordered.made ⟨d, k + 1⟩).mpr (by simp [hwaits])
        simp only at hk hk'
        omega
      have hjobs := hi.jobs_of_quiet (c := ⟨d, k⟩) hquiet
      cases hst : stage ⟨d, k⟩ with
      | unmade => exact absurd hst hmade
      | waiting =>
          obtain ⟨i, hlt, hrunning⟩ := ih hst
          exact ⟨i, Nat.lt_succ_of_lt hlt, hrunning⟩
      | running =>
          refine ⟨k, Nat.lt_succ_self k, (hi.running_iff _).mpr ?_⟩
          simp [hst, Stage.begun, Stage.outcome]
      | ready | adopting o | forwarding o | settled o => simp [hst, Stage.jobs] at hjobs
      | cleaned o | received o => simp [hst, Stage.closed] at hclosed

theorem Inv.released (hi : Inv undefined stage s) {d : String}
    (h : ∀ k < s.calls d, ∃ o, .received ⟨d, k⟩ o ∈ s.log) : s.deviceLocks d = none := by
  cases hcalls : s.calls d with
  | zero => exact hi.ordered.empty d hcalls
  | succ k =>
      obtain ⟨o, ho⟩ := h k (by omega)
      rw [hi.marked.received] at ho
      have hclosed : (stage ⟨d, k⟩).closed = true := by
        cases hst : stage ⟨d, k⟩ <;> simp_all [Stage.answer, Stage.closed]
      exact (hi.ordered.entry ⟨d, k⟩ hcalls).trans (if_pos hclosed)

theorem calls_runJob (s : Locks V) (thrown : Option V) (j : Job Promise Handler V) :
    (s.runJob undefined thrown j).calls = s.calls := by
  cases j with
  | adopt source target => rfl
  | react r o =>
      cases r with
      | forward target => rfl
      | call h derived =>
          cases h with
          | start c => cases o <;> cases thrown <;> rfl
          | cleanup c =>
              simp only [runJob, handle, deleteEntry]
              split <;> rfl
          | receive c => rfl

section Drain

variable [DecidableEq V] {t : Locks V}

theorem calls_job {c : Call} {thrown : Option V}
    (h : step undefined s (.job c thrown) = some t) : t.calls = s.calls := by
  obtain ⟨j, -, rfl⟩ := Option.map_eq_some_iff.mp h
  exact calls_runJob ..

/-- A finite list has the calls made so far. -/
theorem exists_made {es : List (LockEvent V)} (h : Run (Steps (step undefined)) start es s) :
    ∃ made : List Call, ∀ c : Call, c.index < s.calls c.device → c ∈ made := by
  refine h.invariant (I := fun s => ∃ made : List Call, ∀ c : Call,
    c.index < s.calls c.device → c ∈ made) ?_ ⟨[], fun c hc => by simp [start] at hc⟩
  rintro s e t ⟨made, hmade⟩ hstep
  cases e with
  | call d =>
      obtain rfl := Option.some.inj hstep
      refine ⟨⟨d, s.calls d⟩ :: made, fun c hc => ?_⟩
      by_cases hnew : c = ⟨d, s.calls d⟩
      · simp [hnew]
      · refine List.mem_cons_of_mem _ (hmade c ?_)
        by_cases hd : c.device = d
        · have hlt : c.index < s.calls d + 1 := by simpa [withDeviceLock, hd] using hc
          have hne : c.index ≠ s.calls d := fun e => hnew (Call.ext hd e)
          rw [hd]
          omega
        · simpa [withDeviceLock, hd] using hc
  | job c thrown =>
      exact ⟨made, by rw [calls_job hstep]; exact hmade⟩
  | finish c o =>
      have hcalls : t.calls = s.calls := by
        simp only [Steps, step] at hstep
        split at hstep
        · obtain rfl := Option.some.inj hstep; rfl
        · cases hstep
      exact ⟨made, by rw [hcalls]; exact hmade⟩

/-- Every job takes one of the calls further, and a call can only come so far. -/
theorem Inv.drains (hi : Inv undefined stage s) {made : List Call}
    (hmade : ∀ c : Call, c.index < s.calls c.device → c ∈ made) {es : List (LockEvent V)}
    (h : Run (Steps (Locks.step undefined)) s es t)
    (hjobs : ∀ e ∈ es, ∃ c thrown, e = .job c thrown) :
    (made.map fun c => (stage c).rank).sum + es.length ≤ (made.map fun _ => 7).sum := by
  induction h generalizing stage with
  | nil s =>
      exact List.sum_le_sum fun c _ => (stage c).rank_le
  | cons hstep hrun ih =>
      rename_i s u t e es
      obtain ⟨c, thrown, rfl⟩ := hjobs e (List.mem_cons_self ..)
      obtain ⟨stage', hi', hlt, hle⟩ := hi.job hstep
      have hcalls := calls_job hstep
      have hc : c ∈ made := by
        refine hmade c ?_
        rw [← hcalls]
        refine Nat.lt_of_not_le fun hge => ?_
        rw [← hi'.ordered.made] at hge
        simp [hge, Stage.rank] at hlt
      have hsum : (made.map fun c => (stage c).rank).sum < (made.map fun c => (stage' c).rank).sum :=
        List.sum_lt_sum _ _ (fun x _ => hle x) ⟨c, hc, hlt⟩
      have hrest := ih hi' (by rw [hcalls]; exact hmade)
        fun e he => hjobs e (List.mem_cons_of_mem _ he)
      simp only [List.length_cons]
      omega

end Drain

end Promises

/-- `withDeviceLock` is a mutex for each device, whatever the order of calls, jobs,
settled and rejected tasks. -/
theorem withDeviceLock_mutex [DecidableEq V] {undefined : V} {es : List (LockEvent V)}
    {s : Locks V} (h : Run (Steps (step undefined)) start es s) : Mutex undefined s := by
  obtain ⟨stage, hi⟩ : ∃ stage, Inv undefined stage s :=
    h.invariant (I := fun s => ∃ stage, Inv undefined stage s)
      (fun ⟨_, hi⟩ hstep => hi.step hstep) ⟨_, inv_start undefined⟩
  refine ⟨?_, hi.marked.serial, hi.marked.nodup, ?_, ?_, ?_, ?_, ?_⟩
  · intro c c' hc hc' hdevice
    have hle := hi.exclusive hc hc' hdevice
    have hge := hi.exclusive hc' hc hdevice.symm
    exact Call.ext hdevice (by omega)
  · intro c o hreceived
    rw [hi.marked.received] at hreceived
    rw [hi.marked.finished]
    cases hst : stage c <;> simp_all [Stage.answer, Stage.outcome]
  · intro c o hquiet hfinished
    exact hi.answered hquiet hfinished
  · intro c hquiet hmade hstarted
    refine hi.progress hquiet c.index ?_
    have hjobs := hi.jobs_of_quiet hquiet
    rw [hi.marked.started] at hstarted
    have hne := mt (hi.ordered.made c).mp (by omega)
    cases hst : stage c <;> simp_all [Stage.begun, Stage.jobs]
  · intro d hreceived
    exact hi.released hreceived
  · obtain ⟨made, hmade⟩ := exists_made h
    refine ⟨(made.map fun _ => 7).sum, fun es t hrun hjobs => ?_⟩
    have hbound := hi.drains hmade hrun hjobs
    omega

/-- Two calls for one tracker and one for another; the first task is rejected. -/
def lockCalls : List (LockEvent String) :=
  [.call "31", .call "31", .job ⟨"31", 0⟩ none, .call "32", .finish ⟨"31", 0⟩ (.rejected "fetch"),
    .job ⟨"32", 0⟩ none, .job ⟨"31", 0⟩ none, .job ⟨"31", 0⟩ none, .job ⟨"31", 0⟩ none,
    .job ⟨"31", 0⟩ none, .job ⟨"31", 1⟩ none, .job ⟨"31", 1⟩ none,
    .finish ⟨"31", 1⟩ (.fulfilled "stored"), .job ⟨"31", 1⟩ none, .job ⟨"31", 1⟩ none,
    .job ⟨"31", 1⟩ none]

theorem lockCalls_mutex : ∃ s, lockCalls.foldlM (step "undefined") start = some s ∧
    Mutex "undefined" s := by
  have hsome : (lockCalls.foldlM (step "undefined") start).isSome := by decide +kernel
  obtain ⟨s, hs⟩ := Option.isSome_iff_exists.mp hsome
  exact ⟨s, hs, withDeviceLock_mutex (Run.of_foldlM hs)⟩

end Locks

end DeliveryTracking.Traccar
