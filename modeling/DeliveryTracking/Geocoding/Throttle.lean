/-
# `DeliveryTracking.Geocoding.Throttle` — one request to Nominatim at a time

`throttleNominatim` on the promises of `DeliveryTracking.Promise`.  Call number `k`
finds `nominatimQueue` holding the promise `queue k`, registers `run` on it, returns
`result k` and leaves `queue (k + 1)` behind; its caller awaits the result.  `run`
is an async function: it returns the promise `run k`, may await the timer `sleep k`,
and then starts the task, whose promise is `task k`.

The environment chooses the order: calls arrive and tasks settle at any time, a
timer fires at any time from its due time on, and any call's first waiting job may
run next, which covers the queue of the language.

    Stage       where a call stands; it determines the call's promises and jobs
    View        a call's promises and jobs are those of a stage

What one job does to the stage of its call is shown here; `Geocoding.Serial` draws
from it what the throttle promises.
-/
import DeliveryTracking.Promise

namespace DeliveryTracking.Geocoding

/-- `NOMINATIM_MIN_INTERVAL_MS` -/
def nominatimMinIntervalMs : Int := 1100

/-- The promises of the calls. -/
inductive Promise where
  | queue (k : Nat)
  | result (k : Nat)
  | run (k : Nat)
  | sleep (k : Nat)
  | task (k : Nat)
  | received (k : Nat)
  deriving DecidableEq, Repr

/-- The functions passed to `then`: `start` is `run`, `restart` is `() => undefined`,
both registered for either outcome; `resume` is what follows the `await` in `run`,
`receive` the caller's `await`. -/
inductive Handler where
  | start (k : Nat)
  | resume (k : Nat)
  | restart (k : Nat)
  | receive (k : Nat)
  deriving DecidableEq, Repr

def Promise.owner : Promise → Nat
  | .queue k | .result k | .run k | .sleep k | .task k | .received k => k

def Handler.owner : Handler → Nat
  | .start k | .resume k | .restart k | .receive k => k

/-- The call a waiting job belongs to. -/
def jobOwner {V : Type} : Job Promise Handler V → Nat
  | .react (.call h _) _ => h.owner
  | .react (.forward t) _ => t.owner
  | .adopt s _ => s.owner

/-- What can be observed of a call. -/
inductive Mark (V : Type) where
  | started (k : Nat) (now : Int)
  | finished (k : Nat) (o : Outcome V)
  | received (k : Nat) (o : Outcome V)
  deriving DecidableEq, Repr

def Mark.isStarted {V : Type} (k : Nat) : Mark V → Bool
  | .started i _ => i = k
  | _ => false

def Mark.isFinished {V : Type} (k : Nat) : Mark V → Bool
  | .finished i _ => i = k
  | _ => false

/-- The promises and jobs, the variables of the module, the timers with their due
times, the number of calls made, and what was observed, newest first. -/
structure Throttle (V : Type) where
  loop : Loop Promise Handler V
  nominatimQueue : Promise
  nominatimLastDispatchAt : Int
  clock : Int
  timers : Nat → Option Int
  calls : Nat
  log : List (Mark V)

/-- `checkedAt` and `now` are what `Date.now()` answers in the job: for `waitMs`, and
when the request is dispatched.  `thrown`: the task throws before it has a promise. -/
inductive ThrottleEvent (V : Type) where
  | call
  | job (k : Nat) (checkedAt now : Int) (thrown : Option V)
  | fire (k : Nat) (now : Int)
  | finish (k : Nat) (o : Outcome V)
  deriving DecidableEq, Repr

namespace Throttle

variable {V : Type}

/-- The task of call `k` has started and its promise is not settled. -/
def Running (s : Throttle V) (k : Nat) : Prop :=
  s.log.any (·.isStarted k) = true ∧ ¬s.log.any (·.isFinished k) = true

instance (s : Throttle V) (k : Nat) : Decidable (s.Running k) :=
  inferInstanceAs (Decidable (_ ∧ _))

section Model

variable (undefined : V)

def start (clock : Int) : Throttle V :=
  ⟨Loop.start.settle (.queue 0) (.fulfilled undefined), .queue 0, 0, clock, fun _ => none, 0, []⟩

/-- `throttleNominatim`, with the caller's `await` of the promise it returns. -/
def throttleNominatim (s : Throttle V) : Throttle V :=
  let k := s.calls
  let loop := s.loop.thenDo s.nominatimQueue (.call (.start k) (.result k))
  let loop := loop.thenDo (.result k) (.call (.restart k) (.queue (k + 1)))
  let loop := loop.thenDo (.result k) (.call (.receive k) (.received k))
  { s with loop := loop, nominatimQueue := .queue (k + 1), calls := k + 1 }

/-- `nominatimLastDispatchAt = Date.now(); return fn();` -/
def dispatch (s : Throttle V) (k : Nat) (now : Int) : Option V → Throttle V
  | none =>
      { s with
        nominatimLastDispatchAt := now
        loop := s.loop.adopt (.task k) (.run k)
        log := .started k now :: s.log }
  | some e =>
      { s with
        nominatimLastDispatchAt := now
        loop := s.loop.settle (.run k) (.rejected e)
        log := .finished k (.rejected e) :: .started k now :: s.log }

/-- `run`, up to its `await` or to its end. -/
def run (s : Throttle V) (k : Nat) (checkedAt now : Int) (thrown : Option V) : Throttle V :=
  let waitMs := s.nominatimLastDispatchAt + nominatimMinIntervalMs - checkedAt
  if 0 < waitMs then
    { s with
      loop := s.loop.thenDo (.sleep k) (.call (.resume k) (.run k))
      timers := Function.update s.timers k (some (checkedAt + waitMs)) }
  else s.dispatch k now thrown

/-- One handler run with the outcome of the promise it was registered on. -/
def handle (s : Throttle V) (h : Handler) (derived : Promise) (o : Outcome V) (checkedAt now : Int)
    (thrown : Option V) : Throttle V :=
  match h with
  | .start k =>
      let s := s.run k checkedAt now thrown
      { s with loop := s.loop.adopt (.run k) derived }
  | .resume k => s.dispatch k now thrown
  | .restart _ => { s with loop := s.loop.settle derived (.fulfilled undefined) }
  | .receive k =>
      { s with
        loop := s.loop.settle derived (.fulfilled undefined)
        log := .received k o :: s.log }

def runJob (s : Throttle V) (checkedAt now : Int) (thrown : Option V) :
    Job Promise Handler V → Throttle V
  | .react (.call h derived) o => s.handle undefined h derived o checkedAt now thrown
  | .react (.forward target) o => { s with loop := s.loop.settle target o }
  | .adopt source target => { s with loop := s.loop.thenDo source (.forward target) }

/-- The queue without the first job of `k`, at the time `now`. -/
def dequeue (s : Throttle V) (k : Nat) (now : Int) : Throttle V :=
  { s with loop := s.loop.dequeue (jobOwner · = k), clock := now }

def step (s : Throttle V) : ThrottleEvent V → Option (Throttle V)
  | .call => some s.throttleNominatim
  | .job k checkedAt now thrown =>
      if s.clock ≤ checkedAt ∧ checkedAt ≤ now then
        (s.loop.jobs.find? (jobOwner · = k)).map
          ((s.dequeue k now).runJob undefined checkedAt now thrown)
      else none
  | .fire k now =>
      match s.timers k with
      | some due =>
          if due ≤ now ∧ s.clock ≤ now then
            some { s with
              loop := s.loop.settle (.sleep k) (.fulfilled undefined)
              timers := Function.update s.timers k none
              clock := now }
          else none
      | none => none
  | .finish k o =>
      if s.Running k then
        some { s with loop := s.loop.settle (.task k) o, log := .finished k o :: s.log }
      else none

end Model

end Throttle

/-! ## Where a call stands -/

/-- How far `run` has come: it waits for its timer or for the job the timer left,
its task is on and to be adopted (`calling`) or adopted (`pending`), or the outcome
of the task is on its way. -/
inductive Body (V : Type) where
  | asleep (due : Int)
  | woken
  | calling (settled : Option (Outcome V))
  | pending
  | returning (o : Outcome V)

/-- The life of a call: `unmade`, with the promise it will find settled or not,
`waiting` behind the previous call, `ready` when its `run` may be called, `running`
with or without `result` having adopted its promise, `ended` when that promise is
settled before, `forwarding` its outcome to `result`, `settled`, then `restarted`
when the next call may go on, and `received` by the caller. -/
inductive Stage (V : Type) where
  | unmade (opened : Bool)
  | waiting
  | ready
  | running (linked : Bool) (body : Body V)
  | ended (o : Outcome V)
  | forwarding (o : Outcome V)
  | settled (o : Outcome V)
  | restarted (o : Outcome V)
  | received (o : Outcome V)

namespace Stage

variable {V : Type}

def made : Stage V → Bool
  | unmade _ => false
  | _ => true

/-- The promise the call finds is settled. -/
def opened : Stage V → Bool
  | unmade b => b
  | waiting => false
  | _ => true

/-- The promise the call leaves behind is settled. -/
def closed : Stage V → Bool
  | restarted _ | received _ => true
  | _ => false

def begun : Stage V → Bool
  | unmade _ | waiting | ready | running _ (.asleep _) | running _ .woken => false
  | _ => true

/-- How the task ended. -/
def outcome : Stage V → Option (Outcome V)
  | running _ (.calling o) => o
  | running _ (.returning o) | ended o | forwarding o | settled o | restarted o | received o => some o
  | _ => none

/-- What the caller got. -/
def answer : Stage V → Option (Outcome V)
  | received o => some o
  | _ => none

def timer : Stage V → Option Int
  | running _ (.asleep due) => some due
  | _ => none

/-- Its timer has fired and its task has not started. -/
def isWoken : Stage V → Bool
  | running _ .woken => true
  | _ => false

/-- `result` is yet to adopt the promise of `run`. -/
def linking (k : Nat) (linked : Bool) : List (Job Promise Handler V) :=
  if linked then [] else [.adopt (.run k) (.result k)]

/-- The waiting jobs of a call. -/
def jobs (undefined : V) (k : Nat) : Stage V → List (Job Promise Handler V)
  | ready => [.react (.call (.start k) (.result k)) (.fulfilled undefined)]
  | running linked (.asleep _) => linking k linked
  | running linked .woken =>
      linking k linked ++ [.react (.call (.resume k) (.run k)) (.fulfilled undefined)]
  | running linked (.calling _) => .adopt (.task k) (.run k) :: linking k linked
  | running linked .pending => linking k linked
  | running linked (.returning o) => linking k linked ++ [.react (.forward (.run k)) o]
  | ended _ => linking k false
  | forwarding o => [.react (.forward (.result k)) o]
  | settled o => [.react (.call (.restart k) (.queue (k + 1))) o,
      .react (.call (.receive k) (.received k)) o]
  | restarted o => [.react (.call (.receive k) (.received k)) o]
  | _ => []

def queueCell (undefined : V) (k : Nat) : Stage V → Cell Promise Handler V
  | unmade false => .pending []
  | waiting => .pending [.call (.start k) (.result k)]
  | _ => .settled (.fulfilled undefined)

def resultCell (k : Nat) : Stage V → Cell Promise Handler V
  | unmade _ => .pending []
  | settled o | restarted o | received o => .settled o
  | _ => .pending [.call (.restart k) (.queue (k + 1)), .call (.receive k) (.received k)]

def runCell (k : Nat) : Stage V → Option (Cell Promise Handler V)
  | unmade _ | waiting | ready => some (.pending [])
  | running linked _ => some (.pending (if linked then [.forward (.result k)] else []))
  | ended o => some (.settled o)
  | _ => none

def sleepCell (k : Nat) : Stage V → Option (Cell Promise Handler V)
  | unmade _ | waiting | ready => some (.pending [])
  | running _ (.asleep _) => some (.pending [.call (.resume k) (.run k)])
  | _ => none

def taskCell (k : Nat) : Stage V → Option (Cell Promise Handler V)
  | unmade _ | waiting | ready | running _ (.asleep _) | running _ .woken
  | running _ (.calling none) => some (.pending [])
  | running _ (.calling (some o)) => some (.settled o)
  | running _ .pending => some (.pending [.forward (.run k)])
  | _ => none

def receivedCell : Stage V → Option (Cell Promise Handler V)
  | received _ => none
  | _ => some (.pending [])

/-- The promises of a call; what is left open here no longer matters. -/
def cell (undefined : V) (st : Stage V) : Promise → Option (Cell Promise Handler V)
  | .queue k => some (st.queueCell undefined k)
  | .result k => some (st.resultCell k)
  | .run k => st.runCell k
  | .sleep k => st.sleepCell k
  | .task k => st.taskCell k
  | .received _ => st.receivedCell

attribute [simp] cell queueCell resultCell runCell sleepCell taskCell receivedCell linking

/-- How far a call has come. -/
def rank : Stage V → Nat
  | unmade _ | waiting => 0
  | ready => 1
  | running linked body => (if linked then 3 else 2) + match body with
    | .asleep _ => 0
    | .woken => 1
    | .calling none => 2
    | .calling (some _) | .pending => 3
    | .returning _ => 4
  | ended _ => 2
  | forwarding _ => 8
  | settled _ => 9
  | restarted _ => 10
  | received _ => 11

theorem rank_le (st : Stage V) : st.rank ≤ 11 := by
  cases st with
  | running linked body =>
      cases linked <;> cases body with
      | calling o => cases o <;> simp [rank]
      | _ => simp [rank]
  | _ => simp [rank]

end Stage

/-! ## What a job does to its call -/

/-- The promises and jobs of call `k` are those of the stage. -/
structure View {V : Type} (undefined : V) (m : Loop Promise Handler V) (k : Nat) (st : Stage V) :
    Prop where
  jobs : m.jobs.filter (jobOwner · = k) = st.jobs undefined k
  cells : ∀ p x, p.owner = k → st.cell undefined p = some x → m.cells p = x

namespace View

variable {V : Type} {undefined : V} {m m' : Loop Promise Handler V} {k : Nat} {st st' : Stage V}

theorem same (h : View undefined m k st) (hsame : m.SameOf Promise.owner jobOwner k m') :
    View undefined m' k st where
  jobs := hsame.jobs.trans h.jobs
  cells p x hp hx := (hsame.cells p hp).trans (h.cells p x hp hx)

/-- What happens on the promises of one call leaves the others alone. -/
theorem others_thenDo {j : Nat} (hj : j ≠ k) {p : Promise} (hp : p.owner = k)
    {r : Reaction Promise Handler} (hr : ∀ o : Outcome V, jobOwner (.react r o) = k) :
    m.SameOf Promise.owner jobOwner j ((m.dequeue (jobOwner · = k)).thenDo p r) := by
  refine ((Loop.SameOf.refl m).dequeue hj.symm).thenDo ?_ ?_
  · rw [hp]
    exact hj.symm
  · intro o
    rw [hr o]
    exact hj.symm

theorem others_settle (h : View undefined m k st) {j : Nat} (hj : j ≠ k) {p : Promise}
    (hp : p.owner = k) {rs : List (Reaction Promise Handler)}
    (hcell : st.cell undefined p = some (.pending rs)) {o : Outcome V}
    (hr : ∀ r ∈ rs, jobOwner (.react r o) = k) :
    m.SameOf Promise.owner jobOwner j (m.settle p o) ∧
      m.SameOf Promise.owner jobOwner j ((m.dequeue (jobOwner · = k)).settle p o) := by
  have howner : p.owner ≠ j := by
    rw [hp]
    exact hj.symm
  have hjobs : ∀ r ∈ rs, jobOwner (.react r o) ≠ j := by
    intro r hmem
    rw [hr r hmem]
    exact hj.symm
  exact ⟨(Loop.SameOf.refl m).settle howner (h.cells p _ hp hcell) hjobs,
    ((Loop.SameOf.refl m).dequeue hj.symm).settle howner (h.cells p _ hp hcell) hjobs⟩

theorem filter_jobs {js : List (Job Promise Handler V)} (hjs : ∀ j ∈ js, jobOwner j = k) :
    js.filter (jobOwner · = k) = js := by
  refine List.filter_eq_self.mpr ?_
  intro j hj
  exact decide_eq_true (hjs j hj)

/-- The jobs of the call once its first one is taken and others join. -/
theorem jobs_taken (h : View undefined m k st) (js : List (Job Promise Handler V))
    (hjs : ∀ j ∈ js, jobOwner j = k) :
    ((m.dequeue (jobOwner · = k)).jobs ++ js).filter (jobOwner · = k)
      = (st.jobs undefined k).tail ++ js := by
  rw [List.filter_append, filter_jobs hjs, Loop.jobs_dequeue, filter_eraseP_self, h.jobs]

theorem jobs_joined (h : View undefined m k st) (js : List (Job Promise Handler V))
    (hjs : ∀ j ∈ js, jobOwner j = k) :
    (m.jobs ++ js).filter (jobOwner · = k) = st.jobs undefined k ++ js := by
  rw [List.filter_append, filter_jobs hjs, h.jobs]

/-- The promises stay. -/
theorem of_same (h : View undefined m k st) (hcells : m'.cells = m.cells)
    (hjobs : m'.jobs.filter (jobOwner · = k) = st'.jobs undefined k)
    (hkeep : ∀ p x, p.owner = k → st'.cell undefined p = some x → st.cell undefined p = some x) :
    View undefined m' k st' where
  jobs := hjobs
  cells p x hp hx := hcells ▸ h.cells p x hp (hkeep p x hp hx)

/-- One promise changes. -/
theorem of_put (h : View undefined m k st) {q : Promise} {x : Cell Promise Handler V}
    (hcells : m'.cells = Function.update m.cells q x)
    (hjobs : m'.jobs.filter (jobOwner · = k) = st'.jobs undefined k)
    (hq : ∀ y, st'.cell undefined q = some y → x = y)
    (hkeep : ∀ p y, p.owner = k → p ≠ q → st'.cell undefined p = some y →
      st.cell undefined p = some y) : View undefined m' k st' where
  jobs := hjobs
  cells p y hp hy := by
    rw [hcells]
    by_cases hne : p = q
    · subst hne
      rw [Function.update_self]
      exact hq y hy
    · rw [Function.update_of_ne hne]
      exact h.cells p y hp (hkeep p y hp hne hy)

/-- A pending promise settles, and its reactions join the jobs. -/
theorem of_settle (h : View undefined m k st) {q : Promise} {rs : List (Reaction Promise Handler)}
    {o : Outcome V} (hcell : m.cells q = .pending rs)
    (howner : ∀ j ∈ rs.map (.react · o : Reaction Promise Handler → Job Promise Handler V),
      jobOwner j = k)
    (hjobs : st.jobs undefined k ++ rs.map (.react · o) = st'.jobs undefined k)
    (hq : ∀ y, st'.cell undefined q = some y → .settled o = y)
    (hkeep : ∀ p y, p.owner = k → p ≠ q → st'.cell undefined p = some y →
      st.cell undefined p = some y) : View undefined (m.settle q o) k st' := by
  rw [Loop.settle_of_pending hcell]
  exact h.of_put rfl ((h.jobs_joined _ howner).trans hjobs) hq hkeep

/-- `result` adopts the promise of `run`, which is pending. -/
theorem link {body : Body V} (h : View undefined m k (.running false body))
    (hbody : ∀ o, body ≠ .calling o) :
    View undefined ((m.dequeue (jobOwner · = k)).thenDo (.run k) (.forward (.result k))) k
      (.running true body) := by
  have hcell : (m.dequeue (jobOwner · = k)).cells (.run k) = .pending [] := h.cells _ _ rfl rfl
  have hjobs := h.jobs_taken [] (by simp)
  rw [Loop.thenDo_of_pending hcell]
  refine h.of_put rfl ?_ (by simp) ?_
  · cases body with
    | calling o => exact absurd rfl (hbody o)
    | _ => simpa [Stage.jobs] using hjobs
  · intro p y hp hne hy
    cases p <;> cases body <;> simp_all [Promise.owner]

/-- The promise of `run` is settled by then. -/
theorem link_ended {o : Outcome V} (h : View undefined m k (.ended o)) :
    View undefined ((m.dequeue (jobOwner · = k)).thenDo (.run k) (.forward (.result k))) k
      (.forwarding o) := by
  have hcell : (m.dequeue (jobOwner · = k)).cells (.run k) = .settled o := h.cells _ _ rfl rfl
  rw [Loop.thenDo_of_settled hcell]
  refine h.of_same rfl ?_ ?_
  · exact h.jobs_taken _ (by simp [jobOwner, Promise.owner])
  · intro p y hp hy
    cases p <;> simp_all [Promise.owner]

/-- The promise of `run` adopts the one of the task. -/
theorem adopt_pending {linked : Bool} (h : View undefined m k (.running linked (.calling none))) :
    View undefined ((m.dequeue (jobOwner · = k)).thenDo (.task k) (.forward (.run k))) k
      (.running linked .pending) := by
  have hcell : (m.dequeue (jobOwner · = k)).cells (.task k) = .pending [] := h.cells _ _ rfl rfl
  have hjobs := h.jobs_taken [] (by simp)
  rw [Loop.thenDo_of_pending hcell]
  refine h.of_put rfl ?_ (by simp) ?_
  · simpa [Stage.jobs] using hjobs
  · intro p y hp hne hy
    cases p <;> simp_all [Promise.owner]

theorem adopt_settled {linked : Bool} {o : Outcome V}
    (h : View undefined m k (.running linked (.calling (some o)))) :
    View undefined ((m.dequeue (jobOwner · = k)).thenDo (.task k) (.forward (.run k))) k
      (.running linked (.returning o)) := by
  have hcell : (m.dequeue (jobOwner · = k)).cells (.task k) = .settled o := h.cells _ _ rfl rfl
  rw [Loop.thenDo_of_settled hcell]
  refine h.of_same rfl ?_ ?_
  · exact h.jobs_taken _ (by simp [jobOwner, Promise.owner])
  · intro p y hp hy
    cases p <;> simp_all [Promise.owner]

/-- The promise of `run` settles, and the one the caller has waits for it. -/
theorem settle_run {body : Body V} {o : Outcome V} (h : View undefined m k (.running true body))
    (hlast : ((Stage.running true body).jobs undefined k).tail = []) :
    View undefined ((m.dequeue (jobOwner · = k)).settle (.run k) o) k (.forwarding o) := by
  have hcell : (m.dequeue (jobOwner · = k)).cells (.run k) = .pending [.forward (.result k)] :=
    h.cells _ _ rfl (by cases body <;> rfl)
  have hjobs := h.jobs_taken [.react (.forward (.result k)) o] (by simp [jobOwner, Promise.owner])
  rw [Loop.settle_of_pending hcell]
  refine h.of_put rfl ?_ (by simp) ?_
  · rw [hlast] at hjobs
    exact hjobs
  · intro p y hp hne hy
    cases p <;> cases body <;> simp_all [Promise.owner]

/-- The outcome of the task reaches the promise of `run`. -/
theorem forward_run {o : Outcome V} (h : View undefined m k (.running true (.returning o))) :
    View undefined ((m.dequeue (jobOwner · = k)).settle (.run k) o) k (.forwarding o) :=
  h.settle_run rfl

/-- … and then the one the caller has. -/
theorem forward_result {o : Outcome V} (h : View undefined m k (.forwarding o)) :
    View undefined ((m.dequeue (jobOwner · = k)).settle (.result k) o) k (.settled o) := by
  have hcell : (m.dequeue (jobOwner · = k)).cells (.result k) =
      .pending [.call (.restart k) (.queue (k + 1)), .call (.receive k) (.received k)] :=
    h.cells _ _ rfl rfl
  rw [Loop.settle_of_pending hcell]
  refine h.of_put rfl ?_ (by simp) ?_
  · exact h.jobs_taken _ (by simp [jobOwner, Handler.owner])
  · intro p y hp hne hy
    cases p <;> simp_all [Promise.owner]

theorem receive {o o' : Outcome V} (h : View undefined m k (.restarted o)) :
    View undefined ((m.dequeue (jobOwner · = k)).settle (.received k) o') k (.received o) := by
  have hcell : (m.dequeue (jobOwner · = k)).cells (.received k) = .pending [] := h.cells _ _ rfl rfl
  rw [Loop.settle_of_pending hcell]
  refine h.of_put rfl ?_ (by simp) ?_
  · exact h.jobs_taken _ (by simp)
  · intro p y hp hne hy
    cases p <;> simp_all [Promise.owner]

/-- `run` awaits a timer. -/
theorem sleep (h : View undefined m k .ready) (due : Int) :
    View undefined (((m.dequeue (jobOwner · = k)).thenDo (.sleep k) (.call (.resume k) (.run k))).adopt
      (.run k) (.result k)) k (.running false (.asleep due)) := by
  have hcell : (m.dequeue (jobOwner · = k)).cells (.sleep k) = .pending [] := h.cells _ _ rfl rfl
  rw [Loop.thenDo_of_pending hcell]
  refine h.of_put rfl ?_ (by simp) ?_
  · exact h.jobs_taken _ (by simp [jobOwner, Promise.owner])
  · intro p y hp hne hy
    cases p <;> simp_all [Promise.owner]

/-- `run` calls the task at once. -/
theorem direct (h : View undefined m k .ready) :
    View undefined (((m.dequeue (jobOwner · = k)).adopt (.task k) (.run k)).adopt (.run k)
      (.result k)) k (.running false (.calling none)) := by
  refine h.of_same rfl ?_ ?_
  · have hjobs := h.jobs_taken [.adopt (.task k) (.run k), .adopt (.run k) (.result k)]
      (by simp [jobOwner, Promise.owner])
    simpa [Loop.adopt, Stage.jobs] using hjobs
  · intro p y hp hy
    cases p <;> simp_all [Promise.owner]

/-- … which throws. -/
theorem direct_throws {e : V} (h : View undefined m k .ready) :
    View undefined (((m.dequeue (jobOwner · = k)).settle (.run k) (.rejected e)).adopt (.run k)
      (.result k)) k (.ended (.rejected e)) := by
  have hcell : (m.dequeue (jobOwner · = k)).cells (.run k) = .pending [] := h.cells _ _ rfl rfl
  rw [Loop.settle_of_pending hcell]
  refine h.of_put rfl ?_ (by simp) ?_
  · have hjobs := h.jobs_taken [.adopt (.run k) (.result k)]
      (by simp [jobOwner, Promise.owner])
    simpa [Loop.adopt, Stage.jobs] using hjobs
  · intro p y hp hne hy
    cases p <;> simp_all [Promise.owner]

/-- `run` calls the task after its timer. -/
theorem resume (h : View undefined m k (.running true .woken)) :
    View undefined ((m.dequeue (jobOwner · = k)).adopt (.task k) (.run k)) k
      (.running true (.calling none)) := by
  refine h.of_same rfl ?_ ?_
  · exact h.jobs_taken _ (by simp [jobOwner, Promise.owner])
  · intro p y hp hy
    cases p <;> simp_all [Promise.owner]

theorem resume_throws {e : V} (h : View undefined m k (.running true .woken)) :
    View undefined ((m.dequeue (jobOwner · = k)).settle (.run k) (.rejected e)) k
      (.forwarding (.rejected e)) :=
  h.settle_run rfl

/-- The timer fires. -/
theorem fire {linked : Bool} {due : Int} (h : View undefined m k (.running linked (.asleep due))) :
    View undefined (m.settle (.sleep k) (.fulfilled undefined)) k (.running linked .woken) := by
  have hcell : m.cells (.sleep k) = .pending [.call (.resume k) (.run k)] := h.cells _ _ rfl rfl
  refine h.of_settle hcell (by simp [jobOwner, Handler.owner]) rfl (by simp) ?_
  intro p y hp hne hy
  cases p <;> simp_all [Promise.owner]

/-- The task settles before its promise is adopted. -/
theorem finish_early {linked : Bool} {o : Outcome V}
    (h : View undefined m k (.running linked (.calling none))) :
    View undefined (m.settle (.task k) o) k (.running linked (.calling (some o))) := by
  have hcell : m.cells (.task k) = .pending [] := h.cells _ _ rfl rfl
  refine h.of_settle hcell (by simp) (by simp [Stage.jobs]) (by simp) ?_
  intro p y hp hne hy
  cases p <;> simp_all [Promise.owner]

theorem finish_adopted {linked : Bool} {o : Outcome V}
    (h : View undefined m k (.running linked .pending)) :
    View undefined (m.settle (.task k) o) k (.running linked (.returning o)) := by
  have hcell : m.cells (.task k) = .pending [.forward (.run k)] := h.cells _ _ rfl rfl
  refine h.of_settle hcell (by simp [jobOwner, Promise.owner]) rfl (by simp) ?_
  intro p y hp hne hy
  cases p <;> simp_all [Promise.owner]

/-- The next call may go on. -/
theorem restart {o : Outcome V} (h : View undefined m k (.settled o)) :
    View undefined (m.dequeue (jobOwner · = k)) k (.restarted o) := by
  have hjobs := h.jobs_taken [] (by simp)
  refine h.of_same rfl ?_ ?_
  · simpa [Stage.jobs] using hjobs
  · intro p y hp hy
    cases p <;> simp_all [Promise.owner]

theorem opens_unmade (h : View undefined m k (.unmade false)) :
    View undefined (m.settle (.queue k) (.fulfilled undefined)) k (.unmade true) := by
  have hcell : m.cells (.queue k) = .pending [] := h.cells _ _ rfl rfl
  refine h.of_settle hcell (by simp) rfl (by simp) ?_
  intro p y hp hne hy
  cases p <;> simp_all [Promise.owner]

theorem opens_waiting (h : View undefined m k .waiting) :
    View undefined (m.settle (.queue k) (.fulfilled undefined)) k .ready := by
  have hcell : m.cells (.queue k) = .pending [.call (.start k) (.result k)] := h.cells _ _ rfl rfl
  refine h.of_settle hcell (by simp [jobOwner, Handler.owner]) rfl (by simp) ?_
  intro p y hp hne hy
  cases p <;> simp_all [Promise.owner]

/-- A call is made; it waits unless the promise it finds is settled. -/
theorem call_ready (h : View undefined m k (.unmade true)) :
    View undefined (((m.thenDo (.queue k) (.call (.start k) (.result k))).thenDo (.result k)
      (.call (.restart k) (.queue (k + 1)))).thenDo (.result k) (.call (.receive k) (.received k))) k
      .ready := by
  have hqueue : m.cells (.queue k) = .settled (.fulfilled undefined) := h.cells _ _ rfl rfl
  have hresult : (m.enqueue [.react (.call (.start k) (.result k)) (.fulfilled undefined)]).cells
      (.result k) = .pending [] := h.cells _ _ rfl rfl
  rw [Loop.thenDo_of_settled hqueue, Loop.thenDo_thenDo_of_pending hresult]
  refine h.of_put rfl ?_ (by simp) ?_
  · exact h.jobs_joined _ (by simp [jobOwner, Handler.owner])
  · intro p y hp hne hy
    cases p <;> simp_all [Promise.owner]

theorem call_waits (h : View undefined m k (.unmade false)) :
    View undefined (((m.thenDo (.queue k) (.call (.start k) (.result k))).thenDo (.result k)
      (.call (.restart k) (.queue (k + 1)))).thenDo (.result k) (.call (.receive k) (.received k))) k
      .waiting := by
  have hqueue : m.cells (.queue k) = .pending [] := h.cells _ _ rfl rfl
  have hresult : (m.put (.queue k) (.pending [.call (.start k) (.result k)])).cells (.result k)
      = .pending [] := by
    rw [Loop.cells_put, Function.update_of_ne (by simp)]
    exact h.cells _ _ rfl rfl
  rw [Loop.thenDo_of_pending hqueue, List.nil_append, Loop.thenDo_thenDo_of_pending hresult]
  refine ⟨h.jobs, ?_⟩
  intro p y hp hy
  have hold := h.cells p
  cases p <;> simp_all [Promise.owner]

end View

end DeliveryTracking.Geocoding
