/-
# `DeliveryTracking.Phone.Supervision` — the location service, stopped and brought back

The service that acquires positions runs between `start` and `stop` of the plugin.  The
system may kill it at any moment, with its process or without; four things bring it
back, besides the system itself:

    watchdog   a periodic work, enqueued by `start` and cancelled by `stop`
    restart    a work that runs once, enqueued as the service goes
    alarm      set as the task of the app is removed, a second ahead
    boot       a receiver

All but the alarm look at the preference that `start` and `stop` write.  So after `stop`
the service stays off, unless an alarm is set (`stays_off_iff`); nothing is reported of
it (`stop_not_reported`); and while it should run the watchdog brings it back
(`supervised`).  What the system does between is any sequence of events.
-/
import DeliveryTracking.Runs

namespace DeliveryTracking.Phone.Supervision

def FAILURE_NOTIFICATION_THRESHOLD : Nat := 3

/-- The reason of an interruption. -/
inductive Reason where
  | serviceKilled
  | watchdogDetectedDead
  deriving DecidableEq

/-- The action of an intent to the service; the system has none. -/
inductive Command where
  | start
  | stop
  | restarted
  deriving DecidableEq

/-- `active`, `interrupted` and `failures` are preferences, kept on disk; `commands` are the
intents the service has not yet been given; `sticky` is a service that the system still
has to restart; `alerts` counts the notifications to the driver. -/
structure Device where
  active : Bool
  interrupted : Option Reason
  failures : Nat
  permission : Bool
  isRunning : Bool
  voluntarilyStopped : Bool
  commands : List Command
  sticky : Bool
  alarm : Bool
  watchdog : Bool
  restart : Bool
  alerts : Nat
  deriving DecidableEq

/-- The app as it is installed. -/
def installed : Device :=
  ⟨false, none, 0, false, false, false, [], false, false, false, false, 0⟩

/-! ## The plugin and the service -/

/-- `startForegroundService`, unless the system refuses a start from the background. -/
def startService (refused : Bool) (s : Device) : Device :=
  if refused then s else { s with commands := s.commands ++ [.start] }

/-- `BackgroundLocationPlugin.start` -/
def start (s : Device) : Device :=
  if s.permission then
    { startService false s with active := true, watchdog := true }
  else s

/-- `onDestroy` -/
def onDestroy (s : Device) : Device :=
  if s.voluntarilyStopped then { s with isRunning := false }
  else
    { s with
      interrupted := if s.active then some .serviceKilled else s.interrupted
      restart := true
      isRunning := false }

/-- `stopService`: what was to be started is not. -/
def stopService (s : Device) : Device :=
  if s.isRunning then { onDestroy s with commands := [], sticky := false }
  else { s with commands := [], sticky := false }

/-- `BackgroundLocationPlugin.stop` -/
def stop (s : Device) : Device := stopService { s with active := false, watchdog := false }

/-- `onStartCommand` -/
def onStartCommand (s : Device) : Command → Device
  | .stop => { s with voluntarilyStopped := true, isRunning := false }
  | .start | .restarted => { s with voluntarilyStopped := false, isRunning := true }

/-- `onTaskRemoved`; the direct start may be refused. -/
def onTaskRemoved (refused : Bool) (s : Device) : Device :=
  { startService refused s with alarm := true, restart := true }

/-! ## What brings the service back -/

/-- `TrackingWatchdogWorker.doWork` -/
def watchdogWork (refused : Bool) (s : Device) : Device :=
  if s.active = false then s
  else if s.isRunning then { s with failures := 0 }
  else if s.permission = false then s
  else if refused then
    { s with
      interrupted := some .watchdogDetectedDead
      failures := s.failures + 1
      alerts := if FAILURE_NOTIFICATION_THRESHOLD ≤ s.failures + 1 then s.alerts + 1 else s.alerts }
  else startService false { s with interrupted := some .watchdogDetectedDead }

/-- `ServiceRestartWorker.doWork` -/
def restartWork (refused : Bool) (s : Device) : Device :=
  if s.active = false then s
  else if s.isRunning then s
  else if s.permission = false then s
  else startService refused s

/-- `BootReceiver.onReceive` -/
def onBoot (refused : Bool) (s : Device) : Device :=
  if s.active = false then s
  else if s.permission = false then s
  else startService refused s

/-- The process is gone, without a callback. -/
def killed (s : Device) : Device :=
  { s with isRunning := false, voluntarilyStopped := false, commands := [] }

/-- The process and what the system has set for the app are gone. -/
def forceStopped (s : Device) : Device := { killed s with sticky := false, alarm := false }

inductive Event where
  /-- The driver and the page. -/
  | start
  | stop
  | getInterruptionInfo
  | setPermission (granted : Bool)
  /-- The service is given an intent. -/
  | deliver
  | taskRemoved (refused : Bool)
  | destroyed
  /-- The system kills the process, and may restart a service that had been started. -/
  | kill
  | recreate
  | forceStop
  | reboot (refused : Bool)
  | alarm (refused : Bool)
  | restart (refused : Bool)
  | watchdog (refused : Bool)
  deriving DecidableEq

def step (s : Device) : Event → Option Device
  | .start => some (start s)
  | .stop => some (stop s)
  | .getInterruptionInfo => some { s with interrupted := none }
  | .setPermission granted => some { s with permission := granted }
  | .deliver =>
      match s.commands with
      | [] => none
      | command :: commands => some (onStartCommand { s with commands := commands } command)
  | .taskRemoved refused => if s.isRunning then some (onTaskRemoved refused s) else none
  | .destroyed => if s.isRunning then some (onDestroy s) else none
  | .kill => some { killed s with sticky := s.sticky || s.isRunning || !s.commands.isEmpty }
  | .recreate =>
      if s.sticky then some { s with sticky := false, commands := s.commands ++ [.restarted] }
      else none
  | .forceStop => some (forceStopped s)
  | .reboot refused => some (onBoot refused (forceStopped s))
  | .alarm refused => if s.alarm then some (startService refused { s with alarm := false }) else none
  | .restart refused => if s.restart then some (restartWork refused { s with restart := false }) else none
  | .watchdog refused => if s.watchdog then some (watchdogWork refused s) else none

/-! ## What the four do, by the preference -/

section Works

variable {s : Device} {refused : Bool}

theorem watchdogWork_of_inactive (h : s.active = false) : watchdogWork refused s = s := if_pos h

theorem restartWork_of_inactive (h : s.active = false) : restartWork refused s = s := if_pos h

theorem onBoot_of_inactive (h : s.active = false) : onBoot refused s = s := if_pos h

/-- The system gives the service its intents, one after the other; none stops it. -/
theorem deliver_all (commands : List Command) : ∀ s : Device, s.commands = commands →
    .stop ∉ commands → (commands ≠ [] ∨ s.isRunning = true) →
      ∃ u, Run (Steps step) s (List.replicate commands.length .deliver) u ∧
        u.isRunning = true ∧ u.active = s.active := by
  induction commands with
  | nil => exact fun s _ _ hrunning => ⟨s, .nil s, hrunning.resolve_left (by simp), rfl⟩
  | cons command commands ih =>
    intro s hcommands hstop _
    obtain ⟨hne, hrest⟩ := not_or.mp (mt List.mem_cons.mpr hstop)
    have hstep : step s .deliver =
        some { s with commands := commands, voluntarilyStopped := false, isRunning := true } := by
      simp only [step, hcommands]
      cases command with
      | start => rfl
      | stop => exact absurd rfl hne
      | restarted => rfl
    obtain ⟨u, hrun, hu⟩ := ih { s with
      commands := commands, voluntarilyStopped := false, isRunning := true } rfl hrest (.inr rfl)
    exact ⟨u, .cons hstep hrun, hu⟩

end Works

/-! ## After `stop` -/

/-- Nothing runs, and nothing that does not ask is about to start it. -/
structure Off (s : Device) : Prop where
  active : s.active = false
  isRunning : s.isRunning = false
  commands : s.commands = []
  sticky : s.sticky = false
  alarm : s.alarm = false

theorem Off.step {s t : Device} {e : Event} (h : Off s) (he : e ≠ .start)
    (hstep : Steps step s e t) : Off t := by
  obtain ⟨hactive, hrunning, hcommands, hsticky, halarm⟩ := h
  cases e with
  | start => exact absurd rfl he
  | stop =>
    obtain rfl := Option.some.inj hstep
    rw [stop, stopService, if_neg (by simp [hrunning])]
    exact ⟨rfl, hrunning, rfl, rfl, halarm⟩
  | getInterruptionInfo =>
    obtain rfl := Option.some.inj hstep
    exact ⟨hactive, hrunning, hcommands, hsticky, halarm⟩
  | setPermission granted =>
    obtain rfl := Option.some.inj hstep
    exact ⟨hactive, hrunning, hcommands, hsticky, halarm⟩
  | deliver =>
    simp only [Steps, Supervision.step, hcommands] at hstep
    cases hstep
  | taskRemoved refused =>
    obtain ⟨hon, -⟩ := Option.ite_none_right_eq_some.mp hstep
    rw [hrunning] at hon
    cases hon
  | destroyed =>
    obtain ⟨hon, -⟩ := Option.ite_none_right_eq_some.mp hstep
    rw [hrunning] at hon
    cases hon
  | kill =>
    obtain rfl := Option.some.inj hstep
    refine ⟨hactive, rfl, rfl, ?_, halarm⟩
    simp [hsticky, hrunning, hcommands]
  | recreate =>
    obtain ⟨hset, -⟩ := Option.ite_none_right_eq_some.mp hstep
    rw [hsticky] at hset
    cases hset
  | forceStop =>
    obtain rfl := Option.some.inj hstep
    exact ⟨hactive, rfl, rfl, rfl, rfl⟩
  | reboot refused =>
    obtain rfl := Option.some.inj hstep
    rw [onBoot_of_inactive (s := forceStopped s) hactive]
    exact ⟨hactive, rfl, rfl, rfl, rfl⟩
  | alarm refused =>
    obtain ⟨hset, -⟩ := Option.ite_none_right_eq_some.mp hstep
    rw [halarm] at hset
    cases hset
  | restart refused =>
    obtain ⟨-, ⟨⟩⟩ := Option.ite_none_right_eq_some.mp hstep
    rw [restartWork_of_inactive (s := { s with restart := false }) hactive]
    exact ⟨hactive, hrunning, hcommands, hsticky, halarm⟩
  | watchdog refused =>
    obtain ⟨-, ⟨⟩⟩ := Option.ite_none_right_eq_some.mp hstep
    rw [watchdogWork_of_inactive hactive]
    exact ⟨hactive, hrunning, hcommands, hsticky, halarm⟩

/-- What `stop` leaves of the rest. -/
theorem stop_spec (s : Device) :
    (stop s).active = false ∧ (stop s).isRunning = false ∧ (stop s).commands = [] ∧
      (stop s).sticky = false ∧ (stop s).alarm = s.alarm ∧
      (stop s).interrupted = s.interrupted ∧ (stop s).alerts = s.alerts := by
  rw [stop, stopService]
  split
  · rw [onDestroy]
    split
    · exact ⟨rfl, rfl, rfl, rfl, rfl, rfl, rfl⟩
    · exact ⟨rfl, rfl, rfl, rfl, rfl, rfl, rfl⟩
  · rename_i hrunning
    exact ⟨rfl, Bool.not_eq_true _ ▸ hrunning, rfl, rfl, rfl, rfl, rfl⟩

/-- **After `stop` the service stays off until the next `start`**, whatever happens, exactly where
no alarm is set. -/
theorem stays_off_iff (s : Device) :
    (∀ es u, .start ∉ es → Run (Steps step) (stop s) es u → u.isRunning = false) ↔
      s.alarm = false := by
  obtain ⟨hactive, hrunning, hcommands, hsticky, halarm, -⟩ := stop_spec s
  constructor
  · intro hoff
    -- a set alarm starts the service without a look at the preference
    by_contra hset
    rw [← halarm, Bool.not_eq_false] at hset
    have hfires : step (stop s) (.alarm false) =
        some (startService false { stop s with alarm := false }) := if_pos hset
    have hdelivered : step (startService false { stop s with alarm := false }) .deliver =
        some { stop s with
          alarm := false, commands := [], voluntarilyStopped := false, isRunning := true } := by
      simp [step, startService, hcommands, onStartCommand]
    have hon := hoff [.alarm false, .deliver] _ (by decide)
      (.cons hfires (.cons hdelivered (.nil _)))
    cases hon
  · intro hnone es
    rw [← halarm] at hnone
    have hoff : Off (stop s) := ⟨hactive, hrunning, hcommands, hsticky, hnone⟩
    generalize stop s = t at hoff
    intro u hes hrun
    induction hrun with
    | nil => exact hoff.isRunning
    | cons hstep _ ih =>
      obtain ⟨hne, hrest⟩ := not_or.mp (mt List.mem_cons.mpr hes)
      exact ih (hoff.step (fun heq => hne heq.symm) hstep) hrest

/-- Where the preference is not set nothing is reported, and only `start` sets it. -/
theorem inactive_step {s t : Device} {e : Event} (hactive : s.active = false) (he : e ≠ .start)
    (hstep : Steps step s e t) :
    t.active = false ∧ (t.interrupted = none ∨ t.interrupted = s.interrupted) ∧
      t.alerts = s.alerts := by
  cases e with
  | start => exact absurd rfl he
  | stop =>
    obtain rfl := Option.some.inj hstep
    obtain ⟨hoff, -, -, -, -, hinterrupted, halerts⟩ := stop_spec s
    exact ⟨hoff, .inr hinterrupted, halerts⟩
  | getInterruptionInfo =>
    obtain rfl := Option.some.inj hstep
    exact ⟨hactive, .inl rfl, rfl⟩
  | setPermission granted =>
    obtain rfl := Option.some.inj hstep
    exact ⟨hactive, .inr rfl, rfl⟩
  | deliver =>
    simp only [Steps, step] at hstep
    split at hstep
    · cases hstep
    · rename_i command commands _
      obtain rfl := Option.some.inj hstep
      cases command with
      | start => exact ⟨hactive, .inr rfl, rfl⟩
      | stop => exact ⟨hactive, .inr rfl, rfl⟩
      | restarted => exact ⟨hactive, .inr rfl, rfl⟩
  | taskRemoved refused =>
    obtain ⟨-, ⟨⟩⟩ := Option.ite_none_right_eq_some.mp hstep
    rw [onTaskRemoved, startService]
    split
    · exact ⟨hactive, .inr rfl, rfl⟩
    · exact ⟨hactive, .inr rfl, rfl⟩
  | destroyed =>
    obtain ⟨-, ⟨⟩⟩ := Option.ite_none_right_eq_some.mp hstep
    rw [onDestroy]
    split
    · exact ⟨hactive, .inr rfl, rfl⟩
    · exact ⟨hactive, .inr (if_neg (by simp [hactive])), rfl⟩
  | kill =>
    obtain rfl := Option.some.inj hstep
    exact ⟨hactive, .inr rfl, rfl⟩
  | recreate =>
    obtain ⟨-, ⟨⟩⟩ := Option.ite_none_right_eq_some.mp hstep
    exact ⟨hactive, .inr rfl, rfl⟩
  | forceStop =>
    obtain rfl := Option.some.inj hstep
    exact ⟨hactive, .inr rfl, rfl⟩
  | reboot refused =>
    obtain rfl := Option.some.inj hstep
    rw [onBoot_of_inactive (s := forceStopped s) hactive]
    exact ⟨hactive, .inr rfl, rfl⟩
  | alarm refused =>
    obtain ⟨-, ⟨⟩⟩ := Option.ite_none_right_eq_some.mp hstep
    rw [startService]
    split
    · exact ⟨hactive, .inr rfl, rfl⟩
    · exact ⟨hactive, .inr rfl, rfl⟩
  | restart refused =>
    obtain ⟨-, ⟨⟩⟩ := Option.ite_none_right_eq_some.mp hstep
    rw [restartWork_of_inactive (s := { s with restart := false }) hactive]
    exact ⟨hactive, .inr rfl, rfl⟩
  | watchdog refused =>
    obtain ⟨-, ⟨⟩⟩ := Option.ite_none_right_eq_some.mp hstep
    rw [watchdogWork_of_inactive hactive]
    exact ⟨hactive, .inr rfl, rfl⟩

/-- **A session that was stopped is not reported as interrupted**, and the driver is not alerted
of it, even where an alarm has started the service again. -/
theorem stop_not_reported (s : Device) :
    ∀ es u, .start ∉ es → Run (Steps step) (stop s) es u →
      (u.interrupted = none ∨ u.interrupted = s.interrupted) ∧ u.alerts = s.alerts := by
  obtain ⟨hactive, -, -, -, -, hinterrupted, halerts⟩ := stop_spec s
  rw [← hinterrupted, ← halerts]
  intro es
  generalize stop s = t at hactive
  intro u hes hrun
  induction hrun with
  | nil => exact ⟨.inr rfl, rfl⟩
  | cons hstep _ ih =>
    obtain ⟨hne, hrest⟩ := not_or.mp (mt List.mem_cons.mpr hes)
    obtain ⟨hactive', hinterrupted', halerts'⟩ :=
      inactive_step hactive (fun heq => hne heq.symm) hstep
    obtain ⟨hreported, hcount⟩ := ih hactive' hrest
    refine ⟨?_, hcount.trans halerts'⟩
    rcases hreported with hnone | hsame
    · exact .inl hnone
    · rw [hsame]
      exact hinterrupted'

/-- The session of a phone whose task is swept away, and what follows `stop`. -/
def sweptAway : List Event := [.setPermission true, .start, .deliver, .taskRemoved false]

/-- The alarm starts the service again, and the system ends it. -/
theorem stop_not_reported_alarm : ∃ s u, sweptAway.foldlM step installed = some s ∧
    Run (Steps step) (stop s) [.alarm false, .deliver, .destroyed] u ∧
      u.interrupted = none ∧ u.alerts = 0 := by
  obtain ⟨s, hs, hend⟩ := (Option.any_eq_true ..).mp (show (sweptAway.foldlM step installed).any
    (fun s => ([.alarm false, .deliver, .destroyed].foldlM step (stop s)).isSome &&
      decide (s.interrupted = none ∧ s.alerts = 0)) = true by decide)
  obtain ⟨hsome, hfirst⟩ := Bool.and_eq_true_iff.mp hend
  obtain ⟨hinterrupted, hnone⟩ := of_decide_eq_true hfirst
  obtain ⟨u, hu⟩ := Option.isSome_iff_exists.mp hsome
  have hrun : Run (Steps step) (stop s) [.alarm false, .deliver, .destroyed] u := Run.of_foldlM hu
  obtain ⟨hreported, halerts⟩ := stop_not_reported s _ u (by decide) hrun
  refine ⟨s, u, hs, hrun, ?_, halerts.trans hnone⟩
  rcases hreported with h | h
  · exact h
  · exact h.trans hinterrupted

/-! ## While the service should run -/

/-- The watchdog is enqueued while the service should run, and nobody stops the service by an
intent. -/
structure Watched (s : Device) : Prop where
  watchdog : s.active = true → s.watchdog = true
  commands : .stop ∉ s.commands
  voluntary : s.voluntarilyStopped = false

section Watched

variable {s t : Device} {e : Event} {refused : Bool}

theorem Watched.startService (h : Watched s) : Watched (startService refused s) := by
  rw [Supervision.startService]
  split
  · exact h
  · exact ⟨h.watchdog, by simpa using h.commands, h.voluntary⟩

theorem Watched.step (h : Watched s) (hstep : Steps step s e t) : Watched t := by
  have hwatch := h.watchdog
  have hcommands := h.commands
  have hvoluntary := h.voluntary
  cases e with
  | start =>
    obtain rfl := Option.some.inj hstep
    rw [start]
    split
    · have hstarted : Watched (Supervision.startService false s) := h.startService
      exact ⟨fun _ => rfl, hstarted.commands, hvoluntary⟩
    · exact h
  | stop =>
    obtain rfl := Option.some.inj hstep
    obtain ⟨hactive, -, hnone, -⟩ := stop_spec s
    refine ⟨fun h => (by rw [hactive] at h; cases h), by simp [hnone], ?_⟩
    rw [stop, stopService, onDestroy]
    split
    · split
      · exact hvoluntary
      · exact hvoluntary
    · exact hvoluntary
  | getInterruptionInfo =>
    obtain rfl := Option.some.inj hstep
    exact ⟨hwatch, hcommands, hvoluntary⟩
  | setPermission granted =>
    obtain rfl := Option.some.inj hstep
    exact ⟨hwatch, hcommands, hvoluntary⟩
  | deliver =>
    simp only [Steps, Supervision.step] at hstep
    split at hstep
    · cases hstep
    · rename_i command commands hqueue
      obtain rfl := Option.some.inj hstep
      rw [hqueue] at hcommands
      obtain ⟨hne, hrest⟩ := not_or.mp (mt List.mem_cons.mpr hcommands)
      cases command with
      | start => exact ⟨hwatch, hrest, rfl⟩
      | stop => exact absurd rfl hne
      | restarted => exact ⟨hwatch, hrest, rfl⟩
  | taskRemoved refused =>
    obtain ⟨-, ⟨⟩⟩ := Option.ite_none_right_eq_some.mp hstep
    exact ⟨h.startService.watchdog, h.startService.commands, h.startService.voluntary⟩
  | destroyed =>
    obtain ⟨-, ⟨⟩⟩ := Option.ite_none_right_eq_some.mp hstep
    rw [onDestroy]
    split
    · exact ⟨hwatch, hcommands, hvoluntary⟩
    · exact ⟨hwatch, hcommands, hvoluntary⟩
  | kill =>
    obtain rfl := Option.some.inj hstep
    exact ⟨hwatch, List.not_mem_nil, rfl⟩
  | recreate =>
    obtain ⟨-, ⟨⟩⟩ := Option.ite_none_right_eq_some.mp hstep
    exact ⟨hwatch, by simpa using hcommands, hvoluntary⟩
  | forceStop =>
    obtain rfl := Option.some.inj hstep
    exact ⟨hwatch, List.not_mem_nil, rfl⟩
  | reboot refused =>
    obtain rfl := Option.some.inj hstep
    have hdown : Watched (forceStopped s) := ⟨hwatch, List.not_mem_nil, rfl⟩
    rw [onBoot]
    split
    · exact hdown
    · split
      · exact hdown
      · exact hdown.startService
  | alarm refused =>
    obtain ⟨-, ⟨⟩⟩ := Option.ite_none_right_eq_some.mp hstep
    exact Watched.startService ⟨hwatch, hcommands, hvoluntary⟩
  | restart refused =>
    obtain ⟨-, ⟨⟩⟩ := Option.ite_none_right_eq_some.mp hstep
    have hdone : Watched { s with restart := false } := ⟨hwatch, hcommands, hvoluntary⟩
    rw [restartWork]
    split
    · exact hdone
    · split
      · exact hdone
      · split
        · exact hdone
        · exact hdone.startService
  | watchdog refused =>
    obtain ⟨-, ⟨⟩⟩ := Option.ite_none_right_eq_some.mp hstep
    rw [watchdogWork]
    split
    · exact h
    · split
      · exact ⟨hwatch, hcommands, hvoluntary⟩
      · split
        · exact h
        · split
          · exact ⟨hwatch, hcommands, hvoluntary⟩
          · exact Watched.startService ⟨hwatch, hcommands, hvoluntary⟩

end Watched

/-- A service that should run and does not. -/
structure Dead (s : Device) : Prop where
  active : s.active = true
  permission : s.permission = true
  isRunning : s.isRunning = false

/-- Each watchdog that is refused a start counts, and from the third on the driver is alerted. -/
theorem refused_watchdogs {s : Device} (hdead : Dead s) (hwatchdog : s.watchdog = true) (n : Nat) :
    ∃ u, Run (Steps step) s (List.replicate n (.watchdog true)) u ∧ Dead u ∧
      u.failures = s.failures + n ∧ u.alerts = s.alerts + (n - (2 - s.failures)) := by
  induction n generalizing s with
  | zero => exact ⟨s, .nil s, hdead, rfl, by omega⟩
  | succ n ih =>
    have hfires : step s (.watchdog true) = some { s with
        interrupted := some .watchdogDetectedDead
        failures := s.failures + 1
        alerts := if FAILURE_NOTIFICATION_THRESHOLD ≤ s.failures + 1 then s.alerts + 1
          else s.alerts } := by
      simp [step, watchdogWork, hwatchdog, hdead.active, hdead.permission, hdead.isRunning]
    obtain ⟨u, hrun, hu, hfailures, halerts⟩ :=
      ih (s := { s with
        interrupted := some .watchdogDetectedDead
        failures := s.failures + 1
        alerts := if FAILURE_NOTIFICATION_THRESHOLD ≤ s.failures + 1 then s.alerts + 1
          else s.alerts }) ⟨hdead.active, hdead.permission, hdead.isRunning⟩ hwatchdog
    refine ⟨u, .cons hfires hrun, hu, by rw [hfailures]; dsimp only; omega, ?_⟩
    rw [halerts]
    dsimp only
    rw [FAILURE_NOTIFICATION_THRESHOLD]
    split
    · omega
    · omega

/-- **A service that should run and does not is brought back by the watchdog**, and the
interruption marked; where the system refuses the start, the driver is alerted from the third
time on. -/
theorem supervised {s : Device} {es : List Event} (hrun : Run (Steps step) installed es s)
    (hdead : Dead s) :
    (∃ t u, step s (.watchdog false) = some t ∧ t.interrupted = some .watchdogDetectedDead ∧
      Run (Steps step) t (List.replicate t.commands.length .deliver) u ∧
        u.isRunning = true ∧ u.active = true) ∧
    ∀ n, ∃ u, Run (Steps step) s (List.replicate n (.watchdog true)) u ∧ Dead u ∧
      u.failures = s.failures + n ∧ u.alerts = s.alerts + (n - (2 - s.failures)) := by
  have hwatched : Watched s := by
    refine hrun.invariant (fun h hstep => h.step hstep) ⟨fun h => ?_, List.not_mem_nil, rfl⟩
    cases h
  have hwatchdog := hwatched.watchdog hdead.active
  refine ⟨?_, refused_watchdogs hdead hwatchdog⟩
  have hfires : step s (.watchdog false) =
      some (startService false { s with interrupted := some .watchdogDetectedDead }) := by
    simp [step, watchdogWork, hwatchdog, hdead.active, hdead.permission, hdead.isRunning]
  have hstarted := hwatched.step hfires
  obtain ⟨u, hdelivered, hu, hactive⟩ :=
    deliver_all _ _ rfl hstarted.commands (.inl (by simp [startService]))
  exact ⟨_, u, hfires, rfl, hdelivered, hu, hactive.trans hdead.active⟩

/-- A service killed with its process. -/
theorem supervised_killed :
    ∃ s, [.setPermission true, .start, .deliver, .kill].foldlM step installed = some s ∧
      ∃ u, Run (Steps step) s (List.replicate 3 (.watchdog true)) u ∧ u.alerts = 1 := by
  refine ⟨_, rfl, ?_⟩
  obtain ⟨-, hrefused⟩ := supervised (Run.of_foldlM (show
    [.setPermission true, .start, .deliver, .kill].foldlM step installed = some _ from rfl))
      ⟨rfl, rfl, rfl⟩
  obtain ⟨u, hrun, -, -, halerts⟩ := hrefused 3
  exact ⟨u, hrun, halerts⟩

end DeliveryTracking.Phone.Supervision
