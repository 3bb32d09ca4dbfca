/-
# `DeliveryTracking.Traccar.Connection` — one socket, and always on the way to one

`connect`, `scheduleReconnect`, `dropSocket`, `disconnect`, `scheduleSessionRenewal`
and `runHealthCheck` of `traccar-bridge.service.ts`, for one instance.  Time is in
milliseconds; a timer fires at most `late` after it is due.  What the instance waits
for is the environment's to decide: how a login ends, when a socket opens, speaks,
fails or closes, when the instance is elected or deposed.  The handlers run without
interruption; `connect` stops once, at its login.

    oneSocket     at most one socket is live, the current one, and none is live for
                  longer than the renewal of its session
    recovers      a connection that counts as open was heard of recently; an instance
                  that may connect has a login, a reconnection or a socket under way

A deposed instance may still open a socket, where a login was under way: the renewal
of the session is what ends it.
-/
import DeliveryTracking.Runs
import DeliveryTracking.Timers
import Mathlib.Algebra.Group.Nat.Defs

namespace DeliveryTracking.Traccar

def INITIAL_RECONNECT_DELAY_MS : Nat := 2000

def MAX_RECONNECT_DELAY_MS : Nat := 120000

def TRACCAR_HEALTH_CHECK_INTERVAL_MS : Nat := 300000

/-- From here on without a message, the socket counts as dead. -/
def TRACCAR_WS_STALE_MS : Nat := 15 * 60 * 1000

/-- The delay of `scheduleSessionRenewal`. -/
def sessionRenewalMs : Nat := 30 * 60 * 1000

inductive SocketPhase where
  | connecting
  | opened
  /-- `close()` was called; its event is still to come. -/
  | closing
  | closed
  deriving DecidableEq, Repr

structure TraccarSocket where
  phase : SocketPhase
  /-- No code reads it. -/
  createdAt : Nat
  deriving DecidableEq, Repr

inductive ConnectionTimer where
  | connect
  | renewSession
  deriving DecidableEq, Repr

structure Connection where
  now : Nat
  /-- A client of Redis is injected. -/
  redis : Bool
  isLeader : Bool
  connected : Bool
  sessionCookie : Bool
  lastMessageAt : Option Nat
  disconnectStartTime : Option Nat
  reconnectAttempts : Nat
  /-- `this.socket`, by its place in `sockets`. -/
  socket : Option Nat
  /-- All sockets so far. -/
  sockets : List TraccarSocket
  timers : Timers ConnectionTimer
  reconnectTimer : Option Nat
  sessionExpiryTimer : Option Nat
  /-- The next tick of `healthTimer`. -/
  healthDue : Nat
  /-- The calls of `connect` that await their login. -/
  connects : Nat
  /-- The health checks that await their answer. -/
  healthChecks : Nat
  deriving DecidableEq, Repr

/-- `jitter` is `Math.random() * 1000`. -/
inductive ConnectionEvent where
  | advance (t : Nat)
  | elected
  | deposed
  | authenticated
  /-- The login fails. -/
  | refused (jitter : Nat)
  /-- `new WebSocket` throws after the login. -/
  | unconstructed (jitter : Nat)
  | opens (i : Nat)
  | message (i : Nat)
  | errors (i : Nat)
  | closes (i : Nat) (jitter : Nat)
  | fires (handle : Nat)
  | healthTick (jitter : Nat)
  | healthAnswer (ok : Bool) (jitter : Nat)
  deriving DecidableEq, Repr

namespace Connection

/-- After `onModuleInit`: without Redis it has called `connect`. -/
def start (redis : Bool) : Connection where
  now := 0
  redis := redis
  isLeader := false
  connected := false
  sessionCookie := false
  lastMessageAt := none
  disconnectStartTime := none
  reconnectAttempts := 0
  socket := none
  sockets := []
  timers := .empty
  reconnectTimer := none
  sessionExpiryTimer := none
  healthDue := TRACCAR_HEALTH_CHECK_INTERVAL_MS
  connects := if redis then 0 else 1
  healthChecks := 0

variable (s : Connection)

/-- `connect` and `scheduleReconnect` go on. -/
def mayConnect : Bool := !s.redis || s.isLeader

/-- `connect`, up to its login -/
def connect : Connection := if s.mayConnect then { s with connects := s.connects + 1 } else s

def reconnectDelay (attempts jitter : Nat) : Nat :=
  min (INITIAL_RECONNECT_DELAY_MS * 2 ^ (attempts - 1) + jitter) MAX_RECONNECT_DELAY_MS

def scheduleReconnect (jitter : Nat) : Connection :=
  if s.mayConnect then
    { s with
      reconnectAttempts := s.reconnectAttempts + 1
      reconnectTimer := some s.timers.fresh
      timers := (s.timers.clear s.reconnectTimer).set s.now
        (reconnectDelay (s.reconnectAttempts + 1) jitter) .connect }
  else s

def setPhase (i : Nat) (phase : SocketPhase) : Connection :=
  { s with sockets := s.sockets.modify i fun x => { x with phase := phase } }

/-- The socket is detached and terminated. -/
def dropSocket : Connection :=
  match s.socket with
  | none => s
  | some i => { s.setPhase i .closed with socket := none }

def disconnect : Connection :=
  { { s with
      timers := (s.timers.clear s.reconnectTimer).clear s.sessionExpiryTimer }.dropSocket with
    connected := false
    sessionCookie := false
    lastMessageAt := none }

def scheduleSessionRenewal : Connection :=
  { s with
    sessionExpiryTimer := some s.timers.fresh
    timers := (s.timers.clear s.sessionExpiryTimer).set s.now sessionRenewalMs .renewSession }

/-- `authenticate`, once the login has its answer -/
def authenticate : Connection := { s with sessionCookie := true }.scheduleSessionRenewal

/-- `this.dropSocket(); this.socket = new WebSocket(wsUrl)` -/
def openSocket : Connection :=
  let s := s.dropSocket
  { s with socket := some s.sockets.length, sockets := s.sockets ++ [⟨.connecting, s.now⟩] }

/-- The `catch` of `connect` -/
def connectFails (jitter : Nat) : Connection :=
  { s with connected := false, sessionCookie := false }.scheduleReconnect jitter

/-- One of the calls that await their login goes on. -/
def resumed : Option Connection :=
  if 0 < s.connects then some { s with connects := s.connects - 1 } else none

def onOpen : Connection :=
  { s with
    connected := true
    disconnectStartTime := none
    reconnectAttempts := 0
    lastMessageAt := some s.now }

def onClose (jitter : Nat) : Connection :=
  { s with
    socket := none
    connected := false
    sessionCookie := false
    disconnectStartTime := some (s.disconnectStartTime.getD s.now) }.scheduleReconnect jitter

/-- What an event of the socket `i` does, if the socket can have it; `handler` is guarded by
`this.socket === sock`. -/
def socketEvent (i : Nat) (allowed : SocketPhase → Bool) (phase : SocketPhase → SocketPhase)
    (handler : Connection → Connection) : Option Connection :=
  match s.sockets[i]? with
  | none => none
  | some x =>
      if allowed x.phase then
        let s := s.setPhase i (phase x.phase)
        some (if s.socket = some i then handler s else s)
      else none

def stale : Bool := s.connected && s.lastMessageAt.any fun t => TRACCAR_WS_STALE_MS < s.now - t

/-- `setInterval`: the next tick is an interval after this one. -/
def nextTick : Connection := { s with healthDue := s.now + TRACCAR_HEALTH_CHECK_INTERVAL_MS }

/-- `runHealthCheck`, up to its request -/
def runHealthCheck (jitter : Nat) : Connection :=
  if s.stale then s.disconnect.scheduleReconnect jitter
  else if s.sessionCookie then { s with healthChecks := s.healthChecks + 1 }
  else s

/-- The rest of `runHealthCheck`: its `catch` does the same as an answer that is not ok. -/
def healthAnswer (ok : Bool) (jitter : Nat) : Connection :=
  if !ok && s.connected then s.disconnect.scheduleReconnect jitter else s

/-- What the timer of a callback does. -/
def call : ConnectionTimer → Connection
  | .connect => s.connect
  | .renewSession => s.disconnect.connect

def step (late : Nat) (s : Connection) : ConnectionEvent → Option Connection
  | .advance t =>
      if s.now ≤ t ∧ s.timers.allows late t ∧ t ≤ s.healthDue + late then some { s with now := t }
      else none
  | .elected => if s.redis then some { s with isLeader := true }.connect else none
  | .deposed => if s.redis && s.isLeader then some { s with isLeader := false }.disconnect else none
  | .authenticated => s.resumed.map fun s => s.authenticate.openSocket
  | .refused jitter => s.resumed.map fun s => s.connectFails jitter
  | .unconstructed jitter => s.resumed.map fun s => s.authenticate.dropSocket.connectFails jitter
  | .opens i => s.socketEvent i (· = .connecting) (fun _ => .opened) onOpen
  | .message i =>
      s.socketEvent i (fun p => p = .opened || p = .closing) id
        fun s => { s with lastMessageAt := some s.now }
  | .errors i => s.socketEvent i (· ≠ .closed) (fun _ => .closing) id
  | .closes i jitter => s.socketEvent i (· ≠ .closed) (fun _ => .closed) (onClose · jitter)
  | .fires handle =>
      match s.timers.pending.find? (·.handle = handle) with
      | none => none
      | some t =>
          if t.due ≤ s.now then some ({ s with timers := s.timers.clear (some handle) }.call t.callback)
          else none
  | .healthTick jitter => if s.healthDue ≤ s.now then some (s.nextTick.runHealthCheck jitter) else none
  | .healthAnswer ok jitter =>
      if 0 < s.healthChecks then
        some ({ s with healthChecks := s.healthChecks - 1 }.healthAnswer ok jitter)
      else none

/-! ## What every handler keeps

`Base` holds between any two handlers.  `Recovering` is what a handler that takes the
connection down has to restore. -/

/-- The socket at `i` is neither closed nor terminated. -/
def Live (s : Connection) (i : Nat) : Prop := ∃ x, s.sockets[i]? = some x ∧ x.phase ≠ .closed

/-- The timers and the clock. -/
structure Clocked (late : Nat) (s : Connection) : Prop where
  known : s.timers.Known
  reconnect : s.timers.Slot .connect s.reconnectTimer
  session : s.timers.Slot .renewSession s.sessionExpiryTimer
  onTime : ∀ t ∈ s.timers.pending, s.now ≤ t.due + late
  healthOnTime : s.now ≤ s.healthDue + late
  healthSoon : s.healthDue ≤ s.now + TRACCAR_HEALTH_CHECK_INTERVAL_MS

structure Base (late : Nat) (s : Connection) : Prop extends s.Clocked late where
  current : ∀ i, s.Live i → s.socket = some i
  live : ∀ i, s.socket = some i → s.Live i
  /-- A live socket has the renewal of its session to come. -/
  renewed : ∀ (i : Nat) (x : TraccarSocket), s.sockets[i]? = some x → x.phase ≠ .closed →
    ∃ t ∈ s.timers.pending, t.callback = .renewSession ∧ t.due = x.createdAt + sessionRenewalMs
  open_ : s.connected = true → s.socket.isSome
  heard : s.connected = true → ∃ m, s.lastMessageAt = some m ∧
    s.healthDue ≤ m + TRACCAR_WS_STALE_MS + TRACCAR_HEALTH_CHECK_INTERVAL_MS

/-- Something is under way, if the instance may connect. -/
def Recovering (s : Connection) : Prop :=
  s.mayConnect = true → 0 < s.connects ∨ s.socket.isSome ∨
    ∃ t ∈ s.timers.pending, t.callback = .connect ∧ t.due ≤ s.now + MAX_RECONNECT_DELAY_MS

variable {s t : Connection} {late jitter i : Nat}

theorem getElem?_setPhase {phase : SocketPhase} {j : Nat} :
    (s.setPhase i phase).sockets[j]? =
      if i = j then s.sockets[j]?.map fun x => { x with phase := phase } else s.sockets[j]? := by
  simp only [setPhase, List.getElem?_modify]
  split
  · rfl
  · simp

/-- Closing a socket leaves the others. -/
theorem live_of_live_close {j : Nat} (h : (s.setPhase i .closed).Live j) : s.Live j ∧ j ≠ i := by
  obtain ⟨x, hx, hphase⟩ := h
  rw [getElem?_setPhase] at hx
  split at hx
  · obtain ⟨y, -, rfl⟩ := Option.map_eq_some_iff.mp hx
    exact absurd rfl hphase
  · rename_i hne
    exact ⟨⟨x, hx, hphase⟩, Ne.symm hne⟩

theorem socket_dropSocket : s.dropSocket.socket = none := by
  unfold dropSocket
  split
  · assumption
  · rfl

theorem Clocked.dropSocket (h : s.Clocked late) : s.dropSocket.Clocked late := by
  unfold Connection.dropSocket
  split
  · exact h
  · exact { h with }

/-- Without a socket only the timers are left to keep. -/
theorem Clocked.base (h : s.Clocked late) (hgone : ∀ j, ¬s.Live j) (hsocket : s.socket = none)
    (hconnected : s.connected = false) : s.Base late where
  toClocked := h
  current := fun j hj => absurd hj (hgone j)
  live := by
    intro j hj
    rw [hsocket] at hj
    cases hj
  renewed := fun j x hx hopen => absurd ⟨x, hx, hopen⟩ (hgone j)
  open_ := by
    intro h'
    rw [hconnected] at h'
    cases h'
  heard := by
    intro h'
    rw [hconnected] at h'
    cases h'

/-- No socket is live once the current one is dropped. -/
theorem not_live_dropSocket (hcurrent : ∀ i, s.Live i → s.socket = some i) (j : Nat) :
    ¬s.dropSocket.Live j := by
  intro hlive
  unfold dropSocket at hlive
  split at hlive
  · rename_i hsocket
    cases hsocket.symm.trans (hcurrent j hlive)
  · rename_i i hsocket
    obtain ⟨hj, hne⟩ := live_of_live_close (s := s) hlive
    exact hne (Option.some.inj ((hcurrent j hj).symm.trans hsocket))

/-- What a socket does to its phase, short of closing, changes nothing. -/
theorem Base.setPhase (h : s.Base late) (hlive : s.Live i) {phase : SocketPhase}
    (hphase : phase ≠ .closed) : (s.setPhase i phase).Base late := by
  have hback : ∀ (j : Nat) (x : TraccarSocket), (s.setPhase i phase).sockets[j]? = some x →
      x.phase ≠ .closed → ∃ y : TraccarSocket, s.sockets[j]? = some y ∧ y.phase ≠ .closed ∧
        y.createdAt = x.createdAt := by
    intro j x hx hopen
    rw [getElem?_setPhase] at hx
    split at hx
    · rename_i hij
      subst hij
      obtain ⟨z, hz, hzphase⟩ := hlive
      obtain ⟨y, hy, rfl⟩ := Option.map_eq_some_iff.mp hx
      obtain rfl : z = y := Option.some.inj (hz.symm.trans hy)
      exact ⟨z, hz, hzphase, rfl⟩
    · exact ⟨x, hx, hopen, rfl⟩
  refine { toClocked := { h.toClocked with }, open_ := h.open_, heard := h.heard,
           current := ?_, live := ?_, renewed := ?_ }
  · rintro j ⟨x, hx, hopen⟩
    obtain ⟨y, hy, hyopen, -⟩ := hback j x hx hopen
    exact h.current j ⟨y, hy, hyopen⟩
  · intro j hj
    obtain ⟨x, hx, hopen⟩ := h.live j hj
    unfold Live
    rw [getElem?_setPhase, hx]
    split
    · exact ⟨_, rfl, hphase⟩
    · exact ⟨x, rfl, hopen⟩
  · intro j x hx hopen
    obtain ⟨y, hy, hyopen, hcreated⟩ := hback j x hx hopen
    obtain ⟨t, ht, hcallback, hdue⟩ := h.renewed j y hy hyopen
    exact ⟨t, ht, hcallback, hcreated ▸ hdue⟩

theorem Clocked.scheduleReconnect (h : s.Clocked late) :
    (s.scheduleReconnect jitter).Clocked late := by
  unfold Connection.scheduleReconnect
  split
  · refine { known := h.known.clear.set, reconnect := h.reconnect.reset h.known,
             session := h.session.clear.set_other (by decide), onTime := ?_,
             healthOnTime := h.healthOnTime, healthSoon := h.healthSoon }
    intro t ht
    rcases List.mem_cons.mp ht with rfl | ht
    · show s.now ≤ s.now + _ + late
      omega
    · exact h.onTime t (Timers.mem_clear.mp ht).1
  · exact h

theorem Base.scheduleReconnect (h : s.Base late) : (s.scheduleReconnect jitter).Base late := by
  refine { toClocked := h.toClocked.scheduleReconnect, current := ?_, live := ?_, renewed := ?_,
           open_ := ?_, heard := ?_ }
  all_goals unfold Connection.scheduleReconnect; split
  case refine_3.isTrue =>
    intro j x hx hopen
    obtain ⟨t, ht, hcallback, hdue⟩ := h.renewed j x hx hopen
    have hstays : t ∈ (s.timers.clear s.reconnectTimer).pending :=
      h.reconnect.mem_clear_other (by decide) ht hcallback
    exact ⟨t, List.mem_cons_of_mem _ hstays, hcallback, hdue⟩
  case refine_3.isFalse => exact h.renewed
  case refine_1.isTrue | refine_1.isFalse => exact h.current
  case refine_2.isTrue | refine_2.isFalse => exact h.live
  case refine_4.isTrue | refine_4.isFalse => exact h.open_
  case refine_5.isTrue | refine_5.isFalse => exact h.heard

theorem recovering_scheduleReconnect : (s.scheduleReconnect jitter).Recovering := by
  intro hmay
  unfold Connection.scheduleReconnect at hmay ⊢
  split
  · refine Or.inr (Or.inr ⟨_, List.mem_cons_self .., rfl, ?_⟩)
    show s.now + reconnectDelay _ _ ≤ s.now + MAX_RECONNECT_DELAY_MS
    have hle : reconnectDelay (s.reconnectAttempts + 1) jitter ≤ MAX_RECONNECT_DELAY_MS :=
      Nat.min_le_right ..
    omega
  · rename_i hnot
    rw [if_neg hnot] at hmay
    exact absurd hmay hnot

theorem Base.connect (h : s.Base late) : s.connect.Base late := by
  unfold Connection.connect
  split
  · exact { h with }
  · exact h

theorem recovering_connect : s.connect.Recovering := by
  intro hmay
  unfold Connection.connect at hmay ⊢
  split
  · exact Or.inl (Nat.succ_pos _)
  · rename_i hnot
    rw [if_neg hnot] at hmay
    exact absurd hmay hnot

/-- Whatever renewal was lost, `disconnect` leaves no socket that needs one. -/
theorem Clocked.disconnect (h : s.Clocked late) (hcurrent : ∀ i, s.Live i → s.socket = some i) :
    s.disconnect.Base late := by
  have hclear : ({ s with
      timers := (s.timers.clear s.reconnectTimer).clear s.sessionExpiryTimer } :
        Connection).Clocked late :=
    { known := h.known.clear.clear, reconnect := h.reconnect.clear.clear,
      session := h.session.clear.clear, healthOnTime := h.healthOnTime,
      healthSoon := h.healthSoon,
      onTime := fun t ht => h.onTime t (Timers.mem_clear.mp (Timers.mem_clear.mp ht).1).1 }
  refine Clocked.base { hclear.dropSocket with } ?_ socket_dropSocket rfl
  exact not_live_dropSocket
    (s := { s with timers := (s.timers.clear s.reconnectTimer).clear s.sessionExpiryTimer })
    hcurrent

theorem Clocked.authenticate (h : s.Clocked late) : s.authenticate.Clocked late where
  known := h.known.clear.set
  reconnect := h.reconnect.clear.set_other (by decide)
  session := h.session.reset h.known
  onTime := by
    intro t ht
    rcases List.mem_cons.mp ht with rfl | ht
    · show s.now ≤ s.now + _ + late
      omega
    · exact h.onTime t (Timers.mem_clear.mp ht).1
  healthOnTime := h.healthOnTime
  healthSoon := h.healthSoon

/-- A new socket takes the place of the one there is, with the session that was opened for it. -/
theorem Base.openSocket (h : s.Base late) : s.authenticate.openSocket.Base late := by
  have hgone : ∀ j, ¬s.authenticate.dropSocket.Live j :=
    not_live_dropSocket (s := s.authenticate) h.current
  have hclocked : s.authenticate.dropSocket.Clocked late := h.toClocked.authenticate.dropSocket
  have hsame : s.authenticate.dropSocket.timers = s.authenticate.timers ∧
      s.authenticate.dropSocket.now = s.now ∧
      s.authenticate.dropSocket.connected = s.connected ∧
      s.authenticate.dropSocket.lastMessageAt = s.lastMessageAt ∧
      s.authenticate.dropSocket.healthDue = s.healthDue := by
    unfold dropSocket
    split <;> exact ⟨rfl, rfl, rfl, rfl, rfl⟩
  obtain ⟨htimers, hnow, hconnected, hheard, hhealth⟩ := hsame
  have hlast : ∀ (j : Nat) (x : TraccarSocket), s.authenticate.openSocket.sockets[j]? = some x →
      x.phase ≠ .closed →
      j = s.authenticate.dropSocket.sockets.length ∧ x.createdAt = s.now := by
    intro j x hx hopen
    have hx' : (s.authenticate.dropSocket.sockets ++ [⟨.connecting, _⟩])[j]? = some x := hx
    rw [List.getElem?_append] at hx'
    split at hx'
    · exact absurd ⟨x, hx', hopen⟩ (hgone j)
    · rename_i hle
      obtain ⟨hj, hx''⟩ := List.getElem?_eq_some_iff.mp hx'
      rw [List.length_singleton] at hj
      refine ⟨by omega, ?_⟩
      rw [← hx'', List.getElem_singleton, hnow]
  refine { toClocked := { hclocked with }, current := ?_, live := ?_, renewed := ?_, open_ := ?_,
           heard := ?_ }
  · rintro j ⟨x, hx, hopen⟩
    exact congrArg some (hlast j x hx hopen).1.symm
  · intro j hj
    obtain rfl : s.authenticate.dropSocket.sockets.length = j := Option.some.inj hj
    exact ⟨_, List.getElem?_concat_length, by simp⟩
  · intro j x hx hopen
    refine ⟨⟨s.timers.fresh, .renewSession, s.now + sessionRenewalMs⟩, ?_, rfl, ?_⟩
    · show _ ∈ s.authenticate.dropSocket.timers.pending
      rw [htimers]
      exact List.mem_cons_self ..
    · rw [(hlast j x hx hopen).2]
  · exact fun _ => rfl
  · intro h'
    have h'' : s.authenticate.dropSocket.connected = true := h'
    rw [hconnected] at h''
    obtain ⟨m, hm, hle⟩ := h.heard h''
    refine ⟨m, hheard.trans hm, ?_⟩
    show s.authenticate.dropSocket.healthDue ≤ _
    rw [hhealth]
    exact hle

/-- A login that leads to no socket. -/
theorem Base.connectFails (h : s.Base late) : (s.connectFails jitter).Base late := by
  refine Base.scheduleReconnect { h with open_ := ?_, heard := ?_ }
  · intro h'
    cases h'
  · intro h'
    cases h'

/-- A login whose socket cannot be built. -/
theorem Base.unconstructed (h : s.Base late) :
    (s.authenticate.dropSocket.connectFails jitter).Base late := by
  refine Base.scheduleReconnect (Clocked.base { h.toClocked.authenticate.dropSocket with } ?_ ?_ rfl)
  · exact not_live_dropSocket (s := s.authenticate) h.current
  · exact socket_dropSocket (s := s.authenticate)

theorem Base.onOpen (h : s.Base late) (hsocket : s.socket = some i) : s.onOpen.Base late := by
  refine { toClocked := { h.toClocked with }, current := h.current, live := h.live,
           renewed := h.renewed, open_ := ?_, heard := ?_ }
  · intro _
    exact Option.isSome_iff_exists.mpr ⟨i, hsocket⟩
  · intro _
    refine ⟨s.now, rfl, ?_⟩
    show s.healthDue ≤ _
    have hsoon : s.healthDue ≤ s.now + TRACCAR_HEALTH_CHECK_INTERVAL_MS := h.healthSoon
    omega

/-- A message is something heard. -/
theorem Base.message (h : s.Base late) : ({ s with lastMessageAt := some s.now }).Base late := by
  refine { toClocked := { h.toClocked with }, current := h.current, live := h.live,
           renewed := h.renewed, open_ := h.open_, heard := ?_ }
  intro _
  refine ⟨s.now, rfl, ?_⟩
  show s.healthDue ≤ _
  have hsoon : s.healthDue ≤ s.now + TRACCAR_HEALTH_CHECK_INTERVAL_MS := h.healthSoon
  omega

theorem Base.onClose (h : s.Base late) (hsocket : s.socket = some i) :
    ((s.setPhase i .closed).onClose jitter).Base late := by
  refine Base.scheduleReconnect (Clocked.base { h.toClocked with } ?_ rfl rfl)
  intro j hj
  obtain ⟨hlive, hne⟩ := live_of_live_close (s := s) (j := j) hj
  exact hne (Option.some.inj ((h.current j hlive).symm.trans hsocket))

/-- Only the current socket has events: the others are closed, or their listeners are gone. -/
theorem Base.socketEvent (h : s.Base late) {allowed : SocketPhase → Bool}
    {phase : SocketPhase → SocketPhase} {handler : Connection → Connection}
    (hallowed : ∀ p, allowed p = true → p ≠ .closed)
    (hstep : s.socketEvent i allowed phase handler = some t) :
    ∃ x, s.sockets[i]? = some x ∧ x.phase ≠ .closed ∧ s.socket = some i ∧
      t = handler (s.setPhase i (phase x.phase)) := by
  unfold Connection.socketEvent at hstep
  split at hstep
  · cases hstep
  · rename_i x hx
    split at hstep
    · rename_i hx'
      have hopen : x.phase ≠ .closed := hallowed _ hx'
      have hsocket : s.socket = some i := h.current i ⟨x, hx, hopen⟩
      have hsocket' : (s.setPhase i (phase x.phase)).socket = some i := hsocket
      refine ⟨x, hx, hopen, hsocket, (Option.some.inj hstep).symm.trans ?_⟩
      exact if_pos hsocket'
    · cases hstep

theorem Clocked.nextTick (h : s.Clocked late) : s.nextTick.Clocked late :=
  { h with
    healthOnTime := by
      show s.now ≤ s.now + _ + late
      omega
    healthSoon := Nat.le_refl _ }

/-- Where the socket is not stale, its last message is recent enough until the next tick. -/
theorem Base.nextTick (h : s.Base late) (hstale : s.nextTick.stale ≠ true) :
    s.nextTick.Base late := by
  refine { toClocked := h.toClocked.nextTick, current := h.current, live := h.live,
           renewed := h.renewed, open_ := h.open_, heard := ?_ }
  intro hconnected
  obtain ⟨m, hm, -⟩ := h.heard hconnected
  refine ⟨m, hm, ?_⟩
  have hrecent : ¬TRACCAR_WS_STALE_MS < s.now - m := by
    intro hlt
    have hany : (s.lastMessageAt.any fun t => TRACCAR_WS_STALE_MS < s.now - t) = true := by
      rw [hm]
      exact decide_eq_true hlt
    exact hstale (Bool.and_eq_true_iff.mpr ⟨hconnected, hany⟩)
  show s.now + _ ≤ _
  omega

theorem Base.runHealthCheck (h : s.Base late) :
    (s.nextTick.runHealthCheck jitter).Base late := by
  unfold Connection.runHealthCheck
  split
  · exact (h.toClocked.nextTick.disconnect h.current).scheduleReconnect
  · rename_i hstale
    have hbase : s.nextTick.Base late := h.nextTick hstale
    split
    · exact { hbase with }
    · exact hbase

theorem Base.healthAnswer (h : s.Base late) {ok : Bool} : (s.healthAnswer ok jitter).Base late := by
  unfold Connection.healthAnswer
  split
  · exact (h.toClocked.disconnect h.current).scheduleReconnect
  · exact h

/-! ## Every step -/

theorem Base.fires (h : s.Base late) {x : Timer ConnectionTimer} (hx : x ∈ s.timers.pending) :
    (({ s with timers := s.timers.clear (some x.handle) } : Connection).call x.callback).Base
      late ∧
    (({ s with timers := s.timers.clear (some x.handle) } : Connection).call
      x.callback).Recovering := by
  have hclocked : ({ s with timers := s.timers.clear (some x.handle) } :
      Connection).Clocked late :=
    { h.toClocked with
      known := h.known.clear
      reconnect := h.reconnect.clear
      session := h.session.clear
      onTime := fun t ht => h.onTime t (Timers.mem_clear.mp ht).1 }
  cases hcallback : x.callback with
  | connect =>
      refine ⟨Base.connect { toClocked := hclocked, current := h.current, live := h.live,
                             renewed := ?_, open_ := h.open_, heard := h.heard },
        recovering_connect⟩
      intro j y hy hopen
      obtain ⟨t, ht, hrenew, hdue⟩ := h.renewed j y hy hopen
      refine ⟨t, Timers.mem_clear.mpr ⟨ht, ?_⟩, hrenew, hdue⟩
      intro hhandle
      have hsession : s.sessionExpiryTimer = some x.handle :=
        ((h.session.owns t ht).mp hrenew).trans hhandle.symm
      cases hcallback.symm.trans ((h.session.owns x hx).mpr hsession)
  | renewSession => exact ⟨(hclocked.disconnect h.current).connect, recovering_connect⟩

theorem Base.advance (h : s.Base late) {now : Nat} (hnow : s.now ≤ now)
    (htimers : s.timers.allows late now = true) (hhealth : now ≤ s.healthDue + late) :
    ({ s with now := now } : Connection).Base late where
  known := h.known
  reconnect := h.reconnect
  session := h.session
  onTime := Timers.allows_iff.mp htimers
  healthOnTime := hhealth
  healthSoon := Nat.le_trans h.healthSoon (Nat.add_le_add_right hnow _)
  current := h.current
  live := h.live
  renewed := h.renewed
  open_ := h.open_
  heard := h.heard

theorem Recovering.advance (h : s.Recovering) {now : Nat} (hnow : s.now ≤ now) :
    ({ s with now := now } : Connection).Recovering := by
  intro hmay
  obtain hconnects | hsocket | ⟨t, ht, hcallback, hdue⟩ := h hmay
  · exact Or.inl hconnects
  · exact Or.inr (Or.inl hsocket)
  · exact Or.inr (Or.inr ⟨t, ht, hcallback, Nat.le_trans hdue (Nat.add_le_add_right hnow _)⟩)

theorem recovering_of_socket (h : s.socket = some i) : s.Recovering := by
  intro _
  exact Or.inr (Or.inl (Option.isSome_iff_exists.mpr ⟨i, h⟩))

theorem resumed_eq_some (h : s.resumed = some t) : t = { s with connects := s.connects - 1 } := by
  unfold resumed at h
  split at h
  · exact (Option.some.inj h).symm
  · cases h

theorem step_keeps {e : ConnectionEvent} (h : s.Base late ∧ s.Recovering)
    (hstep : step late s e = some t) : t.Base late ∧ t.Recovering := by
  obtain ⟨hbase, hrecovering⟩ := h
  cases e with
  | advance now =>
      obtain ⟨⟨hnow, htimers, hhealth⟩, ⟨⟩⟩ := Option.ite_none_right_eq_some.mp hstep
      exact ⟨hbase.advance hnow htimers hhealth, hrecovering.advance hnow⟩
  | elected =>
      obtain ⟨-, ⟨⟩⟩ := Option.ite_none_right_eq_some.mp hstep
      exact ⟨Base.connect { hbase with }, recovering_connect⟩
  | deposed =>
      obtain ⟨hleader, ⟨⟩⟩ := Option.ite_none_right_eq_some.mp hstep
      refine ⟨Clocked.disconnect { hbase.toClocked with } hbase.current, ?_⟩
      intro hmay
      have hredis : s.redis = true := (Bool.and_eq_true_iff.mp hleader).1
      have hmay' : (!s.redis || false) = true := by
        unfold disconnect dropSocket mayConnect at hmay
        split at hmay <;> exact hmay
      rw [hredis] at hmay'
      cases hmay'
  | authenticated =>
      obtain ⟨u, hu, rfl⟩ := Option.map_eq_some_iff.mp hstep
      obtain rfl := resumed_eq_some hu
      exact ⟨Base.openSocket { hbase with }, recovering_of_socket rfl⟩
  | refused jitter =>
      obtain ⟨u, hu, rfl⟩ := Option.map_eq_some_iff.mp hstep
      obtain rfl := resumed_eq_some hu
      exact ⟨Base.connectFails { hbase with }, recovering_scheduleReconnect⟩
  | unconstructed jitter =>
      obtain ⟨u, hu, rfl⟩ := Option.map_eq_some_iff.mp hstep
      obtain rfl := resumed_eq_some hu
      exact ⟨Base.unconstructed { hbase with }, recovering_scheduleReconnect⟩
  | opens i =>
      unfold step at hstep
      obtain ⟨x, hx, hopen, hsocket, rfl⟩ := hbase.socketEvent (by simp) hstep
      refine ⟨?_, recovering_of_socket hsocket⟩
      exact (hbase.setPhase ⟨x, hx, hopen⟩ (by decide)).onOpen hsocket
  | message i =>
      unfold step at hstep
      obtain ⟨x, hx, hopen, hsocket, rfl⟩ :=
        hbase.socketEvent (by rintro p hp rfl; cases hp) hstep
      exact ⟨(hbase.setPhase ⟨x, hx, hopen⟩ hopen).message, recovering_of_socket hsocket⟩
  | errors i =>
      unfold step at hstep
      obtain ⟨x, hx, hopen, hsocket, rfl⟩ := hbase.socketEvent (by simp) hstep
      exact ⟨hbase.setPhase ⟨x, hx, hopen⟩ (by decide), recovering_of_socket hsocket⟩
  | closes i jitter =>
      unfold step at hstep
      obtain ⟨x, -, -, hsocket, rfl⟩ := hbase.socketEvent (by simp) hstep
      exact ⟨hbase.onClose hsocket, recovering_scheduleReconnect⟩
  | fires handle =>
      simp only [step] at hstep
      split at hstep
      · cases hstep
      · rename_i x hx
        obtain ⟨-, ⟨⟩⟩ := Option.ite_none_right_eq_some.mp hstep
        have hhandle : x.handle = handle := by simpa using List.find?_some hx
        subst hhandle
        exact hbase.fires (List.mem_of_find?_eq_some hx)
  | healthTick jitter =>
      obtain ⟨-, ⟨⟩⟩ := Option.ite_none_right_eq_some.mp hstep
      refine ⟨hbase.runHealthCheck, ?_⟩
      unfold runHealthCheck
      split
      · exact recovering_scheduleReconnect
      · split
        · exact hrecovering
        · exact hrecovering
  | healthAnswer ok jitter =>
      obtain ⟨-, ⟨⟩⟩ := Option.ite_none_right_eq_some.mp hstep
      have hbase' : ({ s with healthChecks := s.healthChecks - 1 } : Connection).Base late :=
        { hbase with }
      refine ⟨hbase'.healthAnswer, ?_⟩
      unfold healthAnswer
      split
      · exact recovering_scheduleReconnect
      · exact hrecovering

theorem start_keeps (redis : Bool) : (start redis).Base late ∧ (start redis).Recovering := by
  have hclocked : (start redis).Clocked late :=
    { known := Timers.known_empty, reconnect := Timers.slot_empty, session := Timers.slot_empty
      onTime := by intro t ht; cases ht
      healthOnTime := Nat.zero_le _, healthSoon := Nat.le_add_left .. }
  refine ⟨hclocked.base ?_ rfl rfl, ?_⟩
  · rintro j ⟨x, hx, -⟩
    cases hx
  · intro hmay
    cases redis with
    | false => exact Or.inl Nat.one_pos
    | true => cases hmay

/-! ## Every run -/

theorem run_keeps {redis : Bool} {es : List ConnectionEvent}
    (h : Run (Steps (step late)) (start redis) es s) : s.Base late ∧ s.Recovering :=
  h.invariant (I := fun s => s.Base late ∧ s.Recovering) step_keeps (start_keeps redis)

/-- A socket opens, and then says nothing: the fourth health check drops it. -/
def halfDead : List ConnectionEvent :=
  [.authenticated, .opens 0, .advance 300000, .healthTick 7, .advance 600000, .healthTick 7,
    .advance 900000, .healthTick 7, .advance 1200000, .healthTick 7]

/-- The reconnection comes next. -/
def replaced : List ConnectionEvent :=
  halfDead ++ [.advance 1202007, .fires 1, .authenticated]

/-- At most one socket is live, the current one, and not for longer than a session lasts; so it
is the only one whose messages are handled. -/
theorem oneSocket {redis : Bool} {es : List ConnectionEvent}
    (h : Run (Steps (step late)) (start redis) es s) (j : Nat) (x : TraccarSocket)
    (hx : s.sockets[j]? = some x) (hopen : x.phase ≠ .closed) :
    s.socket = some j ∧ s.now ≤ x.createdAt + sessionRenewalMs + late := by
  have hbase : s.Base late := (run_keeps h).1
  obtain ⟨t, ht, -, hdue⟩ := hbase.renewed j x hx hopen
  have honTime : s.now ≤ t.due + late := hbase.onTime t ht
  exact ⟨hbase.current j ⟨x, hx, hopen⟩, by omega⟩

/-- The socket that follows the half-dead one is the current one. -/
theorem oneSocket_replaced : ∃ s, Run (Steps (step 0)) (start false) replaced s ∧
    s.sockets = [⟨.closed, 0⟩, ⟨.connecting, 1202007⟩] ∧
    s.socket = some 1 ∧ s.now ≤ 1202007 + sessionRenewalMs + 0 := by
  have hend : (replaced.foldlM (step 0) (start false)).any (fun s =>
      s.sockets = [⟨.closed, 0⟩, ⟨.connecting, 1202007⟩]) = true := by decide +kernel
  obtain ⟨s, hrun, hs⟩ := Run.of_foldlM_any hend
  have hsockets : s.sockets = [⟨.closed, 0⟩, ⟨.connecting, 1202007⟩] := of_decide_eq_true hs
  refine ⟨s, hrun, hsockets, oneSocket hrun 1 ⟨.connecting, 1202007⟩ ?_ (by decide)⟩
  rw [hsockets]
  rfl

/-- A connection that counts as open has a live socket that was heard of recently; an instance that
may connect has a login, a live socket or a reconnection under way, and one reconnection at most. -/
theorem recovers {redis : Bool} {es : List ConnectionEvent}
    (h : Run (Steps (step late)) (start redis) es s) :
    (s.connected = true → (∃ i, s.socket = some i ∧ s.Live i) ∧ ∃ m, s.lastMessageAt = some m ∧
      s.now ≤ m + TRACCAR_WS_STALE_MS + TRACCAR_HEALTH_CHECK_INTERVAL_MS + late) ∧
    (s.mayConnect = true → 0 < s.connects ∨ (∃ i, s.socket = some i ∧ s.Live i) ∨
      ∃ t ∈ s.timers.pending, t.callback = .connect ∧ t.due ≤ s.now + MAX_RECONNECT_DELAY_MS) ∧
    ∀ t ∈ s.timers.pending, ∀ t' ∈ s.timers.pending,
      t.callback = .connect → t'.callback = .connect → t = t' := by
  obtain ⟨hbase, hrecovering⟩ := run_keeps h
  have hlive : s.socket.isSome → ∃ i, s.socket = some i ∧ s.Live i := by
    intro hsome
    obtain ⟨i, hi⟩ := Option.isSome_iff_exists.mp hsome
    exact ⟨i, hi, hbase.live i hi⟩
  refine ⟨?_, ?_, ?_⟩
  · intro hconnected
    obtain ⟨m, hm, hle⟩ := hbase.heard hconnected
    have hhealth : s.now ≤ s.healthDue + late := hbase.healthOnTime
    exact ⟨hlive (hbase.open_ hconnected), m, hm, by omega⟩
  · intro hmay
    exact (hrecovering hmay).imp_right (Or.imp_left hlive)
  · intro t ht t' ht' hk hk'
    exact hbase.reconnect.unique hbase.known ht ht' hk hk'

/-- Once the half-dead socket is dropped, a reconnection is due. -/
theorem recovers_halfDead : ∃ s, Run (Steps (step 0)) (start false) halfDead s ∧
    s.connected = false ∧ s.socket = none ∧ s.connects = 0 ∧
    ∃ t ∈ s.timers.pending, t.callback = .connect ∧ t.due ≤ s.now + MAX_RECONNECT_DELAY_MS := by
  have hend : (halfDead.foldlM (step 0) (start false)).any (fun s =>
      s.mayConnect && !s.connected && s.socket = none && s.connects = 0) = true := by decide +kernel
  obtain ⟨s, hrun, hs⟩ := Run.of_foldlM_any hend
  simp only [Bool.and_eq_true, Bool.not_eq_true', decide_eq_true_eq] at hs
  obtain ⟨⟨⟨hmay, hconnected⟩, hsocket⟩, hconnects⟩ := hs
  refine ⟨s, hrun, hconnected, hsocket, hconnects, ?_⟩
  obtain hlogin | ⟨i, hi, -⟩ | hpending := (recovers hrun).2.1 hmay
  · rw [hconnects] at hlogin
    cases hlogin
  · cases hi.symm.trans hsocket
  · exact hpending

end Connection

end DeliveryTracking.Traccar
