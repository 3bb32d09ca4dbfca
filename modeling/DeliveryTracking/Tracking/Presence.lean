/-
# `DeliveryTracking.Tracking.Presence` — which drivers are announced offline

The gateway hears of sockets, and tells of drivers.  A driver can hold several:
one that reconnects opens a new socket before the old one times out.

    connection         verify, then: the driver is not disconnected any more
    a message          verify, in front of the handler
    disconnection      the driver is disconnected, and the company is told

A disconnection looks at its own socket only.  So what is told is true exactly in
the runs where the socket that closes is the last one of its driver, and no message
authenticates a socket before its connection did (`presence_always_iff`).
-/
import DeliveryTracking.Runs
import DeliveryTracking.Auth.Guards

namespace DeliveryTracking.Tracking

open Auth (AccessToken Redis Store User WsAuthCacheEntry Rejection)

/-! ## The sockets and what is told of their drivers -/

structure DriverClient where
  /-- Of the handshake. -/
  token : AccessToken
  user : Option User
  authCache : Option WsAuthCacheEntry
  connected : Bool
  /-- `handleConnection` waits for `verify`. -/
  connecting : Bool
  deriving DecidableEq, Repr

structure DriverOffline where
  driverId : String
  companyId : String
  timestamp : Nat
  /-- The other sockets of the driver that were open then; no code reads it. -/
  others : Nat
  deriving DecidableEq, Repr

structure PresenceState where
  clients : List DriverClient
  disconnectedDrivers : String → Option Nat
  driverOffline : List DriverOffline

/-- `verify` answers with what it reads while it runs. -/
inductive PresenceEvent (Hash : Type) where
  | connection (token : AccessToken)
  | handleConnection (i : Nat) (store : Store Hash) (redis : Option Redis) (now : Nat)
  | canActivate (i : Nat) (store : Store Hash) (redis : Option Redis) (now : Nat)
  | handleDisconnect (i : Nat) (now : Nat)
  | cleanup (now : Nat)

/-- A connected socket that is authenticated as the driver. -/
def DriverClient.isOpen (driverId : String) (c : DriverClient) : Bool :=
  c.connected && c.user.any fun user => user.role == "driver" && user.id == driverId

/-- The driver of a socket, if a company is told of it. -/
def DriverClient.announced (c : DriverClient) : Option User :=
  c.user.filter fun user => user.role == "driver" && user.companyId != ""

namespace PresenceState

variable {Hash : Type} (s : PresenceState)

def openSockets (driverId : String) : Nat := s.clients.countP (DriverClient.isOpen driverId)

def set (i : Nat) (c : DriverClient) : PresenceState := { s with clients := s.clients.set i c }

/-- The socket is not connected when its handler runs. -/
def handleDisconnect (i : Nat) (c : DriverClient) (now : Nat) : PresenceState :=
  let closed := s.set i { c with connected := false }
  match c.announced with
  | none => closed
  | some user =>
    { closed with
      disconnectedDrivers := Function.update s.disconnectedDrivers user.id (some now)
      driverOffline := s.driverOffline ++
        [⟨user.id, user.companyId, now, closed.openSockets user.id⟩] }

/-- `handleConnection` once `verify` has found the user. -/
def welcome (i : Nat) (c : DriverClient) (user : User) (cache : Option WsAuthCacheEntry) :
    PresenceState :=
  { s.set i { c with user := some user, authCache := cache, connecting := false } with
    disconnectedDrivers :=
      if user.role = "driver" then Function.update s.disconnectedDrivers user.id none
      else s.disconnectedDrivers }

/-- `handleConnection` once `verify` has failed: `client.disconnect()`. -/
def reject (i : Nat) (c : DriverClient) (now : Nat) : PresenceState :=
  if c.connected then s.handleDisconnect i { c with connecting := false } now
  else s.set i { c with connecting := false }

/-- The timer drops what is older than a day. -/
def cleanup (now : Nat) : PresenceState :=
  { s with
    disconnectedDrivers := fun driverId =>
      (s.disconnectedDrivers driverId).filter fun ts => !decide (ts + 86400000 < now) }

def step : PresenceEvent Hash → Option PresenceState
  | .connection token => some { s with clients := s.clients ++ [⟨token, none, none, true, true⟩] }
  | .handleConnection i store redis now =>
    match s.clients[i]? with
    | some c =>
      if c.connecting then
        match store.wsVerify redis c.authCache now c.token with
        | (.ok user, cache) => some (s.welcome i c user cache)
        | (.error _, _) => some (s.reject i c now)
      else none
    | none => none
  | .canActivate i store redis now =>
    match s.clients[i]? with
    | some c =>
      match store.wsVerify redis c.authCache now c.token with
      | (.ok user, cache) => some (s.set i { c with user := some user, authCache := cache })
      | (.error _, _) => some s
    | none => none
  | .handleDisconnect i now =>
    match s.clients[i]? with
    | some c => if c.connected then some (s.handleDisconnect i c now) else none
    | none => none
  | .cleanup now => some (s.cleanup now)

def start : PresenceState := ⟨[], fun _ => none, []⟩

/-- A driver told offline had no other socket, and who is disconnected has none. -/
structure Truthful : Prop where
  told : ∀ a ∈ s.driverOffline, a.others = 0
  disconnected : ∀ driverId, (s.disconnectedDrivers driverId).isSome → s.openSockets driverId = 0

/-- A socket that closes is the last one of the driver that is told of. -/
def lastOpen (c : DriverClient) : Bool :=
  c.announced.all fun user => decide (s.openSockets user.id ≤ 1)

/-- Sockets close last, and a message authenticates no open socket of a disconnected driver. -/
def oneByOne : PresenceEvent Hash → Bool
  | .handleConnection i store redis now => s.clients[i]?.all fun c =>
    (store.wsVerify redis c.authCache now c.token).1.isOk || !c.connected || s.lastOpen c
  | .canActivate i store redis now => s.clients[i]?.all fun c =>
    match (store.wsVerify redis c.authCache now c.token).1 with
    | .ok user =>
      !(c.connected && user.role == "driver") || (s.disconnectedDrivers user.id).isNone
    | .error _ => true
  | .handleDisconnect i _ => s.clients[i]?.all s.lastOpen
  | _ => true

def OneByOne (s : PresenceState) (e : PresenceEvent Hash) : Prop := s.oneByOne e = true

instance (e : PresenceEvent Hash) : Decidable (s.OneByOne e) :=
  inferInstanceAs (Decidable (_ = true))

/-! ## One step -/

/-- What a step does. -/
inductive Moves (s : PresenceState) : PresenceEvent Hash → PresenceState → Prop
  | connected (token : AccessToken) :
      Moves s (.connection token) { s with clients := s.clients ++ [⟨token, none, none, true, true⟩] }
  | welcomed {i : Nat} {c : DriverClient} {store : Store Hash} {redis : Option Redis} {now : Nat}
      {user : User} {cache : Option WsAuthCacheEntry} (hi : s.clients[i]? = some c)
      (hverify : store.wsVerify redis c.authCache now c.token = (.ok user, cache)) :
      Moves s (.handleConnection i store redis now) (s.welcome i c user cache)
  | rejected {i : Nat} {c : DriverClient} {store : Store Hash} {redis : Option Redis} {now : Nat}
      {r : Rejection} {cache : Option WsAuthCacheEntry} (hi : s.clients[i]? = some c)
      (hverify : store.wsVerify redis c.authCache now c.token = (.error r, cache)) :
      Moves s (.handleConnection i store redis now) (s.reject i c now)
  | activated {i : Nat} {c : DriverClient} {store : Store Hash} {redis : Option Redis} {now : Nat}
      {user : User} {cache : Option WsAuthCacheEntry} (hi : s.clients[i]? = some c)
      (hverify : store.wsVerify redis c.authCache now c.token = (.ok user, cache)) :
      Moves s (.canActivate i store redis now) (s.set i { c with user := some user, authCache := cache })
  | refused {i : Nat} {c : DriverClient} {store : Store Hash} {redis : Option Redis} {now : Nat}
      {r : Rejection} {cache : Option WsAuthCacheEntry} (hi : s.clients[i]? = some c)
      (hverify : store.wsVerify redis c.authCache now c.token = (.error r, cache)) :
      Moves s (.canActivate i store redis now) s
  | closed {i : Nat} {c : DriverClient} (now : Nat) (hi : s.clients[i]? = some c)
      (hconnected : c.connected = true) :
      Moves s (.handleDisconnect i now) (s.handleDisconnect i c now)
  | cleaned (now : Nat) : Moves s (.cleanup now) (s.cleanup now)

variable {s t : PresenceState} {e : PresenceEvent Hash}

theorem moves_of_step (h : s.step e = some t) : Moves s e t := by
  cases e with
  | connection token =>
    cases h
    exact .connected token
  | handleConnection i store redis now =>
    rw [step] at h
    split at h
    · rename_i c hi
      obtain ⟨-, h⟩ := Option.ite_none_right_eq_some.mp h
      split at h
      · rename_i user cache hverify
        cases h
        exact .welcomed hi hverify
      · rename_i r cache hverify
        cases h
        exact .rejected hi hverify
    · cases h
  | canActivate i store redis now =>
    rw [step] at h
    split at h
    · rename_i c hi
      split at h
      · rename_i user cache hverify
        cases h
        exact .activated hi hverify
      · rename_i r cache hverify
        cases h
        exact .refused hi hverify
    · cases h
  | handleDisconnect i now =>
    rw [step] at h
    split at h
    · rename_i c hi
      obtain ⟨hconnected, heq⟩ := Option.ite_none_right_eq_some.mp h
      cases heq
      exact .closed now hi hconnected
    · cases h
  | cleanup now =>
    cases h
    exact .cleaned now

/-! ### The open sockets of a driver -/

variable {i : Nat} {old c : DriverClient} {driverId : String}

theorem isOpen_closed : DriverClient.isOpen driverId { c with connected := false } = false := rfl

theorem isOpen_iff : c.isOpen driverId = true ↔
    c.connected = true ∧ ∃ user, c.user = some user ∧ user.role = "driver" ∧ user.id = driverId := by
  rw [DriverClient.isOpen, Bool.and_eq_true, Option.any_eq_true]
  refine and_congr_right fun _ => exists_congr fun user => and_congr_right fun _ => ?_
  rw [Bool.and_eq_true, beq_iff_eq, beq_iff_eq]

theorem announced_eq_some {user : User} (h : c.announced = some user) :
    c.user = some user ∧ user.role = "driver" := by
  obtain ⟨huser, hdriver⟩ := Option.filter_eq_some_iff.mp h
  rw [Bool.and_eq_true, beq_iff_eq] at hdriver
  exact ⟨huser, hdriver.1⟩

theorem openSockets_set (hi : s.clients[i]? = some old) (c : DriverClient) (driverId : String) :
    (s.set i c).openSockets driverId + (if old.isOpen driverId then 1 else 0) =
      s.openSockets driverId + if c.isOpen driverId then 1 else 0 :=
  countP_set_add c (DriverClient.isOpen driverId) hi

/-- A socket that does not open for a driver leaves it no more sockets than before. -/
theorem openSockets_set_le (hi : s.clients[i]? = some old) (hc : c.isOpen driverId = false) :
    (s.set i c).openSockets driverId ≤ s.openSockets driverId := by
  have hcount := openSockets_set hi c driverId
  rw [hc] at hcount
  simp only [Bool.false_eq_true, if_false] at hcount
  omega

/-- The socket of a driver closes: the others stay open. -/
theorem openSockets_close (hi : s.clients[i]? = some old) (hopen : old.isOpen driverId = true) :
    (s.set i { c with connected := false }).openSockets driverId + 1 = s.openSockets driverId := by
  have hcount := openSockets_set hi { c with connected := false } driverId
  rw [hopen, isOpen_closed] at hcount
  exact hcount

/-- What is told of a socket that closes is true exactly when it is the last one. -/
theorem truthful_handleDisconnect_iff (now : Nat) (c : DriverClient) (hs : s.Truthful) (hi : s.clients[i]? = some old)
    (hsame : ∀ driverId, c.isOpen driverId = old.isOpen driverId) (hconnected : c.connected = true) :
    (s.handleDisconnect i c now).Truthful ↔ s.lastOpen c = true := by
  have hfewer : ∀ driverId, (s.set i { c with connected := false }).openSockets driverId ≤
      s.openSockets driverId := fun driverId => openSockets_set_le hi isOpen_closed
  unfold handleDisconnect lastOpen
  cases hannounced : c.announced with
  | none =>
    refine iff_of_true ⟨hs.told, fun driverId hgone => ?_⟩ rfl
    exact Nat.le_zero.mp ((hfewer driverId).trans (hs.disconnected driverId hgone).le)
  | some user =>
    obtain ⟨huser, hdriver⟩ := announced_eq_some hannounced
    have hopen : old.isOpen user.id = true :=
      hsame user.id ▸ isOpen_iff.mpr ⟨hconnected, user, huser, hdriver, rfl⟩
    have hcount := openSockets_close (c := c) hi hopen
    rw [Option.all_some, decide_eq_true_eq]
    constructor
    · intro ht
      have hothers := ht.told _ (List.mem_concat_self ..)
      dsimp only at hothers
      omega
    · intro hlast
      have hnone : (s.set i { c with connected := false }).openSockets user.id = 0 := by omega
      refine ⟨forall_mem_concat hs.told hnone, fun driverId hgone => ?_⟩
      by_cases hid : driverId = user.id
      · rw [hid]
        exact hnone
      · have hold : (s.disconnectedDrivers driverId).isSome := by
          simpa [Function.update_of_ne hid] using hgone
        exact Nat.le_zero.mp ((hfewer driverId).trans (hs.disconnected driverId hold).le)

/-- A connection whose driver is found takes it out of the disconnected ones. -/
theorem truthful_welcome {user : User} {cache : Option WsAuthCacheEntry} (hs : s.Truthful)
    (hi : s.clients[i]? = some old) : (s.welcome i old user cache).Truthful := by
  refine ⟨hs.told, fun driverId hgone => ?_⟩
  have hother : ¬(user.role = "driver" ∧ user.id = driverId) := by
    rintro ⟨hdriver, rfl⟩
    simp [welcome, hdriver] at hgone
  have hold : (s.disconnectedDrivers driverId).isSome := by
    by_cases hdriver : user.role = "driver"
    · have hne : driverId ≠ user.id := fun hid => hother ⟨hdriver, hid.symm⟩
      simpa [welcome, hdriver, Function.update_of_ne hne] using hgone
    · simpa [welcome, hdriver] using hgone
  refine Nat.le_zero.mp (le_trans ?_ (hs.disconnected driverId hold).le)
  refine openSockets_set_le hi ?_
  rw [Bool.eq_false_iff]
  intro hopen
  obtain ⟨-, v, hv, hdriver, hid⟩ := isOpen_iff.mp hopen
  cases hv
  exact hother ⟨hdriver, hid⟩

/-- A message authenticates its socket: the driver has an open one, unless it is closed by now. -/
theorem truthful_canActivate_iff {user : User} {cache : Option WsAuthCacheEntry} (hs : s.Truthful)
    (hi : s.clients[i]? = some old) :
    (s.set i { old with user := some user, authCache := cache }).Truthful ↔
      (old.connected = true ∧ user.role = "driver" → s.disconnectedDrivers user.id = none) := by
  constructor
  · rintro ht ⟨hconnected, hdriver⟩
    by_contra hgone
    have hnone := ht.disconnected user.id (Option.isSome_iff_ne_none.mpr hgone)
    have hopen : DriverClient.isOpen user.id { old with user := some user, authCache := cache } =
        true := isOpen_iff.mpr ⟨hconnected, user, rfl, hdriver, rfl⟩
    exact List.countP_eq_zero.mp hnone _ (mem_set_self hi) hopen
  · intro hguard
    refine ⟨hs.told, fun driverId hgone => ?_⟩
    refine Nat.le_zero.mp (le_trans ?_ (hs.disconnected driverId hgone).le)
    refine openSockets_set_le hi ?_
    rw [Bool.eq_false_iff]
    intro hopen
    obtain ⟨hconnected, v, hv, hdriver, rfl⟩ := isOpen_iff.mp hopen
    cases hv
    have hnone : s.disconnectedDrivers user.id = none := hguard ⟨hconnected, hdriver⟩
    have hsome : (s.disconnectedDrivers user.id).isSome := hgone
    rw [hnone] at hsome
    cases hsome

theorem truthful_step_iff (hs : s.Truthful) (hmove : Moves s e t) : t.Truthful ↔ s.OneByOne e := by
  cases hmove with
  | connected token =>
    refine iff_of_true ⟨hs.told, fun driverId hgone => ?_⟩ rfl
    have hnew : DriverClient.isOpen driverId ⟨token, none, none, true, true⟩ = false := rfl
    rw [openSockets, List.countP_append, List.countP_singleton, hnew]
    exact hs.disconnected driverId hgone
  | welcomed hi hverify =>
    refine iff_of_true (truthful_welcome hs hi) ?_
    simp [OneByOne, oneByOne, hi, hverify, Except.isOk, Except.toBool]
  | @rejected i c store redis now r cache hi hverify =>
    have hguard : s.OneByOne (.handleConnection i store redis now) ↔
        (c.connected = true → s.lastOpen c = true) := by
      simp [OneByOne, oneByOne, hi, hverify, Except.isOk, Except.toBool, ← Bool.not_eq_true,
        imp_iff_not_or]
    rw [hguard]
    unfold reject
    split
    · rename_i hconnected
      have hclose := truthful_handleDisconnect_iff now { c with connecting := false } hs hi
        (fun _ => rfl) hconnected
      exact hclose.trans (imp_iff_right hconnected).symm
    · rename_i hclosed
      refine iff_of_true ⟨hs.told, fun driverId hgone => ?_⟩ fun h => absurd h hclosed
      have hcount := openSockets_set hi { c with connecting := false } driverId
      exact (Nat.add_right_cancel hcount).trans (hs.disconnected driverId hgone)
  | @activated i c store redis now user cache hi hverify =>
    have hguard : s.OneByOne (.canActivate i store redis now) ↔
        (c.connected = true ∧ user.role = "driver" → s.disconnectedDrivers user.id = none) := by
      simp only [OneByOne, oneByOne, hi, Option.all_some, hverify, Bool.or_eq_true,
        Bool.not_eq_eq_eq_not, Bool.not_true, Option.isNone_iff_eq_none, imp_iff_not_or,
        ← Bool.not_eq_true, Bool.and_eq_true, beq_iff_eq]
    rw [hguard]
    exact truthful_canActivate_iff hs hi
  | refused hi hverify =>
    refine iff_of_true hs ?_
    simp [OneByOne, oneByOne, hi, hverify]
  | @closed i c now hi hconnected =>
    have hguard : s.OneByOne (.handleDisconnect i now : PresenceEvent Hash) ↔ s.lastOpen c = true := by
      simp [OneByOne, oneByOne, hi]
    rw [hguard]
    exact truthful_handleDisconnect_iff now c hs hi (fun _ => rfl) hconnected
  | cleaned now =>
    refine iff_of_true ⟨hs.told, fun driverId hgone => hs.disconnected driverId ?_⟩ rfl
    exact Option.isSome_of_isSome_filter _ _ hgone

/-- **What is told of the drivers is true in every state of a run exactly when each socket that closes
is its driver's last one, and no message authenticates an open socket of a disconnected driver.** -/
theorem presence_always_iff {es : List (PresenceEvent Hash)}
    (hrun : Run (Steps step) start es t) :
    (∀ es₁ es₂ u, es = es₁ ++ es₂ → Run (Steps step) start es₁ u → u.Truthful) ↔
      Run (Guarded (Steps step) OneByOne) start es t := by
  refine Run.always_iff_guarded ?_ ?_ hrun ?_
  · intro s e t t' h h'
    exact Option.some.inj (h.symm.trans h')
  · intro s e t hs hstep
    exact truthful_step_iff hs (moves_of_step hstep)
  · refine ⟨fun a ha => absurd ha List.not_mem_nil, ?_⟩
    rintro driverId ⟨⟩

end PresenceState

/-! ### A driver that reconnects -/

open Auth (accessTokenFor oneAccount plainAccount plainCredentials)

def drivingAccount : Fleet.User := { plainAccount with role := .driver }

def drivingToken : AccessToken := accessTokenFor (Auth.userOf drivingAccount) "session-1" 1000000 900

def drivers : Store Unit := oneAccount Unit drivingAccount plainCredentials

/-- The old socket times out, and a new one is opened. -/
def reconnects : List (PresenceEvent Unit) :=
  [.connection drivingToken, .handleConnection 0 drivers none 1000000,
    .canActivate 0 drivers none 1003000, .handleDisconnect 0 1060000,
    .connection drivingToken, .handleConnection 1 drivers none 1065000, .cleanup 1070000]

theorem reconnects_truthful : ∃ s,
    Run (Steps PresenceState.step) .start reconnects s ∧
      (∀ es₁ es₂ u, reconnects = es₁ ++ es₂ →
        Run (Steps PresenceState.step) .start es₁ u → u.Truthful) := by
  have hsome : (reconnects.foldlM (guardStep PresenceState.step PresenceState.OneByOne)
      PresenceState.start).isSome = true := by decide +kernel
  obtain ⟨s, hs⟩ := Option.isSome_iff_exists.mp hsome
  have hguarded := Run.of_guardStep hs
  exact ⟨s, hguarded.of_guarded, (PresenceState.presence_always_iff hguarded.of_guarded).mpr hguarded⟩

/-- The new socket is opened before the old one times out. -/
def reconnectsEarly : List (PresenceEvent Unit) :=
  [.connection drivingToken, .handleConnection 0 drivers none 1000000,
    .connection drivingToken, .handleConnection 1 drivers none 1065000,
    .handleDisconnect 0 1070000]

/-- The driver is told offline, and stays disconnected, while its new socket is open. -/
theorem reconnectsEarly_offline : ∃ s, Run (Steps PresenceState.step) .start reconnectsEarly s ∧
    s.driverOffline = [⟨"user-1", "company-1", 1070000, 1⟩] ∧
      s.disconnectedDrivers "user-1" = some 1070000 ∧ s.openSockets "user-1" = 1 ∧ ¬s.Truthful := by
  have hend : (reconnectsEarly.foldlM PresenceState.step .start).any (fun s =>
      decide (s.driverOffline = [⟨"user-1", "company-1", 1070000, 1⟩] ∧
        s.disconnectedDrivers "user-1" = some 1070000 ∧ s.openSockets "user-1" = 1)) = true := by
    decide +kernel
  obtain ⟨s, hrun, hs⟩ := Run.of_foldlM_any hend
  obtain ⟨htold, hgone, hopen⟩ := of_decide_eq_true hs
  refine ⟨s, hrun, htold, hgone, hopen, fun htrue => ?_⟩
  have hnone := htrue.disconnected "user-1" (by rw [hgone]; rfl)
  omega

end DeliveryTracking.Tracking
