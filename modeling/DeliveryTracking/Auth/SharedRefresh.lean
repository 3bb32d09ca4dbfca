/-
# `DeliveryTracking.Auth.SharedRefresh` — who ends a session in the browser

One `POST /auth/refresh` is under way at a time, and whoever needs a token waits
for it: the socket that was rejected, the timer of the socket, the interceptor
of an API call that was answered with 401, and the first render.  It settles as

                            token    reason
    200 with a token        t        expired
    200 without a token     null     expired
    401                     null     expired
    another status          null     network
    no answer               null     network

and the socket looks at the token only.  So a session ends although no answer was
a 401 exactly where a rejected socket waits for a refresh that brings no token,
or an API call, or the first render, for one that is answered 200 without one.  A
rejected socket that got no token is left disconnected, and no later refresh of
another caller connects it again (`Careful`, `lawful_iff`).  Where this does not
happen, and the socket is stopped only by what someone answers, a page keeps the
law for good (`heard_ends`).
-/
import DeliveryTracking.Runs
import Mathlib.Data.List.Infix

namespace DeliveryTracking.Auth

/-! ## The refresh -/

/-- What a POST of `/auth/refresh` ends with. -/
inductive PostAnswer where
  | ok (accessToken : Option String)
  /-- A status that is an error. -/
  | status (n : Nat)
  | network
  deriving DecidableEq, Repr

inductive RefreshReason where
  | network
  | expired
  deriving DecidableEq, Repr

/-- An empty token counts as none with every caller. -/
structure RefreshOutcome where
  token : Option String
  reason : RefreshReason
  deriving DecidableEq, Repr

/-- A 403 is posted again, once. -/
def lastAnswer (first second : PostAnswer) : PostAnswer :=
  if first = .status 403 then second else first

def doRefresh (first second : PostAnswer) : RefreshOutcome :=
  match lastAnswer first second with
  | .ok token => ⟨token.filter (· ≠ ""), .expired⟩
  | .status n => ⟨none, if n = 401 then .expired else .network⟩
  | .network => ⟨none, .network⟩

/-- Who waits for the refresh. -/
inductive RefreshCaller where
  /-- `handleInvalidToken`. -/
  | invalidToken
  /-- `handleRefreshTick`. -/
  | refreshTick
  /-- The interceptor of an API call. -/
  | interceptor
  /-- `AuthProvider`, when it is mounted. -/
  | mount
  /-- The socket of the notifications, which looks after itself. -/
  | notifications
  deriving DecidableEq, Repr

/-! ## The client -/

inductive SocketPhase where
  | connected
  /-- On its way, or between two attempts of its own. -/
  | connecting
  /-- It makes no attempt until `connect` is called. -/
  | stopped
  deriving DecidableEq, Repr

/-- What the handshake takes the token from. -/
inductive SocketAuth where
  | store
  | fixed (token : Option String)
  deriving DecidableEq, Repr

structure ClientSocket where
  phase : SocketPhase
  auth : SocketAuth
  /-- The token of the last handshake. -/
  handshake : Option String
  deriving DecidableEq, Repr

structure Client where
  accessToken : Option String
  socket : Option ClientSocket
  sessionExpired : Bool
  /-- When the timer of the socket fires. -/
  refreshTimer : Option Int
  /-- The refresh under way, with its callers in order. -/
  waiters : Option (List RefreshCaller)
  explicitLogin : Bool
  /-- A POST of `/auth/refresh` was answered with 401. -/
  answered401 : Bool
  deriving DecidableEq, Repr

/-- What a user, or the rest of the page, gets to see. -/
inductive ClientEffect where
  | sessionExpired
  | tokenCleared
  | toLogin
  /-- "The server is waking up", with an API call that failed. -/
  | waking
  | retried (token : String)
  deriving DecidableEq, Repr

def refreshMarginMs : Int := 60000
def refreshRetryMs : Int := 60000

/-- The server rejects the token, by the words of its message. -/
def isAuthRejection (message : String) : Bool :=
  let m := message.toList.map Char.toLower
  ["token", "jwt", "unauthorized", "revoked", "inactive"].any fun word => word.toList <:+: m

namespace ClientSocket

variable (accessToken : Option String) (sock : ClientSocket)

def token : Option String :=
  match sock.auth with
  | .store => accessToken
  | .fixed token => token

def disconnect : ClientSocket := { sock with phase := .stopped }

def connect : ClientSocket :=
  if sock.phase = .connected then sock
  else { sock with phase := .connecting, handshake := sock.token accessToken }

/-- `disconnect()`, then `connect()`. -/
def reconnect : ClientSocket := sock.disconnect.connect accessToken

end ClientSocket

namespace Client

variable (expiryMs : String → Option Int) (now : Int) (s : Client)

/-- `scheduleTokenRefresh`. -/
def scheduleTokenRefresh (retryAfterMs : Option Int) : Client :=
  let remaining := (s.accessToken.bind expiryMs).elim 0 (· - now)
  let delay := retryAfterMs.getD
    (if 0 < remaining then max 0 (remaining - refreshMarginMs) else refreshRetryMs)
  { s with refreshTimer := some (now + delay) }

/-- Wait for the refresh under way, or begin one. -/
def sharedRefresh (c : RefreshCaller) : Client :=
  { s with waiters := some (s.waiters.getD [] ++ [c]) }

/-! ### What a caller does with the outcome -/

def handleInvalidToken (token : Option String) : List ClientEffect × Client :=
  match token with
  | some token =>
    match s.socket with
    | some sock =>
      ([], { s with
        sessionExpired := false
        socket := some ({ sock with auth := .fixed (some token) }.reconnect s.accessToken)
        }.scheduleTokenRefresh expiryMs now none)
    | none => ([], { s with sessionExpired := false })
  | none =>
    ([.sessionExpired], { s with
      sessionExpired := true, socket := s.socket.map ClientSocket.disconnect })

def handleRefreshTick (refreshed : Option String) : Client :=
  match s.socket with
  | some sock =>
    if refreshed.isSome ∧ sock.phase = .connected then
      { s with socket := some (sock.reconnect s.accessToken) }.scheduleTokenRefresh expiryMs now none
    else s.scheduleTokenRefresh expiryMs now (some refreshRetryMs)
  | none => s.scheduleTokenRefresh expiryMs now (some refreshRetryMs)

def interceptor (outcome : RefreshOutcome) : List ClientEffect × Client :=
  match outcome.token with
  | some token => ([.retried token], s)
  | none =>
    match outcome.reason with
    | .network => ([.waking], s)
    | .expired => ([.tokenCleared, .toLogin], { s with accessToken := none })

/-- The first render: a login that came meanwhile is left alone. -/
def mounted (outcome : RefreshOutcome) : List ClientEffect × Client :=
  if s.explicitLogin then ([], s)
  else
    match outcome.token with
    | some token => ([], { s with accessToken := some token })
    | none =>
      match outcome.reason with
      | .network => ([], s)
      | .expired => ([.tokenCleared], { s with accessToken := none })

def settle (outcome : RefreshOutcome) : RefreshCaller → List ClientEffect × Client
  | .invalidToken => s.handleInvalidToken expiryMs now outcome.token
  | .refreshTick => ([], s.handleRefreshTick expiryMs now outcome.token)
  | .interceptor => s.interceptor outcome
  | .mount => s.mounted outcome
  | .notifications => ([], s)

/-- The callers take the outcome one after the other. -/
def settleAll (outcome : RefreshOutcome) (s : Client) :
    List RefreshCaller → List ClientEffect × Client
  | [] => ([], s)
  | c :: cs =>
    ((s.settle expiryMs now outcome c).1 ++ ((s.settle expiryMs now outcome c).2.settleAll outcome cs).1,
      ((s.settle expiryMs now outcome c).2.settleAll outcome cs).2)

end Client

/-! ## Runs -/

inductive ClientEvent where
  | getSocket (now : Int)
  | connected (now : Int)
  /-- The server rejects the socket: by a `connect_error` in its handshake, or by an `error` later. -/
  | rejected (message : String)
  /-- The connection is lost, other than by the page's own `disconnect`. -/
  | dropped (reason : String)
  | reconnectAttempt
  /-- The page is in front again, and was away for more than ten seconds or not. -/
  | foreground (away : Bool)
  | refreshTick (now : Int)
  /-- An API call is answered with 401. -/
  | unauthorized (retried isRefreshRequest isOAuthCallback hadAuthHeader : Bool)
  | mount
  | notifications
  /-- The refresh ends: its POST, and the second one after a 403. -/
  | refreshed (now : Int) (first second : PostAnswer)
  | login (token : String)
  deriving DecidableEq, Repr

namespace Client

variable (expiryMs : String → Option Int) (s : Client)

/-- The answer of a refresh is there: its token is stored, and the next one may begin. -/
def answered (first second : PostAnswer) : Client :=
  { s with
    waiters := none
    accessToken := (doRefresh first second).token <|> s.accessToken
    answered401 := s.answered401 || lastAnswer first second == PostAnswer.status 401 }

def refreshed (now : Int) (first second : PostAnswer) : List ClientEffect × Client :=
  match s.waiters with
  | none => ([], s)
  | some callers => (s.answered first second).settleAll expiryMs now (doRefresh first second) callers

def onSocket (f : ClientSocket → Client) : Client := s.socket.elim s f

def step : ClientEvent → List ClientEffect × Client
  | .getSocket now =>
    match s.socket with
    | some _ => ([], s)
    | none =>
      ([], { s with
        socket := some ⟨.connecting, .store, s.accessToken⟩
        }.scheduleTokenRefresh expiryMs now none)
  | .connected now =>
    ([], s.onSocket fun sock =>
      if sock.phase = .connecting then
        { s with
          socket := some { sock with phase := .connected } }.scheduleTokenRefresh expiryMs now none
      else s)
  | .rejected message =>
    ([], s.onSocket fun sock =>
      if sock.phase = .stopped then s
      else
        -- a socket that is rejected in its handshake makes no further attempt
        let rejected :=
          if sock.phase = .connecting then { s with socket := some sock.disconnect } else s
        if isAuthRejection message then rejected.sharedRefresh .invalidToken else rejected)
  | .dropped reason =>
    ([], s.onSocket fun sock =>
      if sock.phase = .connected then
        -- it connects again by itself, unless the server disconnected it
        let dropped := { sock with
          phase := if reason = "io server disconnect" then .stopped else .connecting }
        if (reason = "io server disconnect" ∨ reason = "transport close") ∧ s.accessToken.isSome ∧
            s.sessionExpired = false then
          { s with socket := some (dropped.connect s.accessToken) }
        else { s with socket := some dropped }
      else s)
  | .reconnectAttempt =>
    ([], s.onSocket fun sock =>
      if sock.phase = .connecting then
        { s with socket := some ⟨.connecting, .fixed s.accessToken, s.accessToken⟩ }
      else s)
  | .foreground away =>
    ([], s.onSocket fun sock =>
      if away ∨ sock.phase ≠ .connected then
        { s with socket := some (sock.reconnect s.accessToken) }
      else s)
  | .refreshTick now =>
    if s.refreshTimer.any (· ≤ now) then
      ([], { s with refreshTimer := none }.sharedRefresh .refreshTick)
    else ([], s)
  | .unauthorized retried isRefreshRequest isOAuthCallback hadAuthHeader =>
    if retried then ([], s)
    else if isRefreshRequest then
      (.tokenCleared :: (if isOAuthCallback then [] else [.toLogin]),
        { s with accessToken := none, answered401 := true })
    else if hadAuthHeader then ([], s.sharedRefresh .interceptor)
    else ([], s)
  | .mount => ([], s.sharedRefresh .mount)
  | .notifications => ([], s.sharedRefresh .notifications)
  | .refreshed now first second => s.refreshed expiryMs now first second
  | .login token =>
    ([], { s with
      accessToken := some token, explicitLogin := true, refreshTimer := none
      sessionExpired := false, socket := none })

/-- The page when it is loaded. -/
def start (stored : Option String) : Client := ⟨stored, none, false, none, none, false, false⟩

end Client

/-! ## What ends a session, and what brings the socket back -/

/-- A POST of `/auth/refresh` is answered with 401. -/
def ClientEvent.Answers401 : ClientEvent → Prop
  | .refreshed _ first second => lastAnswer first second = .status 401
  | .unauthorized _ isRefreshRequest _ _ => isRefreshRequest = true
  | _ => False

namespace Client

/-- The socket, where there is one, is connected or on its way. -/
def Restored (s : Client) : Prop :=
  ∀ sock, s.socket = some sock → sock.phase ≠ .stopped ∧ s.sessionExpired = false

/-- A refresh that someone waits for brings a token. -/
def Succeeds (s : Client) : ClientEvent → Prop
  | .refreshed _ first second => s.waiters ≠ none ∧ (doRefresh first second).token ≠ none
  | _ => False

/-- A step ends the session only on a 401, and a successful refresh brings the socket back where none
was a 401. -/
structure Lawful (expiryMs : String → Option Int) (s : Client) (e : ClientEvent) : Prop where
  ends : ∀ x ∈ (s.step expiryMs e).1, x = .sessionExpired ∨ x = .tokenCleared → e.Answers401
  restores : s.Succeeds e → s.answered401 = false → (s.step expiryMs e).2.Restored

/-- A rejected socket waits for no refresh without a token, 401 apart, and an API call or the first
render for none that is answered 200 without one; and a refresh with a token finds the socket on its
way, or rejected and waiting. -/
def Careful (s : Client) : ClientEvent → Prop
  | .refreshed _ first second => ∀ callers, s.waiters = some callers →
    match lastAnswer first second with
    | .ok token =>
      if token.filter (· ≠ "") = none then
        .invalidToken ∉ callers ∧ .interceptor ∉ callers ∧
          (.mount ∈ callers → s.explicitLogin = true)
      else s.answered401 = false → .invalidToken ∈ callers ∨ s.Restored
    | .status n => n = 401 ∨ .invalidToken ∉ callers
    | .network => .invalidToken ∉ callers
  | _ => True

end Client

/-! ## The callers of one refresh -/

namespace Client

variable {expiryMs : String → Option Int} {now : Int} {s t : Client} {outcome : RefreshOutcome}
  {callers : List RefreshCaller}

/-- What a caller shows when it has the outcome. -/
def shows (explicitLogin : Bool) (outcome : RefreshOutcome) : RefreshCaller → List ClientEffect
  | .invalidToken => if outcome.token = none then [.sessionExpired] else []
  | .interceptor =>
    match outcome.token, outcome.reason with
    | some token, _ => [.retried token]
    | none, .network => [.waking]
    | none, .expired => [.tokenCleared, .toLogin]
  | .mount =>
    if explicitLogin = false ∧ outcome.token = none ∧ outcome.reason = .expired then [.tokenCleared]
    else []
  | .refreshTick | .notifications => []

theorem settle_shows (c : RefreshCaller) :
    (s.settle expiryMs now outcome c).1 = shows s.explicitLogin outcome c := by
  obtain ⟨token, reason⟩ := outcome
  cases c with
  | invalidToken =>
    cases token with
    | none => rfl
    | some token => cases hsocket : s.socket <;> simp [settle, handleInvalidToken, hsocket, shows]
  | refreshTick => rfl
  | interceptor => cases token <;> cases reason <;> rfl
  | mount =>
    cases hlogin : s.explicitLogin <;> cases token <;> cases reason <;>
      simp [settle, mounted, hlogin, shows]
  | notifications => rfl

@[simp] theorem scheduleTokenRefresh_explicitLogin (retry : Option Int) :
    (s.scheduleTokenRefresh expiryMs now retry).explicitLogin = s.explicitLogin := rfl

@[simp] theorem scheduleTokenRefresh_socket (retry : Option Int) :
    (s.scheduleTokenRefresh expiryMs now retry).socket = s.socket := rfl

@[simp] theorem scheduleTokenRefresh_sessionExpired (retry : Option Int) :
    (s.scheduleTokenRefresh expiryMs now retry).sessionExpired = s.sessionExpired := rfl

@[simp] theorem scheduleTokenRefresh_answered401 (retry : Option Int) :
    (s.scheduleTokenRefresh expiryMs now retry).answered401 = s.answered401 := rfl

/-- What no caller of a refresh changes. -/
theorem settle_kept (c : RefreshCaller) :
    (s.settle expiryMs now outcome c).2.explicitLogin = s.explicitLogin ∧
      (s.settle expiryMs now outcome c).2.answered401 = s.answered401 := by
  obtain ⟨token, reason⟩ := outcome
  cases c with
  | invalidToken =>
    cases token with
    | none => exact ⟨rfl, rfl⟩
    | some token => cases hsocket : s.socket <;> simp [settle, handleInvalidToken, hsocket]
  | refreshTick =>
    cases hsocket : s.socket with
    | none => simp [settle, handleRefreshTick, hsocket]
    | some sock =>
      simp only [settle, handleRefreshTick, hsocket]
      split <;> exact ⟨rfl, rfl⟩
  | interceptor => cases token <;> cases reason <;> exact ⟨rfl, rfl⟩
  | mount =>
    cases hlogin : s.explicitLogin <;> cases token <;> cases reason <;>
      simp [settle, mounted, hlogin]
  | notifications => exact ⟨rfl, rfl⟩

/-- What one refresh shows: what its callers show. -/
theorem settleAll_shows : ∀ (callers : List RefreshCaller) (s : Client),
    (s.settleAll expiryMs now outcome callers).1 =
      callers.flatMap (shows s.explicitLogin outcome)
  | [], _ => rfl
  | c :: callers, s => by
      rw [settleAll, settle_shows, settleAll_shows callers, (settle_kept c).1, List.flatMap_cons]

/-- A session that ends by a refresh: a rejected socket got no token, or an API call or the first
render got none for good. -/
theorem ends_settleAll_iff :
    (∃ x ∈ (s.settleAll expiryMs now outcome callers).1, x = .sessionExpired ∨ x = .tokenCleared) ↔
      outcome.token = none ∧ (.invalidToken ∈ callers ∨ outcome.reason = .expired ∧
        (.interceptor ∈ callers ∨ .mount ∈ callers ∧ s.explicitLogin = false)) := by
  obtain ⟨token, reason⟩ := outcome
  rw [settleAll_shows]
  simp only [List.mem_flatMap]
  constructor
  · rintro ⟨x, ⟨c, hc, hx⟩, hends⟩
    cases c with
    | invalidToken =>
      cases token with
      | none => exact ⟨rfl, Or.inl hc⟩
      | some token => cases hx
    | refreshTick => cases hx
    | notifications => cases hx
    | interceptor =>
      cases token with
      | none =>
        cases reason with
        | network =>
          obtain rfl := List.mem_singleton.mp hx
          rcases hends with h | h <;> cases h
        | expired => exact ⟨rfl, Or.inr ⟨rfl, Or.inl hc⟩⟩
      | some token =>
        obtain rfl := List.mem_singleton.mp hx
        rcases hends with h | h <;> cases h
    | mount =>
      simp only [shows] at hx
      split at hx
      · rename_i hcond
        exact ⟨hcond.2.1, Or.inr ⟨hcond.2.2, Or.inr ⟨hc, hcond.1⟩⟩⟩
      · cases hx
  · rintro ⟨rfl, hinvalid | ⟨rfl, hinterceptor | ⟨hmount, hlogin⟩⟩⟩
    · exact ⟨.sessionExpired, ⟨_, hinvalid, List.mem_singleton_self _⟩, Or.inl rfl⟩
    · exact ⟨.tokenCleared, ⟨_, hinterceptor, List.mem_cons_self ..⟩, Or.inr rfl⟩
    · refine ⟨.tokenCleared, ⟨_, hmount, ?_⟩, Or.inr rfl⟩
      simp [shows, hlogin]

/-! ## The socket after a refresh with a token -/

theorem restored_of_socket_none (h : s.socket = none) : s.Restored := by
  intro sock hsock
  cases h.symm.trans hsock

theorem restored_congr (hsocket : t.socket = s.socket) (hexpired : t.sessionExpired = s.sessionExpired) :
    t.Restored ↔ s.Restored := by
  rw [Restored, Restored, hsocket, hexpired]

@[simp] theorem reconnect_phase (accessToken : Option String) (sock : ClientSocket) :
    (sock.reconnect accessToken).phase = .connecting := rfl

/-- The rejected socket is on its way again. -/
theorem restored_handleInvalidToken (token : String) :
    (s.handleInvalidToken expiryMs now (some token)).2.Restored := by
  cases hsocket : s.socket with
  | none =>
    refine restored_of_socket_none ?_
    simp [handleInvalidToken, hsocket]
  | some sock =>
    intro sock' hsock'
    simp only [handleInvalidToken, hsocket, scheduleTokenRefresh_socket, Option.some.injEq] at hsock' ⊢
    subst hsock'
    exact ⟨nofun, rfl⟩

/-- The timer connects again a socket that is connected, and no other. -/
theorem restored_handleRefreshTick_iff (token : String) :
    (s.handleRefreshTick expiryMs now (some token)).Restored ↔ s.Restored := by
  cases hsocket : s.socket with
  | none =>
    refine iff_of_true (restored_of_socket_none ?_) (restored_of_socket_none hsocket)
    simp [handleRefreshTick, hsocket]
  | some sock =>
    by_cases hconnected : sock.phase = .connected
    · have hafter : s.handleRefreshTick expiryMs now (some token) =
          { s with socket := some (sock.reconnect s.accessToken) }.scheduleTokenRefresh expiryMs now
            none := by
        simp [handleRefreshTick, hsocket, hconnected]
      rw [hafter]
      simp only [Restored, scheduleTokenRefresh_socket, scheduleTokenRefresh_sessionExpired, hsocket,
        Option.some.injEq, forall_eq', reconnect_phase, hconnected]
      simp
    · have hafter : s.handleRefreshTick expiryMs now (some token) =
          s.scheduleTokenRefresh expiryMs now (some refreshRetryMs) := by
        simp [handleRefreshTick, hsocket, hconnected]
      rw [hafter]
      exact restored_congr rfl rfl

/-- A caller that is no rejected socket leaves the socket as well as it was. -/
theorem restored_settle_iff {token : String} (htoken : outcome.token = some token)
    {c : RefreshCaller} (hc : c ≠ .invalidToken) :
    (s.settle expiryMs now outcome c).2.Restored ↔ s.Restored := by
  cases c with
  | invalidToken => exact absurd rfl hc
  | refreshTick =>
    rw [settle, htoken]
    exact restored_handleRefreshTick_iff token
  | interceptor => simp [settle, interceptor, htoken]
  | mount =>
    simp only [settle, mounted, htoken]
    split
    · rfl
    · exact restored_congr rfl rfl
  | notifications => rfl

theorem restored_settleAll_iff {token : String} (htoken : outcome.token = some token) :
    ∀ (callers : List RefreshCaller) (s : Client),
      (s.settleAll expiryMs now outcome callers).2.Restored ↔
        .invalidToken ∈ callers ∨ s.Restored
  | [], s => by simp [settleAll]
  | c :: callers, s => by
      rw [settleAll, restored_settleAll_iff htoken callers, List.mem_cons]
      by_cases hc : c = .invalidToken
      · subst hc
        refine iff_of_true (Or.inr ?_) (Or.inl (Or.inl rfl))
        rw [settle, htoken]
        exact restored_handleInvalidToken token
      · rw [restored_settle_iff htoken hc, or_assoc]
        exact ⟨Or.inr, fun h => h.resolve_left fun h => hc h.symm⟩

/-! ## One event, and a run -/

/-- The law of a refresh that callers wait for, in terms of its outcome. -/
theorem lawful_refreshed {first second : PostAnswer} {callers : List RefreshCaller}
    (hwaiters : s.waiters = some callers) :
    Lawful expiryMs s (.refreshed now first second) ↔
      ((doRefresh first second).token = none → (.invalidToken ∈ callers ∨
          (doRefresh first second).reason = .expired ∧
            (.interceptor ∈ callers ∨ .mount ∈ callers ∧ s.explicitLogin = false)) →
        lastAnswer first second = .status 401) ∧
      ((doRefresh first second).token ≠ none → s.answered401 = false →
        .invalidToken ∈ callers ∨ s.Restored) := by
  have hstep : s.step expiryMs (.refreshed now first second) =
      (s.answered first second).settleAll expiryMs now (doRefresh first second) callers := by
    simp only [step, refreshed, hwaiters]
  have hends : (∃ x ∈ ((s.answered first second).settleAll expiryMs now (doRefresh first second)
      callers).1, x = .sessionExpired ∨ x = .tokenCleared) ↔ _ := ends_settleAll_iff
  rw [← hstep] at hends
  constructor
  · intro hlaw
    refine ⟨fun hnone hcallers => ?_, fun hsome hfalse => ?_⟩
    · obtain ⟨x, hx, hend⟩ := hends.mpr ⟨hnone, hcallers⟩
      exact hlaw.ends x hx hend
    · obtain ⟨token, htoken⟩ := Option.ne_none_iff_exists'.mp hsome
      have hafter := hlaw.restores ⟨by rw [hwaiters]; nofun, hsome⟩ hfalse
      rw [hstep, restored_settleAll_iff htoken] at hafter
      exact hafter
  · rintro ⟨hend, hrestores⟩
    constructor
    · intro x hx hx'
      obtain ⟨hnone, hcallers⟩ := hends.mp ⟨x, hx, hx'⟩
      exact hend hnone hcallers
    · rintro ⟨-, hsome⟩ hfalse
      obtain ⟨token, htoken⟩ := Option.ne_none_iff_exists'.mp hsome
      rw [hstep, restored_settleAll_iff htoken]
      exact hrestores hsome hfalse

theorem lawful_refreshed_iff {first second : PostAnswer} :
    Lawful expiryMs s (.refreshed now first second) ↔ s.Careful (.refreshed now first second) := by
  cases hwaiters : s.waiters with
  | none =>
    refine iff_of_true ⟨fun x hx _ => ?_, fun h => absurd hwaiters h.1⟩ fun callers h => ?_
    · simp only [step, refreshed, hwaiters] at hx
      cases hx
    · cases hwaiters.symm.trans h
  | some callers =>
    rw [lawful_refreshed hwaiters]
    simp only [Careful, hwaiters, Option.some.injEq, forall_eq']
    cases hlast : lastAnswer first second with
    | ok token =>
      simp only [doRefresh, hlast]
      cases htoken : token.filter (· ≠ "") with
      | none =>
        cases hlogin : s.explicitLogin <;> simp [not_or]
      | some token => simp
    | status n =>
      simp only [doRefresh, hlast]
      by_cases hn : n = 401
      · simp [hn]
      · simp [hn]
    | network => simp [doRefresh, hlast]

/-- An event keeps the law exactly when it is careful. -/
theorem lawful_iff (e : ClientEvent) : Lawful expiryMs s e ↔ s.Careful e := by
  cases e with
  | refreshed now first second => exact lawful_refreshed_iff
  | unauthorized retried isRefreshRequest isOAuthCallback hadAuthHeader =>
    refine iff_of_true ⟨fun x hx _ => ?_, False.elim⟩ trivial
    cases isRefreshRequest with
    | true => rfl
    | false =>
      simp only [step, Bool.false_eq_true, if_false] at hx
      split_ifs at hx <;> cases hx
  | refreshTick now =>
    refine iff_of_true ⟨fun x hx _ => ?_, False.elim⟩ trivial
    simp only [step] at hx
    split_ifs at hx <;> cases hx
  | getSocket now =>
    refine iff_of_true ⟨fun x hx _ => ?_, False.elim⟩ trivial
    simp only [step] at hx
    split at hx <;> cases hx
  | connected | rejected | dropped | reconnectAttempt | foreground | mount | notifications | login =>
    exact iff_of_true ⟨fun x hx _ => (by cases hx), False.elim⟩ trivial

/-- Every event of a run keeps the law exactly when every event is careful. -/
theorem ends_iff {es : List ClientEvent} :
    Run (fun s e t => (s.step expiryMs e).2 = t ∧ Lawful expiryMs s e) s es t ↔
      Run (Guarded (fun s e t => (s.step expiryMs e).2 = t) Careful) s es t := by
  refine Run.each_iff_guarded (I := fun _ => True) (Q := fun s e _ => Lawful expiryMs s e) ?_ ?_ trivial
  · intros
    trivial
  · intro s e _ _ _
    exact lawful_iff e

/-- A page with a token that the server rejects, and no network. -/
def rejectedOffline : Client :=
  final (step fun _ => none) (start (some "stale"))
    [.getSocket 0, .connected 1, .rejected "Invalid token", .refreshed 2 .network .network]

/-- The timer gets a token a minute later. -/
def refreshedLater : Client :=
  final (step fun _ => none) rejectedOffline
    [.refreshTick 60001, .refreshed 60002 (.ok (some "fresh")) .network]

/-- The refresh of an API call is answered 200 without a token. -/
def answeredWithoutToken : Client :=
  final (step fun _ => none) (start (some "stale"))
    [.unauthorized false false false true, .refreshed 1 (.ok none) .network]

/-- A socket is rejected while the network is away: the session ends without a 401, and the token that
the timer gets later leaves the socket stopped.  And a refresh without a token clears the access token
of the page without a 401. -/
theorem ends_without_401 :
    rejectedOffline.sessionExpired = true ∧ rejectedOffline.answered401 = false ∧
      refreshedLater.accessToken = some "fresh" ∧ refreshedLater.answered401 = false ∧
      refreshedLater.sessionExpired = true ∧
      refreshedLater.socket.map ClientSocket.phase = some .stopped ∧
      answeredWithoutToken.accessToken = none ∧ answeredWithoutToken.answered401 = false := by
  decide +kernel

/-! ## A socket that is heard

Until a 401, only a rejection stops the socket for longer than an event, and the rejected socket
waits for the refresh. -/

/-- No refresh without a token ends a session, 401 apart; and what stops the socket is answered: the
rejection by a refresh, the disconnection by the server by a new attempt. -/
def Heard (s : Client) : ClientEvent → Prop
  | .refreshed _ first second => ∀ callers, s.waiters = some callers →
    (doRefresh first second).token = none → lastAnswer first second ≠ .status 401 →
      .invalidToken ∉ callers ∧ ((doRefresh first second).reason = .expired →
        .interceptor ∉ callers ∧ (.mount ∈ callers → s.explicitLogin = true))
  | .rejected message => isAuthRejection message = true
  | .dropped reason => reason = "io server disconnect" → s.accessToken.isSome = true
  | _ => True

/-- A rejected socket waits for the refresh under way. -/
def Waiting (s : Client) : Prop := ∃ callers, s.waiters = some callers ∧ .invalidToken ∈ callers

/-- Until a 401, the session goes on, and a socket that is stopped waits for the refresh. -/
def Live (s : Client) : Prop :=
  s.answered401 = false → s.sessionExpired = false ∧
    ∀ sock, s.socket = some sock → sock.phase = .stopped → s.Waiting

theorem live_start (stored : Option String) : (start stored).Live := by
  refine fun _ => ⟨rfl, ?_⟩
  intro sock hsock
  cases hsock

/-- The callers of a refresh only become more. -/
theorem Waiting.sharedRefresh (h : s.Waiting) (c : RefreshCaller) : (s.sharedRefresh c).Waiting := by
  obtain ⟨callers, hcallers, hmem⟩ := h
  refine ⟨callers ++ [c], ?_, List.mem_append_left _ hmem⟩
  simp [Client.sharedRefresh, hcallers]

theorem waiting_sharedRefresh : (s.sharedRefresh .invalidToken).Waiting :=
  ⟨_, rfl, List.mem_append_right _ (List.mem_singleton_self _)⟩

theorem Live.sharedRefresh (h : s.Live) (c : RefreshCaller) : (s.sharedRefresh c).Live :=
  fun hfalse => ⟨(h hfalse).1, fun sock hsock hstopped => ((h hfalse).2 sock hsock hstopped).sharedRefresh c⟩

/-- A socket that is not stopped, in a session that goes on. -/
theorem live_of_phase (hexpired : s.answered401 = false → s.sessionExpired = false)
    (hphase : ∀ sock, s.socket = some sock → sock.phase ≠ .stopped) : s.Live :=
  fun hfalse => ⟨hexpired hfalse, fun sock hsock hstopped => absurd hstopped (hphase sock hsock)⟩

theorem Live.setSocket (hs : s.Live) {sock : ClientSocket} (hphase : sock.phase ≠ .stopped) :
    { s with socket := some sock }.Live := by
  refine live_of_phase (fun hfalse => (hs hfalse).1) fun sock' hsock' => ?_
  obtain rfl := Option.some.inj hsock'
  exact hphase

/-- A move of the socket, where there is one. -/
theorem Live.onSocket {f : ClientSocket → Client} (hs : s.Live) (hf : ∀ sock, (f sock).Live) :
    (s.onSocket f).Live := by
  unfold Client.onSocket
  cases s.socket with
  | none => exact hs
  | some sock => exact hf sock

/-- A refresh without a token, that no rejected socket waits for, leaves the session and the socket. -/
theorem settle_of_token_none (htoken : outcome.token = none) {c : RefreshCaller}
    (hc : c ≠ .invalidToken) :
    (s.settle expiryMs now outcome c).2.socket = s.socket ∧
      (s.settle expiryMs now outcome c).2.sessionExpired = s.sessionExpired := by
  obtain ⟨token, reason⟩ := outcome
  obtain rfl : token = none := htoken
  cases c with
  | invalidToken => exact absurd rfl hc
  | refreshTick => cases hsocket : s.socket <;> simp [settle, handleRefreshTick, hsocket]
  | interceptor => cases reason <;> exact ⟨rfl, rfl⟩
  | mount => cases hlogin : s.explicitLogin <;> cases reason <;> simp [settle, mounted, hlogin]
  | notifications => exact ⟨rfl, rfl⟩

/-- A refresh with a token never ends the session. -/
theorem settle_sessionExpired {token : String} (htoken : outcome.token = some token)
    (c : RefreshCaller) (h : s.sessionExpired = false) :
    (s.settle expiryMs now outcome c).2.sessionExpired = false := by
  obtain ⟨_, reason⟩ := outcome
  obtain rfl := htoken
  cases c with
  | invalidToken => cases hsocket : s.socket <;> simp [settle, handleInvalidToken, hsocket]
  | refreshTick =>
    cases hsocket : s.socket with
    | none => simpa [settle, handleRefreshTick, hsocket] using h
    | some sock =>
      simp only [settle, handleRefreshTick, hsocket]
      split <;> exact h
  | interceptor => exact h
  | mount => cases hlogin : s.explicitLogin <;> simpa [settle, mounted, hlogin] using h
  | notifications => exact h

/-- What every caller keeps, the callers of a refresh keep. -/
theorem settleAll_invariant {P : Client → Prop} : ∀ (callers : List RefreshCaller) (s : Client),
    (∀ c ∈ callers, ∀ s : Client, P s → P (s.settle expiryMs now outcome c).2) → P s →
      P (s.settleAll expiryMs now outcome callers).2
  | [], _, _, hs => hs
  | c :: callers, _, hP, hs =>
      settleAll_invariant callers _ (fun c' hc' => hP c' (List.mem_cons_of_mem _ hc'))
        (hP c (List.mem_cons_self ..) _ hs)

theorem settleAll_answered401 (callers : List RefreshCaller) :
    (s.settleAll expiryMs now outcome callers).2.answered401 = s.answered401 :=
  settleAll_invariant (P := fun t => t.answered401 = s.answered401) callers s
    (fun c _ _ ht => (settle_kept c).2.trans ht) rfl

/-- A refresh that is heard leaves a socket that is stopped to nobody. -/
theorem live_refreshed {first second : PostAnswer} (hs : s.Live)
    (hheard : s.Heard (.refreshed now first second)) :
    (s.step expiryMs (.refreshed now first second)).2.Live := by
  cases hwaiters : s.waiters with
  | none =>
    have hsame : (s.step expiryMs (.refreshed now first second)).2 = s := by
      simp only [step, refreshed, hwaiters]
    rwa [hsame]
  | some callers =>
    have hstep : s.step expiryMs (.refreshed now first second) =
        (s.answered first second).settleAll expiryMs now (doRefresh first second) callers := by
      simp only [step, refreshed, hwaiters]
    rw [hstep]
    intro hfalse
    rw [settleAll_answered401] at hfalse
    obtain ⟨hbefore, hlast⟩ : s.answered401 = false ∧ lastAnswer first second ≠ .status 401 := by
      simpa [answered] using hfalse
    obtain ⟨hexpired, hstopped⟩ := hs hbefore
    cases htoken : (doRefresh first second).token with
    | none =>
      have hinvalid : .invalidToken ∉ callers := (hheard callers hwaiters htoken hlast).1
      have hkept : ((s.answered first second).settleAll expiryMs now (doRefresh first second)
            callers).2.socket = s.socket ∧
          ((s.answered first second).settleAll expiryMs now (doRefresh first second)
            callers).2.sessionExpired = s.sessionExpired := by
        refine settleAll_invariant
          (P := fun t => t.socket = s.socket ∧ t.sessionExpired = s.sessionExpired) callers _ ?_ ⟨rfl, rfl⟩
        intro c hc t ht
        have hkeeps : (t.settle expiryMs now (doRefresh first second) c).2.socket = t.socket ∧ _ :=
          settle_of_token_none htoken (ne_of_mem_of_not_mem hc hinvalid)
        exact ⟨hkeeps.1.trans ht.1, hkeeps.2.trans ht.2⟩
      refine ⟨hkept.2.trans hexpired, fun sock hsock hphase => ?_⟩
      obtain ⟨callers', hcallers', hmem⟩ := hstopped sock (hkept.1 ▸ hsock) hphase
      cases hwaiters.symm.trans hcallers'
      exact absurd hmem hinvalid
    | some token =>
      have hrestored : ((s.answered first second).settleAll expiryMs now (doRefresh first second)
          callers).2.Restored := by
        refine (restored_settleAll_iff htoken callers _).mpr (or_iff_not_imp_left.mpr fun hinvalid => ?_)
        intro sock hsock
        refine ⟨fun hphase => ?_, hexpired⟩
        obtain ⟨callers', hcallers', hmem⟩ := hstopped sock hsock hphase
        cases hwaiters.symm.trans hcallers'
        exact hinvalid hmem
      refine ⟨settleAll_invariant (P := fun t => t.sessionExpired = false) callers _
        (fun c _ _ ht => settle_sessionExpired htoken c ht) hexpired, fun sock hsock hphase => ?_⟩
      exact absurd hphase (hrestored sock hsock).1

/-- An event that is heard leaves a socket that is stopped waiting for the refresh. -/
theorem live_step (e : ClientEvent) (hs : s.Live) (hheard : s.Heard e) :
    (s.step expiryMs e).2.Live := by
  cases e with
  | refreshed now first second => exact live_refreshed hs hheard
  | getSocket now =>
    cases hsocket : s.socket with
    | some sock => simpa only [step, hsocket] using hs
    | none =>
      simp only [step, hsocket]
      exact Live.setSocket hs nofun
  | connected now =>
    refine hs.onSocket fun sock => ?_
    split
    · exact Live.setSocket hs nofun
    · exact hs
  | rejected message =>
    have hword : isAuthRejection message = true := hheard
    refine hs.onSocket fun sock => ?_
    split
    · exact hs
    · refine fun hfalse => ⟨?_, fun _ _ _ => waiting_sharedRefresh⟩
      by_cases hconnecting : sock.phase = .connecting
      · rw [if_pos hconnecting] at hfalse ⊢
        exact (hs hfalse).1
      · rw [if_neg hconnecting] at hfalse ⊢
        exact (hs hfalse).1
  | dropped reason =>
    refine hs.onSocket fun sock => ?_
    split
    · by_cases hconnect : (reason = "io server disconnect" ∨ reason = "transport close") ∧
          s.accessToken.isSome = true ∧ s.sessionExpired = false
      · rw [if_pos hconnect]
        refine hs.setSocket ?_
        by_cases hserver : reason = "io server disconnect" <;> simp [ClientSocket.connect, hserver]
      · rw [if_neg hconnect]
        intro hfalse
        refine ⟨(hs hfalse).1, fun sock' hsock' hphase => ?_⟩
        obtain rfl := Option.some.inj hsock'
        by_cases hserver : reason = "io server disconnect"
        · -- the server disconnected it, and there is a token: it is connected again
          exact absurd ⟨Or.inl hserver, hheard hserver, (hs hfalse).1⟩ hconnect
        · rw [if_neg hserver] at hphase
          cases hphase
    · exact hs
  | reconnectAttempt =>
    refine hs.onSocket fun sock => ?_
    split
    · exact hs.setSocket nofun
    · exact hs
  | foreground away =>
    refine hs.onSocket fun sock => ?_
    split
    · exact hs.setSocket nofun
    · exact hs
  | refreshTick now =>
    simp only [step]
    split
    · exact Live.sharedRefresh (s := { s with refreshTimer := none }) hs _
    · exact hs
  | unauthorized retried isRefreshRequest isOAuthCallback hadAuthHeader =>
    simp only [step]
    split_ifs
    · exact hs
    · exact fun hfalse => (by cases hfalse)
    · exact fun hfalse => (by cases hfalse)
    · exact hs.sharedRefresh _
    · exact hs
  | mount => exact hs.sharedRefresh _
  | notifications => exact hs.sharedRefresh _
  | login token => exact live_of_phase (fun _ => rfl) (fun sock hsock => by cases hsock)

/-- A heard event, where a stopped socket waits, is careful. -/
theorem careful_of_heard (hs : s.Live) {e : ClientEvent} (hheard : s.Heard e) : s.Careful e := by
  cases e with
  | refreshed now first second =>
    intro callers hwaiters
    have hnone := hheard callers hwaiters
    cases hlast : lastAnswer first second with
    | ok token =>
      cases htoken : token.filter (· ≠ "") with
      | none =>
        have houtcome : (doRefresh first second).token = none := by
          simp only [doRefresh, hlast]
          exact htoken
        obtain ⟨hinvalid, hothers⟩ := hnone houtcome (by simp [hlast])
        dsimp only
        rw [if_pos htoken]
        exact ⟨hinvalid, hothers (by simp only [doRefresh, hlast])⟩
      | some token' =>
        simp only [htoken, reduceCtorEq, if_false]
        intro hfalse
        obtain ⟨hexpired, hstopped⟩ := hs hfalse
        refine or_iff_not_imp_left.mpr fun hinvalid sock hsock => ⟨fun hphase => ?_, hexpired⟩
        obtain ⟨callers', hcallers', hmem⟩ := hstopped sock hsock hphase
        cases hwaiters.symm.trans hcallers'
        exact hinvalid hmem
    | status n =>
      refine or_iff_not_imp_left.mpr fun hn => ?_
      exact (hnone (by simp [doRefresh, hlast]) (by simpa [hlast] using hn)).1
    | network => exact (hnone (by simp [doRefresh, hlast]) (by simp [hlast])).1
  | _ => trivial

/-- A page whose events are all heard keeps the law with every event. -/
theorem heard_ends {stored : Option String} {es : List ClientEvent}
    (h : Run (Guarded (fun s e t => (s.step expiryMs e).2 = t) Heard) (start stored) es t) :
    Run (fun s e t => (s.step expiryMs e).2 = t ∧ Lawful expiryMs s e) (start stored) es t := by
  have hguarded : Run (Guarded (Guarded (fun s e t => (s.step expiryMs e).2 = t) Heard)
      (fun _ _ => True)) (start stored) es t := by
    refine h.mono ?_
    intro s e t hstep
    exact ⟨hstep, trivial⟩
  have hall : Run (fun s e t => Guarded (fun s e t => (s.step expiryMs e).2 = t) Heard s e t ∧
      Lawful expiryMs s e) (start stored) es t := by
    refine (Run.each_iff_guarded (I := Live) (Q := fun s e _ => Lawful expiryMs s e) ?_ ?_
      (live_start stored)).mpr hguarded
    · intro s e t hs hstep
      obtain rfl := hstep.1
      exact live_step e hs hstep.2
    · intro s e t hs hstep
      exact iff_of_true ((lawful_iff e).mpr (careful_of_heard hs hstep.2)) trivial
  refine hall.mono ?_
  intro s e t hstep
  exact ⟨hstep.1.1, hstep.2⟩

end Client

end DeliveryTracking.Auth
