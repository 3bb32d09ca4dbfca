/-
# `DeliveryTracking.Tracking.Rooms` — who still receives

A socket of the tracking gateway authenticates once to connect and again for
each message it sends.  Who is not a driver joins the room of its company, and
what is broadcast to the company goes to the room: nobody is asked again.

    connect      verified in full, joins the room
    a message    verified, with a cache of ten seconds
    broadcast    every socket in the room

So a socket whose credential has ended (its token expired or revoked, its account
inactive, its company deleted) gets no room any more after ten seconds, but it
keeps the one it has.  In a run whose sockets leave by themselves in that time
nothing reaches it (`silent_after_end`).
-/
import DeliveryTracking.Runs
import DeliveryTracking.Auth.Guards

namespace DeliveryTracking.Tracking

open Auth (AccessToken Redis Store User WsAuthCacheEntry wsAuthCacheTtlMs)

/-! ## Sockets -/

structure WsSocket where
  id : String
  /-- Of the handshake. -/
  token : AccessToken
  authCache : Option WsAuthCacheEntry
  user : User
  connected : Bool
  /-- The companies whose rooms it is in. -/
  companyRooms : List String
  /-- Since when its credential has ended; no code reads it. -/
  endedAt : Option Nat
  deriving DecidableEq, Repr

/-- A company broadcast that reached a socket. -/
structure CompanyDelivery where
  socketId : String
  event : String
  time : Nat
  deriving DecidableEq, Repr

structure GatewayState (Hash : Type) where
  /-- Milliseconds. -/
  clock : Nat
  redis : Option Redis
  store : Store Hash
  sockets : Table WsSocket.id Eq
  delivered : List CompanyDelivery

/-- The client's side, the broadcasts, and the surroundings: time passes, and the tables and the
markers are written. -/
inductive GatewayEvent (Hash : Type) where
  | connect (socketId : String) (token : AccessToken)
  | message (socketId : String)
  | subscribeToCompany (socketId : String)
  | unsubscribeFromCompany (socketId : String)
  | disconnect (socketId : String)
  | broadcast (companyId event : String)
  | later (ms : Nat)
  | written (store : Store Hash) (redis : Option Redis)

/-- The credential of a token has not ended. -/
def live {Hash : Type} (store : Store Hash) (redis : Option Redis) (now : Nat) (t : AccessToken) :
    Bool :=
  t.verified now && ((Auth.assertNotRevoked redis now t).isOk && (store.activeAccount t.sub).isOk)

/-- When a credential that has ended did: at its expiry, or now. -/
def endTime (now : Nat) (t : AccessToken) : Nat :=
  if t.verified now then now else (t.exp * 1000).toNat

namespace GatewayState

variable {Hash : Type} (s : GatewayState Hash)

/-- Credentials that have ended are noted. -/
def observe : GatewayState Hash :=
  { s with
    sockets := s.sockets.update (fun w => w.endedAt.isNone && !live s.store s.redis s.clock w.token)
      (fun w => { w with endedAt := some (endTime s.clock w.token) }) fun _ => rfl }

/-- `WsJwtGuard` in front of a handler: what the handler does to the socket, with the user found. -/
def guarded (socketId : String) (handler : User → List String → List String) :
    Option (GatewayState Hash) :=
  match s.sockets.lookup socketId with
  | none => none
  | some w =>
    if w.connected = false then none
    else
      match s.store.wsVerify s.redis w.authCache s.clock w.token with
      | (.error _, _) => some s
      | (.ok user, cache) =>
        some
          { s with
            sockets := s.sockets.update (fun v => decide (v.id = socketId))
              (fun v => { v with
                authCache := cache
                user := user
                companyRooms := handler user v.companyRooms }) fun _ => rfl }

/-- The room of a user that is not a driver. -/
def roomOf (user : User) : List String :=
  if user.role = "driver" ∨ user.companyId = "" then [] else [user.companyId]

def step : GatewayEvent Hash → Option (GatewayState Hash)
  | .connect socketId token =>
    match s.store.wsVerify s.redis none s.clock token with
    | (.error _, _) => some s
    | (.ok user, cache) =>
      (s.sockets.create ⟨socketId, token, cache, user, true, roomOf user, none⟩).map fun sockets =>
        { s with sockets := sockets }
  | .message socketId => s.guarded socketId fun _ rooms => rooms
  | .subscribeToCompany socketId =>
    s.guarded socketId fun user rooms =>
      if user.role = "driver" then rooms else user.companyId :: rooms
  | .unsubscribeFromCompany socketId =>
    s.guarded socketId fun user rooms =>
      if user.role = "driver" then rooms else rooms.filter (· ≠ user.companyId)
  | .disconnect socketId =>
    some
      { s with
        sockets := s.sockets.update (fun v => decide (v.id = socketId))
          (fun v => { v with connected := false, companyRooms := [] }) fun _ => rfl }
  | .broadcast companyId event =>
    some
      { s with
        delivered := s.delivered ++
          (s.sockets.rows.filter fun w => decide (companyId ∈ w.companyRooms)).map fun w =>
            ⟨w.id, event, s.clock⟩ }
  | .later ms => some ({ s with clock := s.clock + ms }).observe
  | .written store redis => some ({ s with store := store, redis := redis }).observe

/-- A socket whose credential ended more than ten seconds ago is in no room. -/
def LeftInTime : Prop :=
  ∀ w ∈ s.sockets.rows, ∀ t, w.endedAt = some t → t + wsAuthCacheTtlMs < s.clock →
    w.companyRooms = []

/-- A credential that has ended stays so. -/
def StayEnded : Prop :=
  ∀ w ∈ s.sockets.rows, w.endedAt.isSome = true → live s.store s.redis s.clock w.token = false

/-- The surroundings leave the sockets time: when the clock moves on, each socket whose credential
ended ten seconds before has left, and no credential comes back. -/
def LeavesInTime (e : GatewayEvent Hash) : Prop :=
  (∀ ms, e = .later ms → ∀ u, s.step e = some u → u.LeftInTime ∧ u.StayEnded) ∧
    ∀ store redis, e = .written store redis → ∀ u, s.step e = some u → u.StayEnded

end GatewayState

/-! ## The check of a socket -/

section Verify

variable {Hash : Type} {store : Store Hash} {redis : Option Redis} {now : Nat} {t : AccessToken}
  {cache cache' : Option WsAuthCacheEntry} {user : User}

/-- A socket that passes has an entry of less than ten seconds, or a live credential and a new
entry. -/
theorem wsVerify_cases (h : store.wsVerify redis cache now t = (.ok user, cache')) :
    (∃ entry, cache = some entry ∧ now - entry.checkedAt < wsAuthCacheTtlMs ∧ cache' = cache) ∨
      (live store redis now t = true ∧ cache' = some ⟨user, t, now⟩) := by
  unfold Auth.Store.wsVerify at h
  split at h
  · cases h
  · rename_i hpre
    simp only [bind_eq_ok, Auth.passes_eq_ok] at hpre
    obtain ⟨_, hverified, -⟩ := hpre
    split at h
    · rename_i entry hcached
      obtain ⟨hentry, hyoung⟩ := Option.filter_eq_some_iff.mp hcached
      rw [Bool.and_eq_true, decide_eq_true_eq] at hyoung
      cases h
      exact Or.inl ⟨entry, hentry, hyoung.2, rfl⟩
    · split at h
      · cases h
      · rename_i user' hfull
        simp only [Auth.Store.wsVerifyFull, bind_eq_ok] at hfull
        obtain ⟨_, -, _, hunrevoked, account, haccount, -⟩ := hfull
        cases h
        refine Or.inr ⟨?_, rfl⟩
        rw [live, hverified, hunrevoked, haccount]
        rfl

/-- A credential that was live and has ended did so since. -/
theorem endTime_bounds {old : Nat} (hold : live store redis old t = true) (hle : old ≤ now) :
    old ≤ endTime now t ∧ endTime now t ≤ now := by
  rw [live, Bool.and_eq_true] at hold
  have hverified := of_decide_eq_true hold.1
  unfold endTime
  split
  · exact ⟨hle, Nat.le_refl _⟩
  · rename_i hexpired
    have hover := of_decide_eq_false (Bool.not_eq_true _ ▸ hexpired)
    omega

end Verify

/-! ## The invariant -/

namespace GatewayState

variable {Hash : Type} {s u : GatewayState Hash}

structure Inv (s : GatewayState Hash) : Prop where
  live : ∀ w ∈ s.sockets.rows, w.endedAt = none → live s.store s.redis s.clock w.token = true
  checked : ∀ w ∈ s.sockets.rows, ∀ entry, w.authCache = some entry → entry.checkedAt ≤ s.clock
  ended : ∀ w ∈ s.sockets.rows, ∀ t, w.endedAt = some t →
    t ≤ s.clock ∧ ∀ entry, w.authCache = some entry → entry.checkedAt ≤ t
  left : s.LeftInTime
  stay : s.StayEnded
  past : ∀ d ∈ s.delivered, d.time ≤ s.clock
  silent : ∀ d ∈ s.delivered, ∀ w ∈ s.sockets.rows, w.id = d.socketId → ∀ t, w.endedAt = some t →
    d.time ≤ t + wsAuthCacheTtlMs

/-- A socket as the surroundings leave it: it is as before, and live if it was, or its end is noted. -/
theorem mem_observe {store : Store Hash} {redis : Option Redis} {clock : Nat} {w' : WsSocket}
    (hw' : w' ∈ (observe { s with clock := clock, store := store, redis := redis }).sockets.rows) :
    ∃ w ∈ s.sockets.rows, w'.id = w.id ∧ w'.token = w.token ∧ w'.authCache = w.authCache ∧
      w'.companyRooms = w.companyRooms ∧
      ((w'.endedAt = w.endedAt ∧
          (w.endedAt = none → Tracking.live store redis clock w.token = true)) ∨
        (w.endedAt = none ∧ w'.endedAt = some (endTime clock w.token))) := by
  obtain ⟨w, hw, rfl⟩ := List.mem_map.mp hw'
  refine ⟨w, hw, ?_⟩
  split
  · rename_i hpick
    rw [Bool.and_eq_true, Option.isNone_iff_eq_none] at hpick
    exact ⟨rfl, rfl, rfl, rfl, Or.inr ⟨hpick.1, rfl⟩⟩
  · rename_i hkeep
    refine ⟨rfl, rfl, rfl, rfl, Or.inl ⟨rfl, fun hnone => ?_⟩⟩
    by_contra hdead
    exact hkeep (by simp [hnone, hdead])

/-- The surroundings change, and leave the sockets time. -/
theorem inv_observe {store : Store Hash} {redis : Option Redis} {clock : Nat} (hs : s.Inv)
    (hclock : s.clock ≤ clock)
    (hu : u = ({ s with clock := clock, store := store, redis := redis }).observe)
    (hleft : u.LeftInTime) (hstay : u.StayEnded) : u.Inv := by
  subst hu
  refine ⟨?_, ?_, ?_, hleft, hstay, fun d hd => (hs.past d hd).trans hclock, ?_⟩
  · intro w' hw' hnone
    obtain ⟨w, hw, -, htoken, -, -, ⟨hsame, hlive⟩ | ⟨-, hsome⟩⟩ := mem_observe hw'
    · rw [htoken]
      exact hlive (hsame ▸ hnone)
    · rw [hnone] at hsome
      cases hsome
  · intro w' hw' entry hentry
    obtain ⟨w, hw, -, -, hcache, -⟩ := mem_observe hw'
    exact (hs.checked w hw entry (hcache ▸ hentry)).trans hclock
  · intro w' hw' t ht
    obtain ⟨w, hw, -, -, hcache, -, ⟨hsame, -⟩ | ⟨hnone, hsome⟩⟩ := mem_observe hw'
    · obtain ⟨hle, hentries⟩ := hs.ended w hw t (hsame ▸ ht)
      exact ⟨hle.trans hclock, fun entry hentry => hentries entry (hcache ▸ hentry)⟩
    · obtain rfl : endTime clock w.token = t := Option.some.inj (hsome.symm.trans ht)
      obtain ⟨hfrom, hupto⟩ := endTime_bounds (hs.live w hw hnone) hclock
      exact ⟨hupto, fun entry hentry => (hs.checked w hw entry (hcache ▸ hentry)).trans hfrom⟩
  · intro d hd w' hw' hid t ht
    obtain ⟨w, hw, hwid, -, -, -, ⟨hsame, -⟩ | ⟨hnone, hsome⟩⟩ := mem_observe hw'
    · exact hs.silent d hd w hw (hwid.symm.trans hid) t (hsame ▸ ht)
    · obtain rfl : endTime clock w.token = t := Option.some.inj (hsome.symm.trans ht)
      obtain ⟨hfrom, -⟩ := endTime_bounds (hs.live w hw hnone) hclock
      exact (hs.past d hd).trans (hfrom.trans (Nat.le_add_right ..))

/-- A socket changes its room and its cache, and nothing else changes. -/
theorem inv_setSocket {k : String} {f : WsSocket → WsSocket} (hf : ∀ w, (f w).id = w.id)
    (hs : s.Inv)
    (hchange : ∀ w ∈ s.sockets.rows, w.id = k →
      (f w).token = w.token ∧ (f w).endedAt = w.endedAt ∧
      (∀ entry, (f w).authCache = some entry → entry.checkedAt ≤ s.clock) ∧
      ∀ t, w.endedAt = some t → (∀ entry, (f w).authCache = some entry → entry.checkedAt ≤ t) ∧
        (t + wsAuthCacheTtlMs < s.clock → (f w).companyRooms = [])) :
    ({ s with sockets := s.sockets.update (fun v => decide (v.id = k)) f hf } :
      GatewayState Hash).Inv := by
  have hrow : ∀ w' ∈ (s.sockets.update (fun v => decide (v.id = k)) f hf).rows,
      ∃ w ∈ s.sockets.rows, w'.id = w.id ∧ (w' = w ∨ (w.id = k ∧ w' = f w)) := by
    intro w' hw'
    obtain ⟨w, hw, rfl⟩ := List.mem_map.mp hw'
    refine ⟨w, hw, ?_⟩
    split
    · rename_i hpick
      exact ⟨hf w, Or.inr ⟨of_decide_eq_true hpick, rfl⟩⟩
    · exact ⟨rfl, Or.inl rfl⟩
  refine ⟨?_, ?_, ?_, ?_, ?_, hs.past, ?_⟩
  · intro w' hw' hnone
    obtain ⟨w, hw, -, rfl | ⟨hk, rfl⟩⟩ := hrow w' hw'
    · exact hs.live w' hw hnone
    · obtain ⟨htoken, hended, -⟩ := hchange w hw hk
      rw [htoken]
      exact hs.live w hw (hended ▸ hnone)
  · intro w' hw' entry hentry
    obtain ⟨w, hw, -, rfl | ⟨hk, rfl⟩⟩ := hrow w' hw'
    · exact hs.checked w' hw entry hentry
    · exact (hchange w hw hk).2.2.1 entry hentry
  · intro w' hw' t ht
    obtain ⟨w, hw, -, rfl | ⟨hk, rfl⟩⟩ := hrow w' hw'
    · exact hs.ended w' hw t ht
    · obtain ⟨-, hended, -, hlimits⟩ := hchange w hw hk
      rw [hended] at ht
      exact ⟨(hs.ended w hw t ht).1, (hlimits t ht).1⟩
  · intro w' hw' t ht hlate
    obtain ⟨w, hw, -, rfl | ⟨hk, rfl⟩⟩ := hrow w' hw'
    · exact hs.left w' hw t ht hlate
    · obtain ⟨-, hended, -, hlimits⟩ := hchange w hw hk
      rw [hended] at ht
      exact (hlimits t ht).2 hlate
  · intro w' hw' hsome
    obtain ⟨w, hw, -, rfl | ⟨hk, rfl⟩⟩ := hrow w' hw'
    · exact hs.stay w' hw hsome
    · obtain ⟨htoken, hended, -⟩ := hchange w hw hk
      rw [htoken]
      exact hs.stay w hw (hended ▸ hsome)
  · intro d hd w' hw' hid t ht
    obtain ⟨w, hw, hwid, rfl | ⟨hk, rfl⟩⟩ := hrow w' hw'
    · exact hs.silent d hd w' hw hid t ht
    · obtain ⟨-, hended, -⟩ := hchange w hw hk
      exact hs.silent d hd w hw (hwid.symm.trans hid) t (hended ▸ ht)

/-- A handler runs for a socket that passes: it is live, or its entry is from before its end. -/
theorem inv_guarded {k : String} {handler : User → List String → List String} (hs : s.Inv)
    (h : s.guarded k handler = some u) : u.Inv := by
  unfold guarded at h
  split at h
  · cases h
  · rename_i w hfound
    split at h
    · cases h
    · split at h
      · cases h
        exact hs
      · rename_i user cache hverify
        cases h
        refine inv_setSocket _ hs ?_
        intro v hv hk
        obtain ⟨hw, hwk⟩ := Table.mem_of_findFirst hfound
        obtain rfl : v = w :=
          Table.eq_of_clash (fun _ _ => Eq.symm) hv hw (hk.trans (of_decide_eq_true hwk).symm)
        refine ⟨rfl, rfl, ?_, ?_⟩
        · rcases wsVerify_cases hverify with ⟨entry, hentry, -, rfl⟩ | ⟨-, rfl⟩
          · exact hs.checked v hv
          · rintro entry ⟨rfl⟩
            exact Nat.le_refl _
        · intro t ht
          obtain ⟨hle, hentries⟩ := hs.ended v hv t ht
          rcases wsVerify_cases hverify with ⟨entry, hentry, hyoung, rfl⟩ | ⟨hlive, -⟩
          · refine ⟨hentries, fun hlate => ?_⟩
            have hold := hentries entry hentry
            omega
          · have hdead := hs.stay v hv (by rw [ht]; rfl)
            rw [hlive] at hdead
            cases hdead

/-- A new socket has passed in full. -/
theorem inv_connect {k : String} {token : AccessToken} {user : User}
    {cache : Option WsAuthCacheEntry} {sockets : Table WsSocket.id Eq} {rooms : List String}
    (hs : s.Inv) (hverify : s.store.wsVerify s.redis none s.clock token = (.ok user, cache))
    (hcreate : s.sockets.create ⟨k, token, cache, user, true, rooms, none⟩ = some sockets) :
    ({ s with sockets := sockets } : GatewayState Hash).Inv := by
  have hfull : live s.store s.redis s.clock token = true ∧ cache = some ⟨user, token, s.clock⟩ := by
    rcases wsVerify_cases hverify with ⟨entry, hentry, -⟩ | hfull
    · cases hentry
    · exact hfull
  have hrow : ∀ w ∈ sockets.rows, w ∈ s.sockets.rows ∨ w = ⟨k, token, cache, user, true, rooms, none⟩ := by
    intro w hw
    rw [Table.rows_of_create hcreate] at hw
    exact (List.mem_append.mp hw).imp_right List.mem_singleton.mp
  refine ⟨?_, ?_, ?_, ?_, ?_, hs.past, ?_⟩
  · intro w hw hnone
    rcases hrow w hw with hw | rfl
    · exact hs.live w hw hnone
    · exact hfull.1
  · intro w hw entry hentry
    rcases hrow w hw with hw | rfl
    · exact hs.checked w hw entry hentry
    · obtain rfl : _ = entry := Option.some.inj (hfull.2.symm.trans hentry)
      exact Nat.le_refl _
  · intro w hw t ht
    rcases hrow w hw with hw | rfl
    · exact hs.ended w hw t ht
    · cases ht
  · intro w hw t ht hlate
    rcases hrow w hw with hw | rfl
    · exact hs.left w hw t ht hlate
    · cases ht
  · intro w hw hsome
    rcases hrow w hw with hw | rfl
    · exact hs.stay w hw hsome
    · cases hsome
  · intro d hd w hw hid t ht
    rcases hrow w hw with hw | rfl
    · exact hs.silent d hd w hw hid t ht
    · cases ht

/-- A broadcast reaches who is in the room. -/
theorem inv_broadcast {companyId event : String} (hs : s.Inv) :
    ({ s with
      delivered := s.delivered ++
        (s.sockets.rows.filter fun w => decide (companyId ∈ w.companyRooms)).map fun w =>
          ⟨w.id, event, s.clock⟩ } : GatewayState Hash).Inv := by
  refine ⟨hs.live, hs.checked, hs.ended, hs.left, hs.stay, ?_, ?_⟩
  · intro d hd
    rcases List.mem_append.mp hd with hd | hd
    · exact hs.past d hd
    · obtain ⟨w, -, rfl⟩ := List.mem_map.mp hd
      exact Nat.le_refl _
  · intro d hd v hv hid t ht
    rcases List.mem_append.mp hd with hd | hd
    · exact hs.silent d hd v hv hid t ht
    · obtain ⟨w, hw, rfl⟩ := List.mem_map.mp hd
      obtain ⟨hw, hroom⟩ := List.mem_filter.mp hw
      obtain rfl : v = w := Table.eq_of_clash (fun _ _ => Eq.symm) hv hw hid
      by_contra hlate
      have hnone := hs.left v hv t ht (Nat.not_le.mp hlate)
      rw [hnone] at hroom
      exact absurd (of_decide_eq_true hroom) List.not_mem_nil

theorem inv_step {e : GatewayEvent Hash} (hs : s.Inv) (hguard : s.LeavesInTime e)
    (hstep : s.step e = some u) : u.Inv := by
  cases e with
  | connect k token =>
    simp only [step] at hstep
    split at hstep
    · cases hstep
      exact hs
    · rename_i user cache hverify
      obtain ⟨sockets, hcreate, rfl⟩ := Option.map_eq_some_iff.mp hstep
      exact inv_connect hs hverify hcreate
  | message k =>
    rw [step] at hstep
    exact inv_guarded hs hstep
  | subscribeToCompany k =>
    rw [step] at hstep
    exact inv_guarded hs hstep
  | unsubscribeFromCompany k =>
    rw [step] at hstep
    exact inv_guarded hs hstep
  | disconnect k =>
    cases hstep
    refine inv_setSocket _ hs ?_
    intro w hw _
    refine ⟨rfl, rfl, hs.checked w hw, fun t ht => ⟨(hs.ended w hw t ht).2, fun _ => rfl⟩⟩
  | broadcast companyId event =>
    cases hstep
    exact inv_broadcast hs
  | later ms =>
    have hnext := hguard.1 ms rfl u hstep
    cases hstep
    exact inv_observe hs (Nat.le_add_right ..) rfl hnext.1 hnext.2
  | written store redis =>
    have hstay := hguard.2 store redis rfl u hstep
    cases hstep
    refine inv_observe hs (Nat.le_refl _) rfl ?_ hstay
    -- who has just ended has ended now
    intro w' hw' t ht hlate
    obtain ⟨w, hw, -, -, -, hrooms, ⟨hsame, -⟩ | ⟨hnone, hsome⟩⟩ := mem_observe hw'
    · exact hrooms.trans (hs.left w hw t (hsame ▸ ht) hlate)
    · obtain rfl : endTime s.clock w.token = t := Option.some.inj (hsome.symm.trans ht)
      have hnow := (endTime_bounds (hs.live w hw hnone) (Nat.le_refl s.clock)).1
      have hlate' : endTime s.clock w.token + wsAuthCacheTtlMs < s.clock := hlate
      omega

/-- The gateway before anyone connects. -/
def start (clock : Nat) (redis : Option Redis) (store : Store Hash) : GatewayState Hash :=
  ⟨clock, redis, store, .empty, []⟩

theorem inv_start (clock : Nat) (redis : Option Redis) (store : Store Hash) :
    (start clock redis store).Inv := by
  have hnone : ∀ w : WsSocket, w ∉ (start clock redis store).sockets.rows := fun _ =>
    List.not_mem_nil
  exact ⟨fun w hw => absurd hw (hnone w), fun w hw => absurd hw (hnone w),
    fun w hw => absurd hw (hnone w), fun w hw => absurd hw (hnone w),
    fun w hw => absurd hw (hnone w), fun d hd => absurd hd List.not_mem_nil,
    fun d hd => absurd hd List.not_mem_nil⟩

/-- **In a run whose sockets leave in time no company broadcast reaches a socket later than ten
seconds after its credential ended.** -/
theorem silent_after_end {clock : Nat} {redis : Option Redis} {store : Store Hash}
    {es : List (GatewayEvent Hash)}
    (hrun : Run (Guarded (Steps step) LeavesInTime) (start clock redis store) es s) :
    ∀ d ∈ s.delivered, ∀ w ∈ s.sockets.rows, w.id = d.socketId → ∀ t, w.endedAt = some t →
      d.time ≤ t + wsAuthCacheTtlMs := by
  have hinv : s.Inv := by
    refine hrun.invariant (I := Inv) ?_ (inv_start clock redis store)
    intro v e w hv hnext
    exact inv_step hv hnext.2 hnext.1
  exact hinv.silent

instance (s : GatewayState Hash) : Decidable s.LeftInTime :=
  decidable_of_iff (∀ w ∈ s.sockets.rows,
      w.endedAt.all (fun t => decide (t + wsAuthCacheTtlMs < s.clock → w.companyRooms = [])) = true)
    (by
      refine forall₂_congr fun w _ => ?_
      cases w.endedAt with
      | none => simp
      | some t => simp only [Option.all_some, decide_eq_true_eq, Option.some.injEq, forall_eq'])

instance (s : GatewayState Hash) : Decidable s.StayEnded :=
  inferInstanceAs (Decidable (∀ w ∈ s.sockets.rows, w.endedAt.isSome = true → _ = false))

end GatewayState

/-! ### A session that is revoked while its socket listens -/

open Auth (accessTokenFor oneAccount plainAccount plainCredentials)

def listener : AccessToken := accessTokenFor (Auth.userOf plainAccount) "session-1" 1000000 900

/-- The session is revoked. -/
def revokedSession : Redis :=
  Function.update (fun _ => none) (.session "session-1") (some ⟨1001, 1900000⟩)

def beforeListening : GatewayState Unit :=
  .start 1000000 (some fun _ => none) (oneAccount Unit plainAccount plainCredentials)

def revokeSession : GatewayEvent Unit :=
  .written (oneAccount Unit plainAccount plainCredentials) (some revokedSession)

/-- It listens, its session is revoked, and it disconnects nine seconds later. -/
def leavesInTime : List (GatewayEvent Unit) :=
  [.connect "socket-1" listener, revokeSession, .later 9000,
    .broadcast "company-1" "positionUpdate", .disconnect "socket-1", .later 9000,
    .broadcast "company-1" "positionUpdate"]

theorem leavesInTime_silent : ∃ s,
    Run (Steps GatewayState.step) beforeListening leavesInTime s ∧ s.delivered.length = 1 ∧
      ∀ d ∈ s.delivered, ∀ w ∈ s.sockets.rows, w.id = d.socketId → ∀ t, w.endedAt = some t →
        d.time ≤ t + wsAuthCacheTtlMs := by
  have hclient : ∀ {s : GatewayState Unit} {e : GatewayEvent Unit}, (∀ ms, e ≠ .later ms) →
      (∀ store redis, e ≠ .written store redis) → s.LeavesInTime e :=
    fun hlater hwritten => ⟨fun ms he => absurd he (hlater ms),
      fun store redis he => absurd he (hwritten store redis)⟩
  obtain ⟨s, hrun, hlength⟩ : ∃ s, Run (Guarded (Steps GatewayState.step)
      GatewayState.LeavesInTime) beforeListening leavesInTime s ∧ s.delivered.length = 1 := by
    refine ⟨_, .cons ⟨rfl, hclient (fun _ h => by cases h) fun _ _ h => by cases h⟩
      (.cons ⟨rfl, ?_⟩ (.cons ⟨rfl, ?_⟩
        (.cons ⟨rfl, hclient (fun _ h => by cases h) fun _ _ h => by cases h⟩
          (.cons ⟨rfl, hclient (fun _ h => by cases h) fun _ _ h => by cases h⟩
            (.cons ⟨rfl, ?_⟩
              (.single ⟨rfl, hclient (fun _ h => by cases h) fun _ _ h => by cases h⟩)))))), ?_⟩
    · refine ⟨fun ms he => (by cases he), fun store redis he u hu => ?_⟩
      cases he
      cases hu
      decide +kernel
    · refine ⟨fun ms he u hu => ?_, fun store redis he => (by cases he)⟩
      cases he
      cases hu
      decide +kernel
    · refine ⟨fun ms he u hu => ?_, fun store redis he => (by cases he)⟩
      cases he
      cases hu
      decide +kernel
    · decide +kernel
  exact ⟨s, hrun.of_guarded, hlength, GatewayState.silent_after_end hrun⟩

/-- It only listens, and hears of the company a minute after its session was revoked. -/
def listensOn : List (GatewayEvent Unit) :=
  [.connect "socket-1" listener, revokeSession, .later 60000,
    .broadcast "company-1" "positionUpdate"]

def heardLate (s : GatewayState Unit) : Bool :=
  s.delivered.any fun d => s.sockets.rows.any fun w =>
    w.id == d.socketId && w.endedAt.any fun t => decide (t + wsAuthCacheTtlMs < d.time)

theorem listensOn_hears : ∃ s, Run (Steps GatewayState.step) beforeListening listensOn s ∧
    ∃ d ∈ s.delivered, ∃ w ∈ s.sockets.rows, w.id = d.socketId ∧ ∃ t, w.endedAt = some t ∧
      t + wsAuthCacheTtlMs < d.time := by
  have hend : (listensOn.foldlM GatewayState.step beforeListening).any heardLate = true := by
    decide +kernel
  obtain ⟨s, hrun, hs⟩ := Run.of_foldlM_any hend
  obtain ⟨d, hd, hrest⟩ := List.any_eq_true.mp hs
  obtain ⟨w, hw, hlate⟩ := List.any_eq_true.mp hrest
  rw [Bool.and_eq_true, beq_iff_eq] at hlate
  obtain ⟨t, ht, hlt⟩ := (Option.any_eq_true _ _).mp hlate.2
  exact ⟨s, hrun, d, hd, w, hw, hlate.1, t, ht, of_decide_eq_true hlt⟩

end DeliveryTracking.Tracking
