/-
# `DeliveryTracking.Traccar.Leader` — one bridge in charge

The election of `traccar-bridge.service.ts` (`tryBecomeLeader`, `startLeaderRenew`)
for any number of instances and one key in Redis.  Time is in milliseconds.  An
instance sends commands; each is executed at most once before it is answered, and
it is answered or throws at most `d` after it was sent.  The renewal timer ticks
every `LEADER_RENEW_INTERVAL_MS`; `advance` stops at a tick or at the last moment
of a command.

The key counts from the moment Redis executes `SET` or `EXPIRE`, the timer from
the moment the instance has the answer.  `Leads.bound` keeps the two together, and

    leader_safe_iff   at most one leader in every run ↔ 2 · renewal + 3 · d < TTL
-/
import DeliveryTracking.Runs
import DeliveryTracking.Lease

namespace DeliveryTracking.Traccar.Leader

def LEADER_TTL_S : Nat := 50

def LEADER_RENEW_INTERVAL_MS : Nat := 20000

/-- The lifetime of `LEADER_KEY`, in milliseconds. -/
def ttl : Nat := LEADER_TTL_S * 1000

theorem ttl_eq : ttl = 50000 := rfl

theorem renewInterval_eq : LEADER_RENEW_INTERVAL_MS = 20000 := rfl

/-- A command in flight: when it was sent, and its result once Redis has executed it. -/
inductive Sent where
  | set (sentAt : Nat) (acquired : Option Bool)
  | get (sentAt : Nat) (current : Option (Option String))
  | expire (sentAt : Nat) (executed : Bool)
  deriving DecidableEq, Repr

def Sent.sentAt : Sent → Nat
  | .set t _ | .get t _ | .expire t _ => t

/-- A `SET` that took the key and is not answered yet. -/
def Sent.elected : Sent → Bool
  | .set _ (some true) => true
  | _ => false

/-- A command of the renewal timer. -/
def Sent.renewal : Sent → Bool
  | .set _ _ => false
  | _ => true

/-- What an instance knows; `leaderRenewTimer` is its next tick. -/
structure Bridge where
  isLeader : Bool
  consecutiveRenewFailures : Nat
  leaderRenewTimer : Option Nat
  inFlight : List Sent
  deriving DecidableEq, Repr

structure Election where
  now : Nat
  key : Option (Lease String)
  bridges : String → Bridge

inductive ElectionEvent where
  | advance (t : Nat)
  | tryBecomeLeader (i : String)
  | tick (i : String)
  | execute (i : String) (c : Sent)
  | answer (i : String) (c : Sent)
  | throws (i : String) (c : Sent)
  deriving DecidableEq, Repr

namespace Bridge

def send (b : Bridge) (c : Sent) : Bridge := { b with inFlight := c :: b.inFlight }

/-- The command `c` is answered, or has thrown. -/
def done (b : Bridge) (c : Sent) : Bridge := { b with inFlight := b.inFlight.erase c }

/-- `isLeader = false; disconnect(); stopLeaderRenew()` -/
def cede (b : Bridge) : Bridge := { b with isLeader := false, leaderRenewTimer := none }

def startLeaderRenew (b : Bridge) (now : Nat) : Bridge :=
  { b with
    consecutiveRenewFailures := 0
    leaderRenewTimer := some (now + LEADER_RENEW_INTERVAL_MS) }

/-- `tryBecomeLeader`, up to its `SET LEADER_KEY id NX EX ttl` -/
def tryBecomeLeader (b : Bridge) (now : Nat) : Bridge :=
  if b.isLeader then b else b.send (.set now none)

/-- The timer's callback, up to its `GET` -/
def tick (b : Bridge) (now : Nat) : Bridge :=
  let b := { b with leaderRenewTimer := some (now + LEADER_RENEW_INTERVAL_MS) }
  if b.isLeader then b.send (.get now none) else b

/-- What the instance `i` does with the answer of a command. -/
def receive (b : Bridge) (i : String) (now : Nat) : Sent → Option Bridge
  | .set _ (some true) => some ({ b with isLeader := true }.startLeaderRenew now)
  | .set _ (some false) => some b
  | .get _ (some current) =>
      if current ≠ some i then some b.cede else some (b.send (.expire now false))
  | .expire _ true => some { b with consecutiveRenewFailures := 0 }
  | _ => none

/-- The `catch` of the renewal: the second failure in a row cedes. -/
def renewFails (b : Bridge) : Bridge :=
  let b := { b with consecutiveRenewFailures := b.consecutiveRenewFailures + 1 }
  if b.consecutiveRenewFailures ≥ 2 then b.cede else b

def catches (b : Bridge) : Sent → Bridge
  | .set _ _ => b
  | .get _ _ | .expire _ _ => b.renewFails

/-- The instance lets time pass up to `t`. -/
def allows (d : Nat) (b : Bridge) (t : Nat) : Bool :=
  b.inFlight.all (fun c => t ≤ c.sentAt + d) && b.leaderRenewTimer.all (fun T => t ≤ T)

end Bridge

/-- Redis executes a command of the instance `i`. -/
def Sent.execute (i : String) (now : Nat) (key : Option (Lease String)) :
    Sent → Option (Option (Lease String) × Sent)
  | .set t none =>
      let (acquired, key) := Lease.setNx now ttl i key
      some (key, .set t (some acquired))
  | .get t none => some (key, .get t (some (Lease.get now key)))
  | .expire t false => some (Lease.expire now ttl key, .expire t true)
  | _ => none

namespace Election

def start : Election := ⟨0, none, fun _ => ⟨false, 0, none, []⟩⟩

def setBridge (s : Election) (i : String) (b : Bridge) : Election :=
  { s with bridges := Function.update s.bridges i b }

/-- One event among `instances`, with commands that take at most `d`. -/
def step (instances : List String) (d : Nat) (s : Election) : ElectionEvent → Option Election
  | .advance t =>
      if s.now ≤ t ∧ ∀ i ∈ instances, (s.bridges i).allows d t then some { s with now := t }
      else none
  | .tryBecomeLeader i =>
      if i ∈ instances then some (s.setBridge i ((s.bridges i).tryBecomeLeader s.now)) else none
  | .tick i =>
      if i ∈ instances ∧ (s.bridges i).leaderRenewTimer = some s.now then
        some (s.setBridge i ((s.bridges i).tick s.now))
      else none
  | .execute i c =>
      if i ∈ instances ∧ c ∈ (s.bridges i).inFlight then
        (c.execute i s.now s.key).map fun (key, c') =>
          { s with key := key }.setBridge i (((s.bridges i).done c).send c')
      else none
  | .answer i c =>
      if i ∈ instances ∧ c ∈ (s.bridges i).inFlight then
        (((s.bridges i).done c).receive i s.now c).map (s.setBridge i)
      else none
  | .throws i c =>
      if i ∈ instances ∧ c ∈ (s.bridges i).inFlight then
        some (s.setBridge i (((s.bridges i).done c).catches c))
      else none

end Election

/-! ## What holds of every instance -/

/-- The number of renewal commands in flight. -/
def Bridge.renewals (b : Bridge) : Nat := b.inFlight.countP (·.renewal)

/-- The leader `i` holds the key until `exp` and its timer ticks next at `T`.  From
the last renewal there are at most two ticks to the one that cedes: `bound` counts
the failures so far and the command in flight as ticks used up. -/
structure Leads (d now : Nat) (i : String) (key : Option (Lease String)) (b : Bridge)
    (exp T : Nat) : Prop where
  holds : key = some ⟨i, exp⟩
  timer : b.leaderRenewTimer = some T
  now_le : now ≤ T
  refreshed : exp ≤ now + ttl
  tolerated : b.consecutiveRenewFailures ≤ 1
  bound : T + ttl ≤ exp + d +
    (b.consecutiveRenewFailures + 1 + b.renewals) * LEADER_RENEW_INTERVAL_MS
  get : ∀ t r, .get t r ∈ b.inFlight → t + LEADER_RENEW_INTERVAL_MS = T
  expire : ∀ t e, .expire t e ∈ b.inFlight → T ≤ t + LEADER_RENEW_INTERVAL_MS ∧
    t + LEADER_RENEW_INTERVAL_MS ≤ T + d ∧ (e = true → T + ttl ≤ exp + LEADER_RENEW_INTERVAL_MS)

structure Safe (d now : Nat) (i : String) (key : Option (Lease String)) (b : Bridge) : Prop where
  timely : ∀ c ∈ b.inFlight, c.sentAt ≤ now ∧ now ≤ c.sentAt + d
  elected : ∀ c ∈ b.inFlight, c.elected → ∃ exp, key = some ⟨i, exp⟩ ∧ c.sentAt + ttl ≤ exp ∧
    exp ≤ now + ttl
  elections : b.inFlight.countP (·.elected) + b.isLeader.toNat ≤ 1
  renewals : b.renewals ≤ b.isLeader.toNat
  leads : b.isLeader = true → ∃ exp T, Leads d now i key b exp T

/-- Commands take at most `d`, and two ticks and three commands fit in the lifetime
of the key. -/
def Fits (d : Nat) : Prop := 2 * LEADER_RENEW_INTERVAL_MS + 3 * d < ttl

section Count

variable {c : Sent} {b : Bridge}

theorem countP_done (p : Sent → Bool) (hc : c ∈ b.inFlight) :
    b.inFlight.countP p = (b.done c).inFlight.countP p + if p c then 1 else 0 := by
  rw [(List.perm_cons_erase hc).countP_eq, List.countP_cons]
  rfl

theorem mem_of_mem_done {x : Sent} (hx : x ∈ (b.done c).inFlight) : x ∈ b.inFlight :=
  List.mem_of_mem_erase hx

/-- With no renewal left, none is in flight. -/
theorem not_mem_of_renewals_eq_zero (h : b.renewals = 0) (hc : c.renewal) : c ∉ b.inFlight := by
  intro hmem
  exact List.countP_eq_zero.mp h c hmem hc

end Count

section Safe

variable {d now : Nat} {i : String} {key : Option (Lease String)} {b : Bridge} {c : Sent}

/-- A leader still holds its key: the tick that would cede comes before the end of it. -/
theorem Leads.alive {exp T : Nat} (h : Leads d now i key b exp T) (hd : Fits d)
    (htimely : ∀ c ∈ b.inFlight, c.sentAt ≤ now ∧ now ≤ c.sentAt + d)
    (hrenewals : b.renewals ≤ 1) : now < exp := by
  have hbound := h.bound
  have hnow := h.now_le
  have htolerated := h.tolerated
  simp only [Fits, ttl_eq, renewInterval_eq] at hd hbound
  rcases Nat.eq_zero_or_pos b.renewals with hzero | hpos
  · rw [hzero] at hbound
    omega
  · obtain ⟨c, hc, hrenewal⟩ := List.countP_pos_iff.mp hpos
    have htime := htimely c hc
    cases c with
    | set t r => cases hrenewal
    | get t r =>
        have ht := h.get t r hc
        simp only [Sent.sentAt, renewInterval_eq] at htime ht
        omega
    | expire t e =>
        have ht := h.expire t e hc
        simp only [Sent.sentAt, renewInterval_eq] at htime ht
        omega

/-- Who leads, or has taken the key and not heard of it, holds a live key. -/
theorem Safe.alive (h : Safe d now i key b) (hd : Fits d)
    (hclaim : b.isLeader = true ∨ ∃ c ∈ b.inFlight, c.elected) :
    ∃ exp, Lease.alive now key = some ⟨i, exp⟩ := by
  rcases hclaim with hleader | ⟨c, hc, helected⟩
  · obtain ⟨exp, T, hleads⟩ := h.leads hleader
    have hrenewals : b.renewals ≤ 1 := by simpa [hleader] using h.renewals
    exact ⟨exp, Lease.alive_eq_some_iff.mpr
      ⟨hleads.holds, hleads.alive hd h.timely hrenewals⟩⟩
  · obtain ⟨exp, hkey, hexp, -⟩ := h.elected c hc helected
    have htime := h.timely c hc
    refine ⟨exp, Lease.alive_eq_some_iff.mpr ⟨hkey, ?_⟩⟩
    simp only [Fits, ttl_eq] at hd hexp ⊢
    omega

/-- A key put off does not hurt its holder. -/
theorem Safe.put_off {l : Lease String} (h : Safe d now i (some l) b) :
    Safe d now i (some { l with expiresAt := now + ttl }) b where
  timely := h.timely
  elected := by
    intro c hc helected
    obtain ⟨exp, hkey, hexp, hle⟩ := h.elected c hc helected
    obtain rfl := Option.some.inj hkey
    exact ⟨now + ttl, rfl, by omega, Nat.le_refl _⟩
  elections := h.elections
  renewals := h.renewals
  leads := by
    intro hleader
    obtain ⟨exp, T, hleads⟩ := h.leads hleader
    obtain rfl := Option.some.inj hleads.holds
    have hle := hleads.refreshed
    have hbound := hleads.bound
    refine ⟨now + ttl, T, rfl, hleads.timer, hleads.now_le, Nat.le_refl _, hleads.tolerated,
      by omega, hleads.get, fun t e hc => ?_⟩
    obtain ⟨hge, hle', hexecuted⟩ := hleads.expire t e hc
    exact ⟨hge, hle', fun he => by have := hexecuted he; omega⟩

/-- Who neither leads nor has taken the key is safe with any key. -/
theorem Safe.any_key (h : Safe d now i key b) (hleader : b.isLeader = false)
    (helected : ∀ c ∈ b.inFlight, ¬ c.elected) (key' : Option (Lease String)) :
    Safe d now i key' b where
  timely := h.timely
  elected := fun c hc hc' => absurd hc' (helected c hc)
  elections := h.elections
  renewals := h.renewals
  leads := fun h' => by simp [hleader] at h'

/-- Time passes up to the next tick or the last moment of a command. -/
theorem Safe.advance {t : Nat} (h : Safe d now i key b) (hnow : now ≤ t) (hallows : b.allows d t) :
    Safe d t i key b := by
  simp only [Bridge.allows, Bool.and_eq_true, List.all_eq_true, decide_eq_true_eq] at hallows
  refine ⟨?_, ?_, h.elections, h.renewals, ?_⟩
  · intro c hc
    exact ⟨Nat.le_trans (h.timely c hc).1 hnow, hallows.1 c hc⟩
  · intro c hc helected
    obtain ⟨exp, hkey, hexp, hle⟩ := h.elected c hc helected
    exact ⟨exp, hkey, hexp, by omega⟩
  · intro hleader
    obtain ⟨exp, T, hleads⟩ := h.leads hleader
    have htimer : t ≤ T := by simpa [hleads.timer] using hallows.2
    have hle := hleads.refreshed
    exact ⟨exp, T, hleads.holds, hleads.timer, htimer, by omega, hleads.tolerated, hleads.bound,
      hleads.get, hleads.expire⟩

/-- The commands that are left when one is over. -/
theorem Safe.timely_done (h : Safe d now i key b) :
    ∀ x ∈ (b.done c).inFlight, x.sentAt ≤ now ∧ now ≤ x.sentAt + d := by
  intro x hx
  exact h.timely x (mem_of_mem_done hx)

theorem Safe.elected_done (h : Safe d now i key b) :
    ∀ x ∈ (b.done c).inFlight, x.elected → ∃ exp, key = some ⟨i, exp⟩ ∧ x.sentAt + ttl ≤ exp ∧
      exp ≤ now + ttl := by
  intro x hx
  exact h.elected x (mem_of_mem_done hx)

/-- A `SET` that is answered without the key, or throws, is forgotten. -/
theorem Safe.drop_set (h : Safe d now i key b) (hc : c ∈ b.inFlight) (hset : c.renewal = false) :
    Safe d now i key (b.done c) := by
  have hrenewals : (b.done c).renewals = b.renewals := by
    have hcount := countP_done (b := b) (·.renewal) hc
    rw [hset] at hcount
    exact hcount.symm
  refine ⟨h.timely_done, h.elected_done, ?_, ?_, ?_⟩
  · have hcount := countP_done (b := b) (·.elected) hc
    exact Nat.le_trans (Nat.add_le_add_right (by omega) _) h.elections
  · rw [hrenewals]
    exact h.renewals
  · intro hleader
    obtain ⟨exp, T, hleads⟩ := h.leads hleader
    refine ⟨exp, T, hleads.holds, hleads.timer, hleads.now_le, hleads.refreshed,
      hleads.tolerated, ?_, ?_, ?_⟩
    · rw [hrenewals]
      exact hleads.bound
    · intro t r hx
      exact hleads.get t r (mem_of_mem_done hx)
    · intro t e hx
      exact hleads.expire t e (mem_of_mem_done hx)

/-- A `SET` that has not taken the key. -/
theorem Safe.send_set {t : Nat} {a : Option Bool} (h : Safe d now i key b) (ht : t ≤ now)
    (hle : now ≤ t + d) (ha : a ≠ some true) : Safe d now i key (b.send (.set t a)) := by
  have helected : Sent.elected (.set t a) = false := by
    rcases a with _ | acquired
    · rfl
    · cases acquired with
      | false => rfl
      | true => exact absurd rfl ha
  have hrenewals : (b.send (.set t a)).renewals = b.renewals := rfl
  refine ⟨?_, ?_, ?_, ?_, ?_⟩
  · intro x hx
    rcases List.mem_cons.mp hx with rfl | hx
    · exact ⟨ht, hle⟩
    · exact h.timely x hx
  · intro x hx hx'
    rcases List.mem_cons.mp hx with rfl | hx
    · simp [helected] at hx'
    · exact h.elected x hx hx'
  · have hcount : (b.send (.set t a)).inFlight.countP (·.elected) =
        b.inFlight.countP (·.elected) := by
      simp [Bridge.send, helected]
    rw [hcount]
    exact h.elections
  · exact h.renewals
  · intro hleader
    obtain ⟨exp, T, hleads⟩ := h.leads hleader
    refine ⟨exp, T, hleads.holds, hleads.timer, hleads.now_le, hleads.refreshed,
      hleads.tolerated, hleads.bound, ?_, ?_⟩
    · intro t' r hx
      exact hleads.get t' r (by simpa [Bridge.send] using hx)
    · intro t' e hx
      exact hleads.expire t' e (by simpa [Bridge.send] using hx)

/-- A `SET` takes a key nobody holds. -/
theorem Safe.take {t : Nat} (h : Safe d now i key b) (ht : t ≤ now) (hle : now ≤ t + d)
    (hleader : b.isLeader = false) (helected : ∀ c ∈ b.inFlight, ¬ c.elected) :
    Safe d now i (some ⟨i, now + ttl⟩) (b.send (.set t (some true))) := by
  refine ⟨?_, ?_, ?_, ?_, ?_⟩
  · intro x hx
    rcases List.mem_cons.mp hx with rfl | hx
    · exact ⟨ht, hle⟩
    · exact h.timely x hx
  · intro x hx hx'
    rcases List.mem_cons.mp hx with rfl | hx
    · exact ⟨now + ttl, rfl, Nat.add_le_add_right ht ttl, Nat.le_refl _⟩
    · exact absurd hx' (helected x hx)
  · have hcount : (b.send (.set t (some true))).inFlight.countP (·.elected) =
        b.inFlight.countP (·.elected) + 1 := List.countP_cons_of_pos rfl
    have hzero : b.inFlight.countP (·.elected) = 0 := List.countP_eq_zero.mpr helected
    rw [hcount, hzero]
    simp [Bridge.send, hleader]
  · exact h.renewals
  · intro hleader'
    simp [Bridge.send, hleader] at hleader'

/-- Only a leader renews, one command at a time. -/
theorem Safe.renewal_leads (h : Safe d now i key b) (hc : c ∈ b.inFlight) (hrenewal : c.renewal) :
    b.isLeader = true ∧ (b.done c).renewals = 0 ∧ b.renewals = 1 := by
  have hcount := countP_done (b := b) (·.renewal) hc
  have hle := h.renewals
  simp only [hrenewal, if_true] at hcount
  simp only [Bridge.renewals] at hle ⊢
  cases hleader : b.isLeader with
  | false =>
      simp only [hleader, Bool.toNat_false] at hle
      omega
  | true =>
      simp only [hleader, Bool.toNat_true] at hle
      exact ⟨rfl, by omega, by omega⟩

/-- The renewal command of a leader changes to `c'`. -/
theorem Safe.renew {c' : Sent} (h : Safe d now i key b) (hc : c ∈ b.inFlight)
    (hrenewal : c.renewal) (hrenewal' : c'.renewal) (ht : c'.sentAt ≤ now)
    (hle : now ≤ c'.sentAt + d)
    (hget : ∀ exp T, Leads d now i key b exp T → ∀ t r, c' = .get t r →
      t + LEADER_RENEW_INTERVAL_MS = T)
    (hexpire : ∀ exp T, Leads d now i key b exp T → ∀ t e, c' = .expire t e →
      T ≤ t + LEADER_RENEW_INTERVAL_MS ∧ t + LEADER_RENEW_INTERVAL_MS ≤ T + d ∧
        (e = true → T + ttl ≤ exp + LEADER_RENEW_INTERVAL_MS)) :
    Safe d now i key ((b.done c).send c') := by
  obtain ⟨hleader, hzero, hone⟩ := h.renewal_leads hc hrenewal
  have helected : c'.elected = false := by
    cases c' with
    | set t a => cases hrenewal'
    | get t r => rfl
    | expire t e => rfl
  have hrenewals : ((b.done c).send c').renewals = 1 := by
    simp only [Bridge.renewals] at hzero
    simp [Bridge.send, Bridge.renewals, hrenewal', hzero]
  refine ⟨?_, ?_, ?_, ?_, ?_⟩
  · intro x hx
    rcases List.mem_cons.mp hx with rfl | hx
    · exact ⟨ht, hle⟩
    · exact h.timely x (mem_of_mem_done hx)
  · intro x hx hx'
    rcases List.mem_cons.mp hx with rfl | hx
    · simp [helected] at hx'
    · exact h.elected x (mem_of_mem_done hx) hx'
  · have hcount := countP_done (b := b) (·.elected) hc
    have hold := h.elections
    have hnew : ((b.done c).send c').inFlight.countP (·.elected) =
        (b.done c).inFlight.countP (·.elected) := by
      simp [Bridge.send, helected]
    rw [hnew]
    exact Nat.le_trans (Nat.add_le_add_right (by omega) _) hold
  · rw [hrenewals]
    simp [Bridge.send, Bridge.done, hleader]
  · intro _
    obtain ⟨exp, T, hleads⟩ := h.leads hleader
    refine ⟨exp, T, hleads.holds, hleads.timer, hleads.now_le, hleads.refreshed,
      hleads.tolerated, ?_, ?_, ?_⟩
    · have hbound := hleads.bound
      rw [hone] at hbound
      rw [hrenewals]
      exact hbound
    · intro t r hx
      rcases List.mem_cons.mp hx with hx | hx
      · exact hget exp T hleads t r hx.symm
      · exact absurd hx (not_mem_of_renewals_eq_zero hzero rfl)
    · intro t e hx
      rcases List.mem_cons.mp hx with hx | hx
      · exact hexpire exp T hleads t e hx.symm
      · exact absurd hx (not_mem_of_renewals_eq_zero hzero rfl)

/-- The renewal command of a leader is over, and the leader goes on with `n`
failures. -/
theorem Safe.renewed {n : Nat} (h : Safe d now i key b) (hc : c ∈ b.inFlight)
    (hrenewal : c.renewal) (hn : n ≤ 1)
    (hbound : ∀ exp T, Leads d now i key b exp T →
      T + ttl ≤ exp + d + (n + 1) * LEADER_RENEW_INTERVAL_MS) :
    Safe d now i key { b.done c with consecutiveRenewFailures := n } := by
  obtain ⟨hleader, hzero, -⟩ := h.renewal_leads hc hrenewal
  refine ⟨h.timely_done, h.elected_done, ?_, ?_, ?_⟩
  · have hcount := countP_done (b := b) (·.elected) hc
    exact Nat.le_trans (Nat.add_le_add_right (by simp only; omega) _) h.elections
  · exact Nat.le_trans (Nat.le_of_eq hzero) (Nat.zero_le _)
  · intro _
    obtain ⟨exp, T, hleads⟩ := h.leads hleader
    refine ⟨exp, T, hleads.holds, hleads.timer, hleads.now_le, hleads.refreshed, hn, ?_, ?_, ?_⟩
    · have hnone : Bridge.renewals { b.done c with consecutiveRenewFailures := n } = 0 := hzero
      rw [hnone]
      exact hbound exp T hleads
    · intro t r hx
      exact absurd hx (not_mem_of_renewals_eq_zero hzero rfl)
    · intro t e hx
      exact absurd hx (not_mem_of_renewals_eq_zero hzero rfl)

/-- The renewal command of a leader is over, and the leader cedes. -/
theorem Safe.cede {n : Nat} (h : Safe d now i key b) (hc : c ∈ b.inFlight)
    (hrenewal : c.renewal) :
    Safe d now i key { b.done c with consecutiveRenewFailures := n }.cede := by
  obtain ⟨hleader, hzero, -⟩ := h.renewal_leads hc hrenewal
  refine ⟨h.timely_done, h.elected_done, ?_, ?_, ?_⟩
  · have hcount := countP_done (b := b) (·.elected) hc
    have hold := h.elections
    exact Nat.le_trans (Nat.add_le_add (by simp only [Bridge.cede]; omega) (Nat.zero_le _)) hold
  · exact Nat.le_trans (Nat.le_of_eq hzero) (Nat.zero_le _)
  · intro hleader'
    cases hleader'

/-- The `SET` that took the key is answered: the instance leads, and its first tick
comes at most one command after the start of the key. -/
theorem Safe.lead {t : Nat} (h : Safe d now i key b) (hc : .set t (some true) ∈ b.inFlight) :
    Safe d now i key
      ({ b.done (.set t (some true)) with isLeader := true }.startLeaderRenew now) := by
  have helected : b.inFlight.countP (·.elected) =
      (b.done (.set t (some true))).inFlight.countP (·.elected) + 1 := countP_done _ hc
  have hrenewal : b.renewals = (b.done (.set t (some true))).renewals := countP_done _ hc
  have helections := h.elections
  have hle := h.renewals
  have hzero : (b.done (.set t (some true))).renewals = 0 := by omega
  have hnone : (b.done (.set t (some true))).inFlight.countP (·.elected) = 0 := by omega
  refine ⟨h.timely_done, h.elected_done, ?_, ?_, ?_⟩
  · exact Nat.le_of_eq (congrArg (· + 1) hnone)
  · exact Nat.le_trans (Nat.le_of_eq hzero) (Nat.zero_le _)
  · intro _
    obtain ⟨exp, hkey, hexp, hle⟩ := h.elected _ hc rfl
    have htime := h.timely _ hc
    refine ⟨exp, now + LEADER_RENEW_INTERVAL_MS, hkey, rfl, Nat.le_add_right _ _, hle,
      Nat.zero_le _, ?_, ?_, ?_⟩
    · have hrenewals : Bridge.renewals ({ b.done (.set t (some true)) with
          isLeader := true }.startLeaderRenew now) = 0 := hzero
      simp only [Sent.sentAt] at hexp htime
      rw [hrenewals]
      simp only [Bridge.startLeaderRenew]
      omega
    · intro t' r hx
      exact absurd hx (not_mem_of_renewals_eq_zero hzero rfl)
    · intro t' e hx
      exact absurd hx (not_mem_of_renewals_eq_zero hzero rfl)

/-- At a tick the last renewal is over. -/
theorem Leads.renewals_eq_zero {exp : Nat} (h : Leads d now i key b exp now) (hd : Fits d)
    (htimely : ∀ c ∈ b.inFlight, c.sentAt ≤ now ∧ now ≤ c.sentAt + d) : b.renewals = 0 := by
  refine List.countP_eq_zero.mpr fun c hc hrenewal => ?_
  have htime := htimely c hc
  simp only [Fits, ttl_eq, renewInterval_eq] at hd
  cases c with
  | set t r => cases hrenewal
  | get t r =>
      have ht := h.get t r hc
      simp only [Sent.sentAt, renewInterval_eq] at htime ht
      omega
  | expire t e =>
      have ht := h.expire t e hc
      simp only [Sent.sentAt, renewInterval_eq] at htime ht
      omega

theorem Safe.tick (h : Safe d now i key b) (hd : Fits d) (htimer : b.leaderRenewTimer = some now) :
    Safe d now i key (b.tick now) := by
  cases hleader : b.isLeader with
  | false =>
      simp only [Bridge.tick, hleader, Bool.false_eq_true, if_false]
      refine ⟨h.timely, h.elected, by simpa [hleader] using h.elections, ?_, ?_⟩
      · exact Nat.le_trans h.renewals (by simp [hleader])
      · intro hleader'
        simp at hleader'
  | true =>
      obtain ⟨exp, T, hleads⟩ := h.leads hleader
      obtain rfl : now = T := Option.some.inj (htimer.symm.trans hleads.timer)
      have hzero := hleads.renewals_eq_zero hd h.timely
      have htick : b.tick now = { b with
          leaderRenewTimer := some (now + LEADER_RENEW_INTERVAL_MS) }.send (.get now none) :=
        if_pos hleader
      have hone : (b.tick now).renewals = 1 := by
        rw [htick]
        exact (List.countP_cons_of_pos rfl).trans (congrArg (· + 1) hzero)
      refine ⟨?_, ?_, ?_, ?_, ?_⟩
      · intro x hx
        rw [htick] at hx
        rcases List.mem_cons.mp hx with rfl | hx
        · exact ⟨Nat.le_refl _, Nat.le_add_right _ _⟩
        · exact h.timely x hx
      · intro x hx hx'
        rw [htick] at hx
        rcases List.mem_cons.mp hx with rfl | hx
        · cases hx'
        · exact h.elected x hx hx'
      · rw [htick]
        simpa [Bridge.send, Sent.elected] using h.elections
      · rw [hone, htick]
        simp [Bridge.send, hleader]
      · intro _
        refine ⟨exp, now + LEADER_RENEW_INTERVAL_MS, hleads.holds, ?_, Nat.le_add_right _ _,
          hleads.refreshed, ?_, ?_, ?_, ?_⟩
        · rw [htick]
          rfl
        · rw [htick]
          exact hleads.tolerated
        · have hbound := hleads.bound
          rw [hzero] at hbound
          rw [hone, htick]
          simp only [Bridge.send, renewInterval_eq] at hbound ⊢
          omega
        · intro t r hx
          rw [htick] at hx
          rcases List.mem_cons.mp hx with hx | hx
          · cases hx
            rfl
          · exact absurd hx (not_mem_of_renewals_eq_zero hzero rfl)
        · intro t e hx
          rw [htick] at hx
          rcases List.mem_cons.mp hx with hx | hx
          · cases hx
          · exact absurd hx (not_mem_of_renewals_eq_zero hzero rfl)

/-- The second failure in a row cedes; the first one uses up a tick. -/
theorem Safe.renewFails (h : Safe d now i key b) (hc : c ∈ b.inFlight) (hrenewal : c.renewal) :
    Safe d now i key (b.done c).renewFails := by
  obtain ⟨-, -, hone⟩ := h.renewal_leads hc hrenewal
  simp only [Bridge.renewFails]
  split
  · exact h.cede hc hrenewal
  · rename_i hfailures
    refine h.renewed hc hrenewal (by omega) fun exp T hleads => ?_
    have hbound := hleads.bound
    rw [hone] at hbound
    exact hbound

theorem Safe.catches (h : Safe d now i key b) (hc : c ∈ b.inFlight) :
    Safe d now i key ((b.done c).catches c) := by
  cases c with
  | set t a => exact h.drop_set hc rfl
  | get t r => exact h.renewFails hc rfl
  | expire t e => exact h.renewFails hc rfl

theorem Safe.receive {b' : Bridge} (h : Safe d now i key b) (hc : c ∈ b.inFlight)
    (hb' : (b.done c).receive i now c = some b') : Safe d now i key b' := by
  have htime := h.timely c hc
  cases c with
  | set t a =>
      rcases a with _ | acquired
      · cases hb'
      · cases acquired with
        | true =>
            obtain rfl := Option.some.inj hb'
            exact h.lead hc
        | false =>
            obtain rfl := Option.some.inj hb'
            exact h.drop_set hc rfl
  | get t r =>
      rcases r with _ | current
      · cases hb'
      · simp only [Bridge.receive] at hb'
        split at hb'
        · obtain rfl := Option.some.inj hb'
          exact h.cede (n := (b.done (.get t (some current))).consecutiveRenewFailures) hc rfl
        · obtain rfl := Option.some.inj hb'
          refine h.renew hc rfl rfl (Nat.le_refl _) (Nat.le_add_right _ _) ?_ ?_
          · rintro _ _ _ _ _ ⟨⟩
          · rintro exp T hleads _ _ ⟨⟩
            have ht := hleads.get _ _ hc
            simp only [Sent.sentAt] at htime
            exact ⟨by omega, by omega, nofun⟩
  | expire t e =>
      cases e with
      | false => cases hb'
      | true =>
          obtain rfl := Option.some.inj hb'
          refine h.renewed hc rfl (Nat.zero_le _) fun exp T hleads => ?_
          have hexecuted := (hleads.expire _ _ hc).2.2 rfl
          omega

end Safe

/-! ## The election -/

namespace Election

variable {instances : List String} {d : Nat} {s t : Election}

/-- Every instance is safe. -/
def Inv (instances : List String) (d : Nat) (s : Election) : Prop :=
  ∀ i ∈ instances, Safe d s.now i s.key (s.bridges i)

theorem inv_start : Inv instances d start := by
  intro i _
  refine ⟨?_, ?_, Nat.zero_le _, Nat.le_refl _, ?_⟩
  · intro c hc; cases hc
  · intro c hc; cases hc
  · intro hleader; cases hleader

/-- One instance changes and the key is what every instance can live with. -/
theorem Inv.set {i : String} {key : Option (Lease String)} {b : Bridge}
    (hb : Safe d s.now i key b)
    (hother : ∀ j ∈ instances, j ≠ i → Safe d s.now j key (s.bridges j)) :
    Inv instances d ({ s with key := key }.setBridge i b) := by
  intro j hj
  by_cases hji : j = i
  · subst hji; simpa [setBridge] using hb
  · simpa [setBridge, hji] using hother j hj hji

theorem Inv.setBridge {i : String} {b : Bridge} (hs : Inv instances d s)
    (hb : Safe d s.now i s.key b) : Inv instances d (s.setBridge i b) := by
  have h := Inv.set hb fun j hj _ => hs j hj
  exact h

/-- A key that is gone belongs to nobody. -/
theorem Inv.nobody (hs : Inv instances d s) (hd : Fits d) {i : String} (hi : i ∈ instances)
    (hdead : Lease.alive s.now s.key = none) :
    (s.bridges i).isLeader = false ∧ ∀ c ∈ (s.bridges i).inFlight, ¬ c.elected := by
  have hnone : ¬ ((s.bridges i).isLeader = true ∨ ∃ c ∈ (s.bridges i).inFlight, c.elected) := by
    intro hclaim
    obtain ⟨exp, halive⟩ := (hs i hi).alive hd hclaim
    simp [hdead] at halive
  simpa using hnone

theorem Inv.execute {i : String} {c c' : Sent} {key : Option (Lease String)}
    (hs : Inv instances d s) (hd : Fits d) (hi : i ∈ instances)
    (hc : c ∈ (s.bridges i).inFlight) (h : c.execute i s.now s.key = some (key, c')) :
    Inv instances d ({ s with key := key }.setBridge i (((s.bridges i).done c).send c')) := by
  have hb := hs i hi
  have htime := hb.timely c hc
  cases c with
  | set t a =>
      rcases a with _ | acquired
      · have hdrop := hb.drop_set hc rfl
        cases halive : Lease.alive s.now s.key with
        | some l =>
            simp only [Sent.execute, Lease.setNx_of_alive halive, Option.some.injEq,
              Prod.mk.injEq] at h
            obtain ⟨rfl, rfl⟩ := h
            rw [← (Lease.alive_eq_some_iff.mp halive).1]
            exact hs.setBridge (hdrop.send_set htime.1 htime.2 (by simp))
        | none =>
            simp only [Sent.execute, Lease.setNx_of_dead halive, Option.some.injEq,
              Prod.mk.injEq] at h
            obtain ⟨rfl, rfl⟩ := h
            obtain ⟨hleader, helected⟩ := hs.nobody hd hi halive
            refine Inv.set (hdrop.take htime.1 htime.2 hleader
              fun x hx => helected x (mem_of_mem_done hx)) fun j hj _ => ?_
            obtain ⟨hleader', helected'⟩ := hs.nobody hd hj halive
            exact (hs j hj).any_key hleader' helected' _
      · cases h
  | get t r =>
      rcases r with _ | current
      · obtain ⟨rfl, rfl⟩ := Prod.mk.injEq .. ▸ Option.some.inj h
        refine hs.setBridge (hb.renew hc rfl rfl htime.1 htime.2 ?_ ?_)
        · rintro exp T hleads t' r ⟨⟩
          exact hleads.get _ _ hc
        · rintro _ _ _ _ _ ⟨⟩
      · cases h
  | expire t e =>
      cases e with
      | true => cases h
      | false =>
          obtain ⟨hleader, -, -⟩ := hb.renewal_leads hc rfl
          obtain ⟨exp, halive⟩ := hb.alive hd (.inl hleader)
          simp only [Sent.execute, Lease.expire_of_alive halive, Option.some.injEq,
            Prod.mk.injEq] at h
          obtain ⟨rfl, rfl⟩ := h
          have hkey := (Lease.alive_eq_some_iff.mp halive).1
          have hput : ∀ j ∈ instances,
              Safe d s.now j (some ⟨i, s.now + ttl⟩) (s.bridges j) := by
            intro j hj
            have hj' := hs j hj
            rw [hkey] at hj'
            exact hj'.put_off
          refine Inv.set ((hput i hi).renew hc rfl rfl htime.1 htime.2 ?_ ?_)
            fun j hj _ => hput j hj
          · rintro _ _ _ _ _ ⟨⟩
          · rintro exp' T hleads t' e ⟨⟩
            obtain ⟨hge, hle, -⟩ := hleads.expire _ _ hc
            obtain rfl : s.now + ttl = exp' :=
              congrArg Lease.expiresAt (Option.some.inj hleads.holds)
            simp only [Sent.sentAt] at htime
            exact ⟨hge, hle, fun _ => by omega⟩

theorem Inv.step {e : ElectionEvent} (hs : Inv instances d s) (hd : Fits d)
    (h : step instances d s e = some t) : Inv instances d t := by
  cases e with
  | advance t' =>
      simp only [Election.step] at h
      split at h
      · rename_i hguard
        obtain rfl := Option.some.inj h
        intro i hi
        exact (hs i hi).advance hguard.1 (hguard.2 i hi)
      · cases h
  | tryBecomeLeader i =>
      simp only [Election.step] at h
      split at h
      · rename_i hi
        obtain rfl := Option.some.inj h
        refine hs.setBridge ?_
        unfold Bridge.tryBecomeLeader
        split
        · exact hs i hi
        · exact (hs i hi).send_set (Nat.le_refl _) (Nat.le_add_right _ _) (by simp)
      · cases h
  | tick i =>
      simp only [Election.step] at h
      split at h
      · rename_i hguard
        obtain rfl := Option.some.inj h
        exact hs.setBridge ((hs i hguard.1).tick hd hguard.2)
      · cases h
  | execute i c =>
      simp only [Election.step] at h
      split at h
      · rename_i hguard
        obtain ⟨⟨key, c'⟩, hexecute, rfl⟩ := Option.map_eq_some_iff.mp h
        exact hs.execute hd hguard.1 hguard.2 hexecute
      · cases h
  | answer i c =>
      simp only [Election.step] at h
      split at h
      · rename_i hguard
        obtain ⟨b, hreceive, rfl⟩ := Option.map_eq_some_iff.mp h
        exact hs.setBridge ((hs i hguard.1).receive hguard.2 hreceive)
      · cases h
  | throws i c =>
      simp only [Election.step] at h
      split at h
      · rename_i hguard
        obtain rfl := Option.some.inj h
        exact hs.setBridge ((hs i hguard.1).catches hguard.2)
      · cases h

/-- At most one instance leads. -/
def OneLeader (instances : List String) (s : Election) : Prop :=
  ∀ i ∈ instances, ∀ j ∈ instances, (s.bridges i).isLeader → (s.bridges j).isLeader → i = j

theorem Inv.oneLeader (hs : Inv instances d s) : OneLeader instances s := by
  intro i hi j hj hleader hleader'
  obtain ⟨exp, _, hleads⟩ := (hs i hi).leads hleader
  obtain ⟨exp', _, hleads'⟩ := (hs j hj).leads hleader'
  exact congrArg Lease.holder (Option.some.inj (hleads.holds.symm.trans hleads'.holds))

/-! ## Slower commands -/

/-- A run with commands up to `d` is one with commands up to `d'`. -/
theorem step_mono {d' : Nat} (hd : d ≤ d') {e : ElectionEvent} (h : step instances d s e = some t) :
    step instances d' s e = some t := by
  cases e with
  | advance t' =>
      simp only [step] at h ⊢
      split at h
      · rename_i hguard
        have hallows : ∀ i ∈ instances, (s.bridges i).allows d' t' := by
          intro i hi
          have hold := hguard.2 i hi
          simp only [Bridge.allows, Bool.and_eq_true, List.all_eq_true, decide_eq_true_eq]
            at hold ⊢
          exact ⟨fun c hc => Nat.le_trans (hold.1 c hc) (Nat.add_le_add_left hd _), hold.2⟩
        rw [if_pos ⟨hguard.1, hallows⟩]
        exact h
      · cases h
  | tryBecomeLeader i | tick i | execute i c | answer i c | throws i c => exact h

/-- The answer to `SET` comes after 3334 ms, the renewal at 23334 ms fails, the next
one reads the key and its `EXPIRE` is still out when the key ends. -/
def slowRenewal : List ElectionEvent :=
  [.tryBecomeLeader "a", .execute "a" (.set 0 none), .advance 3334,
    .answer "a" (.set 0 (some true)), .advance 23334, .tick "a", .throws "a" (.get 23334 none),
    .advance 43334, .tick "a", .execute "a" (.get 43334 none), .advance 46668,
    .answer "a" (.get 43334 (some (some "a"))), .advance 50000, .tryBecomeLeader "b",
    .execute "b" (.set 50000 none), .answer "b" (.set 50000 (some true))]

/-- Two instances lead at the end of it, with any longer bound too. -/
theorem slowRenewal_splits (hd : ¬ Fits d) : ∃ s, Run (Steps (step ["a", "b"] d)) start slowRenewal s ∧
    ¬ OneLeader ["a", "b"] s := by
  have hsplit : (slowRenewal.foldlM (step ["a", "b"] 3334) start).any (fun s =>
      (s.bridges "a").isLeader && (s.bridges "b").isLeader) = true := by decide +kernel
  obtain ⟨s, hrun, hleaders⟩ := Run.of_foldlM_any hsplit
  refine ⟨s, hrun.mono fun h => ?_, fun hone => ?_⟩
  · refine step_mono ?_ h
    simp only [Fits, ttl_eq, renewInterval_eq] at hd
    omega
  · rw [Bool.and_eq_true] at hleaders
    have heq := hone "a" (by simp) "b" (by simp) hleaders.1 hleaders.2
    simp at heq

/-- At most one instance leads, in every run of any instances with commands that
take at most `d`, exactly when two ticks and three commands fit in the lifetime of
the key. -/
theorem leader_safe_iff (d : Nat) :
    (∀ instances es s, Run (Steps (step instances d)) start es s → OneLeader instances s) ↔
      2 * LEADER_RENEW_INTERVAL_MS + 3 * d < LEADER_TTL_S * 1000 := by
  constructor
  · intro hsafe
    by_contra hd
    obtain ⟨s, hrun, hsplit⟩ := slowRenewal_splits hd
    exact hsplit (hsafe _ _ _ hrun)
  · intro hd instances es s hrun
    have hinv : Inv instances d s :=
      hrun.invariant (I := Inv instances d) (fun hs hstep => hs.step hd hstep) inv_start
    exact hinv.oneLeader

/-- Four seconds for a command: a leader cedes less than the lifetime of the key
after the answer to its last renewal, two failures included, and two instances lead. -/
theorem leader_splits_at_four_seconds :
    2 * (LEADER_RENEW_INTERVAL_MS + 4000) < LEADER_TTL_S * 1000 ∧
      ∃ s, Run (Steps (step ["a", "b"] 4000)) start slowRenewal s ∧
        (s.bridges "a").isLeader = true ∧ (s.bridges "b").isLeader = true := by
  refine ⟨by decide, ?_⟩
  have hsplit : (slowRenewal.foldlM (step ["a", "b"] 4000) start).any (fun s =>
      (s.bridges "a").isLeader && (s.bridges "b").isLeader) = true := by decide +kernel
  obtain ⟨s, hrun, hleaders⟩ := Run.of_foldlM_any hsplit
  exact ⟨s, hrun, Bool.and_eq_true_iff.mp hleaders⟩

end Election

end DeliveryTracking.Traccar.Leader
