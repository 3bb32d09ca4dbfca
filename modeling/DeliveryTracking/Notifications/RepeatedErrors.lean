/-
# `DeliveryTracking.Notifications.RepeatedErrors` — errors that come again and again

`trackRepeatedError` counts the errors of a key in a window of five minutes, that starts
with the first of them, and raises an alert at the tenth; with the next one it starts
again.

    an alert                        is of ten errors, of its key and within five minutes
    eighteen within five minutes    raise an alert (`repeated_errors`)

The windows do not slide, so that ten within five minutes are not enough: eight may fill one
window and nine begin the next.  What follows the posting of an alert looks at the entry again,
which may have been counted on by then, and starts another; it loses what was counted since.
-/
import DeliveryTracking.Runs

namespace DeliveryTracking.Notifications

def RATE_WINDOW_MS : Int := 5 * 60 * 1000
def RATE_THRESHOLD : Nat := 10

structure RateLimitEntry where
  count : Nat
  firstSeen : Int
  lastSeen : Int
  deriving DecidableEq, Repr

structure ErrorCall where
  errorKey : String
  name : String
  message : String
  now : Int
  deriving DecidableEq

structure AlertPayload where
  title : String
  message : String
  level : String
  errorKey : String
  repeatCount : Nat
  durationSeconds : Int
  intervalSeconds : Int
  deriving DecidableEq

/-- `Math.round((now - entry.firstSeen) / 1000)` -/
def durationSec (entry : RateLimitEntry) : Int :=
  (2 * (entry.lastSeen - entry.firstSeen) + 1000) / 2000

def repeatedError (call : ErrorCall) (entry : RateLimitEntry) : AlertPayload where
  title := "Repeated Error — " ++ call.errorKey
  message := call.name ++ ": " ++ (call.message.take 200).toString ++ " — repeated " ++
    toString entry.count ++ " times in " ++ toString (durationSec entry) ++ "s"
  level := "critical"
  errorKey := call.errorKey
  repeatCount := entry.count
  durationSeconds := durationSec entry
  intervalSeconds := (2 * durationSec entry + entry.count) / (2 * entry.count)

/-- An alert that is being posted, of an entry. -/
structure Sending where
  errorKey : String
  entry : Nat
  now : Int

/-- The entries that were made, the one of each key, and what is being posted. -/
structure AlertService where
  entries : List RateLimitEntry
  errorRateMap : String → Option Nat
  sending : List Sending
  /-- The alerts that were raised, and the errors; no code reads them. -/
  alerts : List (ErrorCall × AlertPayload)
  errors : List ErrorCall

namespace AlertService

/-- `errorRateMap.get` -/
def entryOf (s : AlertService) (errorKey : String) : Option RateLimitEntry :=
  (s.errorRateMap errorKey).bind fun ref => s.entries[ref]?

/-- `errorRateMap.set(errorKey, { count: 1, firstSeen: now, lastSeen: now })` -/
def restart (s : AlertService) (errorKey : String) (now : Int) : AlertService :=
  { s with
    entries := s.entries ++ [⟨1, now, now⟩]
    errorRateMap := Function.update s.errorRateMap errorKey (some s.entries.length) }

/-- `entry.count++` and `entry.lastSeen = now` -/
def counted (e : RateLimitEntry) (now : Int) : RateLimitEntry := ⟨e.count + 1, e.firstSeen, now⟩

def setEntry (s : AlertService) (ref : Nat) (e : RateLimitEntry) : AlertService :=
  { s with entries := s.entries.set ref e }

/-- The alert is raised, and its call waits for it to be posted. -/
def raise (s : AlertService) (call : ErrorCall) (ref : Nat) (e : RateLimitEntry) : AlertService :=
  { s with
    sending := s.sending ++ [⟨call.errorKey, ref, call.now⟩]
    alerts := s.alerts ++ [(call, repeatedError call e)] }

/-- `trackRepeatedError`, up to the end or the posting. -/
def trackRepeatedError (s : AlertService) (call : ErrorCall) : AlertService :=
  match s.errorRateMap call.errorKey with
  | none => s.restart call.errorKey call.now
  | some ref =>
      match s.entries[ref]? with
      | none => s.restart call.errorKey call.now
      | some e =>
          if RATE_WINDOW_MS < call.now - e.firstSeen then s.restart call.errorKey call.now
          else if e.count + 1 = RATE_THRESHOLD then
            (s.setEntry ref (counted e call.now)).raise call ref (counted e call.now)
          else if RATE_THRESHOLD < e.count + 1 then
            (s.setEntry ref (counted e call.now)).restart call.errorKey call.now
          else s.setEntry ref (counted e call.now)

/-- What follows the posting: the entry may have been counted on in the meantime. -/
def sent (s : AlertService) (task : Sending) : AlertService :=
  if s.entries[task.entry]?.any fun e => decide (RATE_THRESHOLD < e.count) then
    s.restart task.errorKey task.now
  else s

/-- The error is of the record, too. -/
def erred (s : AlertService) (call : ErrorCall) : AlertService :=
  { s.trackRepeatedError call with errors := s.errors ++ [call] }

inductive Event where
  | error (call : ErrorCall)
  | sent (i : Nat)

def step (s : AlertService) : Event → Option AlertService
  | .error call => some (s.erred call)
  | .sent i => (s.sending[i]?).map fun task => { s.sent task with sending := s.sending.eraseIdx i }

def start : AlertService := ⟨[], fun _ => none, [], [], []⟩

/-! ## The entry of a key -/

/-- What an error makes of the entry of its key, and whether an alert is raised. -/
def track (now : Int) : Option RateLimitEntry → Bool × RateLimitEntry
  | none => (false, ⟨1, now, now⟩)
  | some e =>
      if RATE_WINDOW_MS < now - e.firstSeen then (false, ⟨1, now, now⟩)
      else if e.count + 1 = RATE_THRESHOLD then (true, counted e now)
      else if RATE_THRESHOLD < e.count + 1 then (false, ⟨1, now, now⟩)
      else (false, counted e now)

variable {s t : AlertService} {call : ErrorCall} {errorKey : String} {ref : Nat} {now : Int}
  {e : RateLimitEntry} {task : Sending}

/-- Each key has an entry of its own. -/
structure Refs (s : AlertService) : Prop where
  lt : ∀ k r, s.errorRateMap k = some r → r < s.entries.length
  inj : ∀ k k' r, s.errorRateMap k = some r → s.errorRateMap k' = some r → k = k'

theorem errorRateMap_restart (k : String) : (s.restart errorKey now).errorRateMap k =
    if k = errorKey then some s.entries.length else s.errorRateMap k := Function.update_apply ..

theorem refs_restart (h : Refs s) : Refs (s.restart errorKey now) := by
  refine ⟨fun k r hr => ?_, fun k k' r hr hr' => ?_⟩
  · show r < (s.entries ++ [_]).length
    rw [List.length_append, List.length_singleton]
    rw [errorRateMap_restart] at hr
    split at hr
    · obtain rfl := Option.some.inj hr
      exact Nat.lt_succ_self _
    · exact Nat.lt_succ_of_lt (h.lt k r hr)
  · rw [errorRateMap_restart] at hr hr'
    split at hr
    · rename_i hk
      split at hr'
      · rename_i hk'
        exact hk.trans hk'.symm
      · obtain rfl := Option.some.inj hr
        exact absurd (h.lt k' _ hr') (Nat.lt_irrefl _)
    · split at hr'
      · obtain rfl := Option.some.inj hr'
        exact absurd (h.lt k _ hr) (Nat.lt_irrefl _)
      · exact h.inj k k' r hr hr'

theorem refs_setEntry (h : Refs s) : Refs (s.setEntry ref e) :=
  ⟨fun k r hr => (List.length_set ..).symm ▸ h.lt k r hr, h.inj⟩

theorem entryOf_restart (h : Refs s) (k : String) : (s.restart errorKey now).entryOf k =
    if k = errorKey then some ⟨1, now, now⟩ else s.entryOf k := by
  rw [entryOf, errorRateMap_restart]
  show (if _ then _ else _ : Option Nat).bind (fun ref => (s.entries ++ [_])[ref]?) = _
  split
  · rw [Option.bind_some, List.getElem?_append_right (Nat.le_refl _), Nat.sub_self]
    rfl
  · rw [entryOf]
    cases hk : s.errorRateMap k with
    | none => rfl
    | some r => exact List.getElem?_append_left (h.lt k r hk)

theorem entryOf_setEntry (h : Refs s) (href : s.errorRateMap errorKey = some ref) (k : String) :
    (s.setEntry ref e).entryOf k = if k = errorKey then some e else s.entryOf k := by
  rw [entryOf, setEntry, entryOf]
  split
  · rename_i hk
    rw [hk, href]
    exact List.getElem?_set_self (h.lt errorKey ref href)
  · rename_i hk
    cases hr : s.errorRateMap k with
    | none => rfl
    | some r =>
      refine List.getElem?_set_ne fun hsame => hk ?_
      exact h.inj k errorKey r hr (hsame ▸ href)

theorem trackRepeatedError_of_none (h : s.entryOf call.errorKey = none) :
    s.trackRepeatedError call = s.restart call.errorKey call.now := by
  rw [trackRepeatedError]
  cases href : s.errorRateMap call.errorKey with
  | none => rfl
  | some ref =>
    rw [entryOf, href, Option.bind_some] at h
    simp only [h]

theorem trackRepeatedError_of_some (href : s.errorRateMap call.errorKey = some ref)
    (he : s.entries[ref]? = some e) : s.trackRepeatedError call =
      if RATE_WINDOW_MS < call.now - e.firstSeen then s.restart call.errorKey call.now
      else if e.count + 1 = RATE_THRESHOLD then
        (s.setEntry ref (counted e call.now)).raise call ref (counted e call.now)
      else if RATE_THRESHOLD < e.count + 1 then
        (s.setEntry ref (counted e call.now)).restart call.errorKey call.now
      else s.setEntry ref (counted e call.now) := by
  rw [trackRepeatedError]
  simp only [href, he]

/-- What an error does to the entries: to that of its key what `track` says, and to no other. -/
structure Tracked (s : AlertService) (call : ErrorCall) (t : AlertService) : Prop where
  refs : Refs t
  entryOf : ∀ k, t.entryOf k =
    if k = call.errorKey then some (track call.now (s.entryOf call.errorKey)).2 else s.entryOf k
  raised : (track call.now (s.entryOf call.errorKey)).1 = true → ∃ ref,
    t.sending = s.sending ++ [⟨call.errorKey, ref, call.now⟩] ∧ t.alerts = s.alerts ++
      [(call, repeatedError call (track call.now (s.entryOf call.errorKey)).2)]
  quiet : (track call.now (s.entryOf call.errorKey)).1 = false →
    t.sending = s.sending ∧ t.alerts = s.alerts

theorem tracked (h : Refs s) (call : ErrorCall) : Tracked s call (s.trackRepeatedError call) := by
  cases hentry : s.entryOf call.errorKey with
  | none =>
    rw [trackRepeatedError_of_none hentry]
    refine ⟨refs_restart h, fun k => ?_, fun hraised => ?_, fun _ => ⟨rfl, rfl⟩⟩
    · rw [hentry]
      exact entryOf_restart h k
    · rw [hentry] at hraised
      cases hraised
  | some e =>
    obtain ⟨ref, href, he⟩ := Option.bind_eq_some_iff.mp hentry
    rw [trackRepeatedError_of_some href he]
    have hset := entryOf_setEntry (e := counted e call.now) h href
    by_cases hwindow : RATE_WINDOW_MS < call.now - e.firstSeen
    · have htrack : track call.now (s.entryOf call.errorKey) = (false, ⟨1, call.now, call.now⟩) := by
        rw [hentry, track, if_pos hwindow]
      rw [if_pos hwindow]
      refine ⟨refs_restart h, fun k => ?_, fun hraised => ?_, fun _ => ⟨rfl, rfl⟩⟩
      · rw [htrack]
        exact entryOf_restart h k
      · rw [htrack] at hraised
        cases hraised
    · rw [if_neg hwindow]
      by_cases hraise : e.count + 1 = RATE_THRESHOLD
      · have htrack : track call.now (s.entryOf call.errorKey) = (true, counted e call.now) := by
          rw [hentry, track, if_neg hwindow, if_pos hraise]
        have hrefs : Refs (s.setEntry ref (counted e call.now)) := refs_setEntry h
        rw [if_pos hraise]
        refine ⟨⟨hrefs.lt, hrefs.inj⟩, fun k => ?_, fun _ => ⟨ref, rfl, ?_⟩, fun hquiet => ?_⟩
        · rw [htrack]
          exact hset k
        · rw [htrack]
          rfl
        · rw [htrack] at hquiet
          cases hquiet
      · rw [if_neg hraise]
        by_cases hover : RATE_THRESHOLD < e.count + 1
        · have htrack : track call.now (s.entryOf call.errorKey) =
              (false, ⟨1, call.now, call.now⟩) := by
            rw [hentry, track, if_neg hwindow, if_neg hraise, if_pos hover]
          rw [if_pos hover]
          refine ⟨refs_restart (refs_setEntry h), fun k => ?_, fun hraised => ?_,
            fun _ => ⟨rfl, rfl⟩⟩
          · rw [entryOf_restart (refs_setEntry h), hset, htrack]
            split
            · rfl
            · rfl
          · rw [htrack] at hraised
            cases hraised
        · have htrack : track call.now (s.entryOf call.errorKey) =
              (false, counted e call.now) := by
            rw [hentry, track, if_neg hwindow, if_neg hraise, if_neg hover]
          rw [if_neg hover]
          refine ⟨refs_setEntry h, fun k => ?_, fun hraised => ?_, fun _ => ⟨rfl, rfl⟩⟩
          · rw [htrack]
            exact hset k
          · rw [htrack] at hraised
            cases hraised

theorem refs_sent (h : Refs s) (task : Sending) : Refs (s.sent task) := by
  rw [sent]
  split
  · exact refs_restart h
  · exact h

/-- A posting that ends touches no key but its own. -/
theorem entryOf_sent (h : Refs s) (task : Sending) (k : String) : (s.sent task).entryOf k =
    s.entryOf k ∨ k = task.errorKey ∧ (s.sent task).entryOf k = some ⟨1, task.now, task.now⟩ := by
  rw [sent]
  split
  · rw [entryOf_restart h]
    split
    · rename_i hk
      exact .inr ⟨hk, rfl⟩
    · exact .inl rfl
  · exact .inl rfl

theorem alerts_sent (task : Sending) : (s.sent task).alerts = s.alerts := by
  rw [sent]
  split
  · rfl
  · rfl

theorem errors_sent (task : Sending) : (s.sent task).errors = s.errors := by
  rw [sent]
  split
  · rfl
  · rfl

/-! ## What an alert is of -/

/-- The entry counts errors of its key, all in the window of the first of them. -/
def CountsOf (errors : List ErrorCall) (k : String) (e : RateLimitEntry) : Prop :=
  e.count ≤ RATE_THRESHOLD ∧ ∃ first later, (first :: later).Sublist errors ∧
    (first :: later).length = e.count ∧ first.now = e.firstSeen ∧
      ∀ c ∈ first :: later, c.errorKey = k ∧ c.now - first.now ≤ RATE_WINDOW_MS

theorem countsOf_first {errors : List ErrorCall} (h : call ∈ errors) :
    CountsOf errors call.errorKey ⟨1, call.now, call.now⟩ := by
  refine ⟨(show 1 ≤ RATE_THRESHOLD by decide), call, [], List.singleton_sublist.mpr h, rfl, rfl,
    fun c hc => ?_⟩
  obtain rfl := List.mem_singleton.mp hc
  refine ⟨rfl, ?_⟩
  rw [Int.sub_self]
  decide

theorem CountsOf.mono {errors : List ErrorCall} {k : String} (h : CountsOf errors k e)
    (call : ErrorCall) : CountsOf (errors ++ [call]) k e := by
  obtain ⟨hle, first, later, hsub, hrest⟩ := h
  exact ⟨hle, first, later, hsub.trans (List.sublist_append_left ..), hrest⟩

/-- One error more. -/
theorem CountsOf.counted {errors : List ErrorCall} (h : CountsOf errors call.errorKey e)
    (hwindow : ¬ RATE_WINDOW_MS < call.now - e.firstSeen) :
    ∃ first later, (first :: later ++ [call]).Sublist (errors ++ [call]) ∧
      (first :: later ++ [call]).length = e.count + 1 ∧ first.now = e.firstSeen ∧
        ∀ c ∈ first :: later ++ [call], c.errorKey = call.errorKey ∧
          c.now - first.now ≤ RATE_WINDOW_MS := by
  obtain ⟨-, first, later, hsub, hlength, hfirst, hall⟩ := h
  have hcount : (first :: later ++ [call]).length = e.count + 1 := by
    rw [List.length_append, hlength, List.length_singleton]
  refine ⟨first, later, hsub.append (List.Sublist.refl _), hcount, hfirst, fun c hc => ?_⟩
  rcases List.mem_append.mp hc with hc | hc
  · exact hall c hc
  · obtain rfl := List.mem_singleton.mp hc
    exact ⟨rfl, by omega⟩

/-- The alert is of ten errors of its key, the last of them its own, within five minutes. -/
def RaisedFor (errors : List ErrorCall) (a : ErrorCall × AlertPayload) : Prop :=
  ∃ first later, (first :: later ++ [a.1]).Sublist errors ∧
    (first :: later ++ [a.1]).length = RATE_THRESHOLD ∧
    (∀ c ∈ first :: later ++ [a.1], c.errorKey = a.1.errorKey ∧
      c.now - first.now ≤ RATE_WINDOW_MS) ∧
    a.2 = repeatedError a.1 ⟨RATE_THRESHOLD, first.now, a.1.now⟩

/-- What an error makes of an entry counts errors still, and an alert is of the ten of them. -/
theorem countsOf_track {errors : List ErrorCall}
    (h : ∀ e, s.entryOf call.errorKey = some e → CountsOf errors call.errorKey e) :
    CountsOf (errors ++ [call]) call.errorKey (track call.now (s.entryOf call.errorKey)).2 ∧
      ((track call.now (s.entryOf call.errorKey)).1 = true → RaisedFor (errors ++ [call])
        (call, repeatedError call (track call.now (s.entryOf call.errorKey)).2)) := by
  have hfirst : CountsOf (errors ++ [call]) call.errorKey ⟨1, call.now, call.now⟩ :=
    countsOf_first (List.mem_append_right _ (List.mem_singleton_self _))
  cases hentry : s.entryOf call.errorKey with
  | none => exact ⟨hfirst, fun h => (by cases h)⟩
  | some e =>
    rw [track]
    split
    · exact ⟨hfirst, fun h => (by cases h)⟩
    · rename_i hwindow
      split
      · rename_i hraise
        obtain ⟨first, later, hsub, hlength, hnow, hall⟩ := (h e hentry).counted hwindow
        refine ⟨⟨Nat.le_of_eq hraise, first, later ++ [call], hsub, hlength, hnow, hall⟩, fun _ =>
          ⟨first, later, hsub, hlength.trans hraise, hall, ?_⟩⟩
        rw [hnow]
        show repeatedError call ⟨e.count + 1, e.firstSeen, call.now⟩ = _
        rw [hraise]
      · split
        · exact ⟨hfirst, fun h => (by cases h)⟩
        · rename_i hover
          obtain ⟨first, later, hsub, hlength, hnow, hall⟩ :=
            (h e hentry).counted hwindow
          exact ⟨⟨Nat.not_lt.mp hover, first, later ++ [call], hsub, hlength, hnow, hall⟩,
            fun h => (by cases h)⟩

structure Sound (s : AlertService) : Prop where
  refs : Refs s
  entries : ∀ k e, s.entryOf k = some e → CountsOf s.errors k e
  sending : ∀ task ∈ s.sending, ∃ c ∈ s.errors, c.errorKey = task.errorKey ∧ c.now = task.now
  alerts : ∀ a ∈ s.alerts, RaisedFor s.errors a

theorem RaisedFor.mono {errors : List ErrorCall} {a : ErrorCall × AlertPayload}
    (h : RaisedFor errors a) (call : ErrorCall) : RaisedFor (errors ++ [call]) a := by
  obtain ⟨first, later, hsub, hrest⟩ := h
  exact ⟨first, later, hsub.trans (List.sublist_append_left ..), hrest⟩

theorem Sound.error (h : Sound s) (call : ErrorCall) : Sound (s.erred call) := by
  have htracked := tracked h.refs call
  obtain ⟨hcounts, hraised⟩ := countsOf_track (h.entries call.errorKey)
  have hknown : ∀ task ∈ s.sending, ∃ c ∈ s.errors ++ [call],
      c.errorKey = task.errorKey ∧ c.now = task.now := fun task htask =>
    let ⟨c, hc, hsame⟩ := h.sending task htask
    ⟨c, List.mem_append_left _ hc, hsame⟩
  refine ⟨⟨htracked.refs.lt, htracked.refs.inj⟩, fun k e he => ?_, fun task htask => ?_,
    fun a ha => ?_⟩
  · have hentry := (htracked.entryOf k).symm.trans he
    split at hentry
    · rename_i hk
      obtain rfl := Option.some.inj hentry
      rw [hk]
      exact hcounts
    · exact (h.entries k e hentry).mono call
  · cases halert : (track call.now (s.entryOf call.errorKey)).1 with
    | false => exact hknown task ((htracked.quiet halert).1 ▸ htask)
    | true =>
      obtain ⟨ref, hsending, -⟩ := htracked.raised halert
      rcases List.mem_append.mp (hsending ▸ htask) with hbefore | hnew
      · exact hknown task hbefore
      · obtain rfl := List.mem_singleton.mp hnew
        exact ⟨call, List.mem_append_right _ (List.mem_singleton_self _), rfl, rfl⟩
  · cases halert : (track call.now (s.entryOf call.errorKey)).1 with
    | false => exact (h.alerts a ((htracked.quiet halert).2 ▸ ha)).mono call
    | true =>
      obtain ⟨ref, -, halerts⟩ := htracked.raised halert
      rcases List.mem_append.mp (halerts ▸ ha) with hbefore | hnew
      · exact (h.alerts a hbefore).mono call
      · obtain rfl := List.mem_singleton.mp hnew
        exact hraised halert

theorem Sound.sent (h : Sound s) {i : Nat} (hi : s.sending[i]? = some task) :
    Sound { s.sent task with sending := s.sending.eraseIdx i } := by
  have hrefs := refs_sent h.refs task
  have herrors : (s.sent task).errors = s.errors := errors_sent task
  refine ⟨⟨hrefs.lt, hrefs.inj⟩, fun k e he => ?_, fun task' htask => ?_, fun a ha => ?_⟩
  · show CountsOf (s.sent task).errors k e
    rw [herrors]
    rcases entryOf_sent h.refs task k with hsame | ⟨rfl, hnew⟩
    · exact h.entries k e (hsame.symm.trans he)
    · obtain rfl := Option.some.inj (hnew.symm.trans he)
      obtain ⟨c, hc, hkey, hnow⟩ := h.sending task (List.mem_of_getElem? hi)
      rw [← hkey, ← hnow]
      exact countsOf_first hc
  · show ∃ c ∈ (s.sent task).errors, _
    rw [herrors]
    exact h.sending task' (List.mem_of_mem_eraseIdx htask)
  · show RaisedFor (s.sent task).errors a
    rw [herrors]
    exact h.alerts a ((alerts_sent task).subst ha)

theorem Sound.step {event : Event} (h : Sound s) (hstep : Steps step s event t) : Sound t := by
  cases event with
  | error call =>
    obtain rfl := Option.some.inj hstep
    exact h.error call
  | sent i =>
    obtain ⟨task, htask, rfl⟩ := Option.map_eq_some_iff.mp hstep
    exact h.sent htask

theorem sound_start : Sound start where
  refs := ⟨fun _ _ h => (nomatch h), fun _ _ _ h => nomatch h⟩
  entries _ _ h := nomatch h
  sending _ h := nomatch h
  alerts _ h := nomatch h

/-! ## When an alert is raised -/

/-- The errors of a key. -/
def errorsOf (k : String) : List Event → List ErrorCall
  | [] => []
  | .error call :: events =>
      if call.errorKey = k then call :: errorsOf k events else errorsOf k events
  | .sent _ :: events => errorsOf k events

/-- No alert of the key is being posted. -/
def Free (k : String) (s : AlertService) : Prop := ∀ task ∈ s.sending, task.errorKey ≠ k

/-- One of the errors raised an alert. -/
def RaisedBy (errors : List ErrorCall) (s t : AlertService) : Prop :=
  ∃ added, t.alerts = s.alerts ++ added ∧ ∃ a ∈ added, a.1 ∈ errors

/-- The entry after `n` errors of a batch that raised no alert.  The first eight of them may have
filled an entry from before the batch, and the ninth started another. -/
def Reached (batch : List ErrorCall) (n : Nat) : Option RateLimitEntry → Prop
  | none => n = 0
  | some e => n = 0 ∧ e.count = RATE_THRESHOLD ∨ e.count < RATE_THRESHOLD ∧
      (n < e.count ∨ n ≤ e.count + 8 ∧ ∃ c ∈ batch, c.now = e.firstSeen)

theorem reached_first {batch : List ErrorCall} {n : Nat} (hcall : call ∈ batch) (hn : n ≤ 8) :
    Reached batch (n + 1) (some ⟨1, call.now, call.now⟩) :=
  .inr ⟨(show 1 < RATE_THRESHOLD by decide), .inr ⟨(show n + 1 ≤ 1 + 8 by omega), call, hcall, rfl⟩⟩

theorem reached_track {batch : List ErrorCall} {n : Nat} {entry : Option RateLimitEntry}
    (h : Reached batch n entry) (hcall : call ∈ batch)
    (hwithin : ∀ c ∈ batch, call.now - c.now ≤ RATE_WINDOW_MS)
    (hquiet : (track call.now entry).1 = false) :
    Reached batch (n + 1) (some (track call.now entry).2) := by
  cases entry with
  | none =>
    obtain rfl : n = 0 := h
    exact reached_first hcall (Nat.zero_le _)
  | some e =>
    have hthreshold : RATE_THRESHOLD = 10 := rfl
    rw [track] at hquiet ⊢
    split at hquiet
    · rename_i hpast
      -- the window has passed: it did not start in the batch
      rw [if_pos hpast]
      refine reached_first hcall ?_
      rcases h with ⟨rfl, -⟩ | ⟨hcount, hbefore | ⟨-, c, hc, hfirst⟩⟩
      · exact Nat.zero_le _
      · omega
      · exact absurd (hfirst ▸ hwithin c hc) (Int.not_le.mpr hpast)
    · rename_i hwindow
      rw [if_neg hwindow]
      split at hquiet
      · cases hquiet
      · rename_i hraise
        rw [if_neg hraise]
        split at hquiet
        · rename_i hover
          rw [if_pos hover]
          refine reached_first hcall ?_
          rcases h with ⟨rfl, -⟩ | ⟨hcount, -⟩
          · exact Nat.zero_le _
          · omega
        · rename_i hover
          rw [if_neg hover]
          rcases h with ⟨-, hfull⟩ | ⟨hcount, hbefore | ⟨hn, hstarted⟩⟩
          · omega
          · exact .inr ⟨(show e.count + 1 < _ by omega), .inl (show n + 1 < e.count + 1 by omega)⟩
          · exact .inr ⟨(show e.count + 1 < _ by omega),
              .inr ⟨(show n + 1 ≤ e.count + 1 + 8 by omega), hstarted⟩⟩

theorem lt_of_reached {batch : List ErrorCall} {n : Nat} {entry : Option RateLimitEntry}
    (h : Reached batch n entry) : n < 18 := by
  have hthreshold : RATE_THRESHOLD = 10 := rfl
  cases entry with
  | none =>
    obtain rfl : n = 0 := h
    decide
  | some e =>
    rcases h with ⟨rfl, -⟩ | ⟨hcount, hbefore | ⟨hn, -⟩⟩
    · decide
    · omega
    · omega

theorem reached_zero (h : Sound s) (batch : List ErrorCall) (k : String) :
    Reached batch 0 (s.entryOf k) := by
  cases hentry : s.entryOf k with
  | none => rfl
  | some e =>
    obtain ⟨hle, first, later, -, hlength, -⟩ := h.entries k e hentry
    have hpos : 0 < e.count := hlength ▸ Nat.succ_pos _
    rcases Nat.eq_or_lt_of_le hle with hfull | hlt
    · exact .inl ⟨rfl, hfull⟩
    · exact .inr ⟨hlt, .inl hpos⟩

theorem free_error {k : String} (h : Refs s) (hfree : Free k s) (call : ErrorCall)
    (hquiet : call.errorKey = k → (track call.now (s.entryOf call.errorKey)).1 = false) :
    Free k (s.erred call) := by
  intro task htask
  have htracked := tracked h call
  cases halert : (track call.now (s.entryOf call.errorKey)).1 with
  | false => exact hfree task ((htracked.quiet halert).1 ▸ htask)
  | true =>
    obtain ⟨ref, hsending, -⟩ := htracked.raised halert
    rcases List.mem_append.mp (hsending ▸ htask) with hbefore | hnew
    · exact hfree task hbefore
    · obtain rfl := List.mem_singleton.mp hnew
      intro hk
      exact Bool.noConfusion (halert.symm.trans (hquiet hk))

theorem alerts_prefix {event : Event} (h : Sound s) (hstep : Steps step s event t) :
    ∃ added, t.alerts = s.alerts ++ added := by
  cases event with
  | error call =>
    obtain rfl := Option.some.inj hstep
    have htracked := tracked h.refs call
    cases halert : (track call.now (s.entryOf call.errorKey)).1 with
    | false => exact ⟨[], (htracked.quiet halert).2.trans (List.append_nil _).symm⟩
    | true =>
      obtain ⟨-, -, halerts⟩ := htracked.raised halert
      exact ⟨_, halerts⟩
  | sent i =>
    obtain ⟨task, -, rfl⟩ := Option.map_eq_some_iff.mp hstep
    exact ⟨[], (alerts_sent task).trans (List.append_nil _).symm⟩

/-- The alerts of a run come after those before it. -/
theorem alerts_run {events : List Event} (h : Run (Steps step) s events t) (hs : Sound s) :
    ∃ added, t.alerts = s.alerts ++ added := by
  induction h with
  | nil s => exact ⟨[], (List.append_nil _).symm⟩
  | cons hstep _ ih =>
    obtain ⟨first, hfirst⟩ := alerts_prefix hs hstep
    obtain ⟨added, hadded⟩ := ih (hs.step hstep)
    exact ⟨first ++ added, by rw [hadded, hfirst, List.append_assoc]⟩

/-- An error of the batch is counted or raises an alert, and the rest leaves the entry of the key
alone. -/
theorem reached_run {batch : List ErrorCall} {k : String} {events : List Event}
    (hbatch : ∀ c ∈ batch, ∀ c' ∈ batch, c.now - c'.now ≤ RATE_WINDOW_MS)
    (h : Run (Steps step) s events t) (hs : Sound s) (hin : ∀ c ∈ errorsOf k events, c ∈ batch)
    (hfree : Free k s) {n : Nat} (hreached : Reached batch n (s.entryOf k)) :
    RaisedBy (errorsOf k events) s t ∨
      Reached batch (n + (errorsOf k events).length) (t.entryOf k) := by
  induction h generalizing n with
  | nil s => exact .inr hreached
  | @cons s u t event events hstep hrest ih =>
    have hu : Sound u := hs.step hstep
    obtain ⟨first, hfirst⟩ := alerts_prefix hs hstep
    -- an alert that is raised later is raised, and what is not of the key changes nothing
    have hother : (∀ c ∈ errorsOf k events, c ∈ errorsOf k (event :: events)) →
        RaisedBy (errorsOf k events) u t → RaisedBy (errorsOf k (event :: events)) s t := by
      rintro hsub ⟨added, hadded, a, ha, herror⟩
      refine ⟨first ++ added, by rw [hadded, hfirst, List.append_assoc], a, ?_, hsub _ herror⟩
      exact List.mem_append_right _ ha
    cases event with
    | sent i =>
      have hentry : u.entryOf k = s.entryOf k := by
        obtain ⟨task, htask, rfl⟩ := Option.map_eq_some_iff.mp hstep
        rcases entryOf_sent hs.refs task k with hsame | ⟨hk, -⟩
        · exact hsame
        · exact absurd hk.symm (hfree task (List.mem_of_getElem? htask))
      have hstill : Free k u := by
        obtain ⟨task, -, rfl⟩ := Option.map_eq_some_iff.mp hstep
        exact fun task' htask => hfree task' (List.mem_of_mem_eraseIdx htask)
      exact (ih hu hin hstill (hentry ▸ hreached)).imp_left (hother fun _ => id)
    | error call =>
      obtain rfl := Option.some.inj hstep
      have htracked := tracked hs.refs call
      by_cases hk : call.errorKey = k
      · have herrors : errorsOf k (.error call :: events) = call :: errorsOf k events := if_pos hk
        have hcall : call ∈ batch := hin call (herrors ▸ List.mem_cons_self ..)
        rw [herrors] at hin hother ⊢
        cases halert : (track call.now (s.entryOf call.errorKey)).1 with
        | true =>
          obtain ⟨-, -, halerts⟩ := htracked.raised halert
          obtain ⟨added, hadded⟩ := alerts_run hrest hu
          have hraised : t.alerts = s.alerts ++
              ((call, repeatedError call (track call.now (s.entryOf call.errorKey)).2) :: added) := by
            rw [hadded, List.append_cons]
            exact congrArg (· ++ added) halerts
          exact .inl ⟨_, hraised, _, List.mem_cons_self .., List.mem_cons_self ..⟩
        | false =>
          have hnext : Reached batch (n + 1)
              (some (track call.now (s.entryOf call.errorKey)).2) := by
            rw [hk] at halert ⊢
            exact reached_track hreached hcall (hbatch call hcall) halert
          have hentry : (s.erred call).entryOf k =
              some (track call.now (s.entryOf call.errorKey)).2 := (htracked.entryOf k).trans (if_pos hk.symm)
          have hlater := ih hu (fun c hc => hin c (List.mem_cons_of_mem _ hc))
            (free_error hs.refs hfree call fun _ => halert) (hentry ▸ hnext)
          rw [List.length_cons, Nat.add_comm (errorsOf k events).length, ← Nat.add_assoc]
          exact hlater.imp_left (hother fun _ => List.mem_cons_of_mem _)
      · have herrors : errorsOf k (.error call :: events) = errorsOf k events := if_neg hk
        rw [herrors] at hin hother ⊢
        have hentry : (s.erred call).entryOf k = s.entryOf k :=
          (htracked.entryOf k).trans (if_neg fun h => hk h.symm)
        exact (ih hu hin (free_error hs.refs hfree call fun h => absurd h hk)
          (hentry ▸ hreached)).imp_left (hother fun _ => id)

/-- An alert is of ten errors of its key, within five minutes; and of eighteen of a key within five
minutes, none of whose alerts is still being posted, one raises an alert. -/
theorem repeated_errors {events : List Event} (h : Run (Steps step) start events s) :
    (∀ a ∈ s.alerts, RaisedFor s.errors a) ∧
    ∀ later t k, Run (Steps step) s later t → Free k s → 18 ≤ (errorsOf k later).length →
      (∀ c ∈ errorsOf k later, ∀ c' ∈ errorsOf k later, c.now - c'.now ≤ RATE_WINDOW_MS) →
      RaisedBy (errorsOf k later) s t := by
  have hs : Sound s := h.invariant (I := Sound) (fun hs hstep => hs.step hstep) sound_start
  refine ⟨hs.alerts, fun later t k hrun hfree hmany hwithin => ?_⟩
  rcases reached_run hwithin hrun hs (fun _ => id) hfree (reached_zero hs _ k) with
    hraised | hreached
  · exact hraised
  · rw [Nat.zero_add] at hreached
    exact absurd (lt_of_reached hreached) (Nat.not_lt.mpr hmany)

/-- Errors of one key, at these times. -/
def failing (times : List Int) : List Event :=
  times.map fun now => .error ⟨"savePosition", "Error", "invalid input syntax", now⟩

theorem repeated_errors_eighteen : ∃ t,
    Run (Steps step) start (failing (List.replicate 18 0)) t ∧
      RaisedBy (errorsOf "savePosition" (failing (List.replicate 18 0))) start t := by
  obtain ⟨t, hrun, -⟩ : ∃ t, Run (Steps step) start (failing (List.replicate 18 0)) t ∧
      (fun _ => true) t = true := Run.of_foldlM_any (by rfl)
  exact ⟨t, hrun, (repeated_errors (.nil start)).2 _ t _ hrun (fun _ h => nomatch h) (by decide)
    (by decide)⟩

-- seventeen within five minutes, half of them in the window before
example : ((failing (0 :: List.replicate 8 200000 ++ List.replicate 9 300001)).foldlM step
    start).map alerts = some [] := by rfl

end AlertService

end DeliveryTracking.Notifications
