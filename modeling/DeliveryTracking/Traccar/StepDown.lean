/-
# `DeliveryTracking.Traccar.StepDown` — leaving without taking the lock along

`stepDown` of `traccar-bridge.service.ts` beside the election of
`DeliveryTracking.Traccar.Leader`: an instance that shuts down reads the key and,
if it reads its own id, deletes the key with a second command.  Each deletion is
recorded with the holder it removed.

Between the two commands the key may expire and another instance may take it.
`Undisturbed` is the condition that no instance does, and under it every recorded
deletion removed the deleting instance's own lock.
-/
import DeliveryTracking.Traccar.Leader

namespace DeliveryTracking.Traccar.Leader

/-- Where `stepDown` stands: its `GET`, with the value once Redis has read it, or its
`DEL`. -/
inductive Leaving where
  | get (id : String) (current : Option (Option String))
  | del (id : String)
  deriving DecidableEq, Repr

def Leaving.id : Leaving → String
  | .get i _ | .del i => i

/-- The instance has read its own id, and its `DEL` is still to come. -/
def Leaving.readOwn : Leaving → Bool
  | .get i current => current = some (some i)
  | .del _ => true

/-- A deletion: the instance that sent `DEL` and the holder of the key it removed. -/
structure Deletion where
  sender : String
  holder : String
  deriving DecidableEq, Repr

structure Shutdown where
  election : Election
  leaving : List Leaving
  deletions : List Deletion

inductive ShutdownEvent where
  | bridge (e : ElectionEvent)
  | stepDown (i : String)
  | execute (l : Leaving)
  | answer (l : Leaving)
  | throws (l : Leaving)
  deriving DecidableEq, Repr

namespace Shutdown

def start : Shutdown := ⟨Election.start, [], []⟩

/-- `this.isLeader = false; this.stopLeaderRenew()`, and the `GET` is sent. -/
def stepDown (s : Shutdown) (i : String) : Shutdown :=
  { s with
    election := s.election.setBridge i (s.election.bridges i).cede
    leaving := .get i none :: s.leaving }

/-- Redis executes `GET` or `DEL`. -/
def execute (s : Shutdown) : Leaving → Option Shutdown
  | .get i none =>
      let current := Lease.get s.election.now s.election.key
      some { s with leaving := .get i (some current) :: s.leaving.erase (.get i none) }
  | .get _ (some _) => none
  | .del i =>
      some { s with
        election := { s.election with key := none }
        leaving := s.leaving.erase (.del i)
        deletions := ((Lease.get s.election.now s.election.key).map (⟨i, ·⟩)).toList
          ++ s.deletions }

/-- `if (current === this.instanceId) await this.redis.del(LEADER_KEY)` -/
def answer (s : Shutdown) : Leaving → Option Shutdown
  | .get i (some current) =>
      let leaving := s.leaving.erase (.get i (some current))
      some { s with leaving := if current = some i then .del i :: leaving else leaving }
  | _ => none

def step (instances : List String) (d : Nat) (s : Shutdown) : ShutdownEvent → Option Shutdown
  | .bridge e => (s.election.step instances d e).map fun election => { s with election := election }
  | .stepDown i => if i ∈ instances then some (s.stepDown i) else none
  | .execute l => if l ∈ s.leaving then s.execute l else none
  | .answer l => if l ∈ s.leaving then s.answer l else none
  | .throws l => if l ∈ s.leaving then some { s with leaving := s.leaving.erase l } else none

/-- The instance whose `SET LEADER_KEY id NX` Redis executes. -/
def setBy : ShutdownEvent → Option String
  | .bridge (.execute j (.set _ none)) => some j
  | _ => none

/-- No other instance takes the key while one is between the `GET` that read its own
id and its `DEL`. -/
def Undisturbed (s : Shutdown) (e : ShutdownEvent) : Prop :=
  ∀ j ∈ setBy e, Lease.alive s.election.now s.election.key = none →
    ∀ l ∈ s.leaving, l.readOwn → l.id = j

instance (s : Shutdown) (e : ShutdownEvent) : Decidable (s.Undisturbed e) :=
  inferInstanceAs (Decidable (∀ j ∈ setBy e, _ → ∀ l ∈ s.leaving, _))

/-! ## The lock deleted is one's own -/

variable {instances : List String} {d : Nat} {s t : Shutdown}

/-- While an instance has read its own id, a key that is there is its own. -/
structure Inv (s : Shutdown) : Prop where
  own : ∀ l ∈ s.leaving, l.readOwn →
    ∀ lock, Lease.alive s.election.now s.election.key = some lock → lock.holder = l.id
  deleted : ∀ x ∈ s.deletions, x.holder = x.sender

theorem inv_start : Inv start where
  own := by intro l hl; cases hl
  deleted := by intro x hx; cases hx

/-- What a command of the election can do to the key. -/
theorem alive_execute {i : String} {now : Nat} {key key' : Option (Lease String)} {c c' : Sent}
    (h : c.execute i now key = some (key', c')) {lock : Lease String}
    (hlock : Lease.alive now key' = some lock) :
    (∃ lock', Lease.alive now key = some lock' ∧ lock'.holder = lock.holder) ∨
      (Lease.alive now key = none ∧ setBy (.bridge (.execute i c)) = some lock.holder) := by
  obtain ⟨hkey, -⟩ := Lease.alive_eq_some_iff.mp hlock
  cases halive : Lease.alive now key with
  | some l =>
      refine .inl ⟨l, rfl, ?_⟩
      cases c with
      | set t a =>
          rcases a with _ | acquired
          · simp only [Sent.execute, Lease.setNx_of_alive halive, Option.some.injEq,
              Prod.mk.injEq] at h
            exact congrArg Lease.holder (Option.some.inj (h.1.trans hkey))
          · cases h
      | get t r =>
          rcases r with _ | current
          · obtain rfl : key = key' := congrArg Prod.fst (Option.some.inj h)
            rw [halive] at hlock
            exact congrArg Lease.holder (Option.some.inj hlock)
          · cases h
      | expire t e =>
          cases e with
          | true => cases h
          | false =>
              simp only [Sent.execute, Lease.expire_of_alive halive, Option.some.injEq,
                Prod.mk.injEq] at h
              obtain rfl := Option.some.inj (h.1.trans hkey)
              rfl
  | none =>
      refine .inr ⟨rfl, ?_⟩
      cases c with
      | set t a =>
          rcases a with _ | acquired
          · simp only [Sent.execute, Lease.setNx_of_dead halive, Option.some.injEq,
              Prod.mk.injEq] at h
            obtain rfl := Option.some.inj (h.1.trans hkey)
            rfl
          · cases h
      | get t r =>
          rcases r with _ | current
          · obtain rfl : key = key' := congrArg Prod.fst (Option.some.inj h)
            simp [halive] at hlock
          · cases h
      | expire t e =>
          cases e with
          | true => cases h
          | false =>
              simp [Sent.execute, Lease.expire, halive] at h
              simp [← h.1] at hkey

/-- What a step of the election can do to the key: it lets it expire, puts it off for
its holder, or gives a key that is gone to the instance of a `SET`. -/
theorem alive_step {s t : Election} {e : ElectionEvent} (h : s.step instances d e = some t)
    {lock : Lease String} (hlock : Lease.alive t.now t.key = some lock) :
    (∃ lock', Lease.alive s.now s.key = some lock' ∧ lock'.holder = lock.holder) ∨
      (Lease.alive s.now s.key = none ∧ setBy (.bridge e) = some lock.holder) := by
  cases e with
  | advance t' =>
      simp only [Election.step] at h
      split at h
      · rename_i hguard
        obtain rfl := Option.some.inj h
        obtain ⟨hkey, hlt⟩ := Lease.alive_eq_some_iff.mp hlock
        exact .inl ⟨lock, Lease.alive_eq_some_iff.mpr ⟨hkey, Nat.lt_of_le_of_lt hguard.1 hlt⟩, rfl⟩
      · cases h
  | tryBecomeLeader i | tick i | throws i c =>
      simp only [Election.step] at h
      split at h
      · obtain rfl := Option.some.inj h
        exact .inl ⟨lock, hlock, rfl⟩
      · cases h
  | answer i c =>
      simp only [Election.step] at h
      split at h
      · obtain ⟨b, -, rfl⟩ := Option.map_eq_some_iff.mp h
        exact .inl ⟨lock, hlock, rfl⟩
      · cases h
  | execute i c =>
      simp only [Election.step] at h
      split at h
      · obtain ⟨⟨key, c'⟩, hexecute, rfl⟩ := Option.map_eq_some_iff.mp h
        exact alive_execute hexecute hlock
      · cases h

theorem Inv.bridge {e : ElectionEvent} (hs : Inv s) (hguard : s.Undisturbed (.bridge e))
    (h : step instances d s (.bridge e) = some t) : Inv t := by
  obtain ⟨election, hstep, rfl⟩ := Option.map_eq_some_iff.mp h
  refine ⟨fun l hl hown lock hlock => ?_, hs.deleted⟩
  rcases alive_step hstep hlock with ⟨lock', hlock', heq⟩ | ⟨hdead, hset⟩
  · rw [← heq]
    exact hs.own l hl hown lock' hlock'
  · exact (hguard _ hset hdead l hl hown).symm

theorem Inv.execute {l : Leaving} (hs : Inv s) (hl : l ∈ s.leaving)
    (h : s.execute l = some t) : Inv t := by
  cases l with
  | get i current =>
      rcases current with _ | current
      · obtain rfl := Option.some.inj h
        refine ⟨fun l' hl' hown lock hlock => ?_, hs.deleted⟩
        rcases List.mem_cons.mp hl' with rfl | hl'
        · have hread := Option.some.inj (of_decide_eq_true hown)
          rw [Lease.get, hlock] at hread
          exact Option.some.inj hread
        · exact hs.own l' (List.mem_of_mem_erase hl') hown lock hlock
      · cases h
  | del i =>
      obtain rfl := Option.some.inj h
      refine ⟨?_, fun x hx => ?_⟩
      · intro l' _ _ lock hlock
        cases hlock
      · rcases List.mem_append.mp hx with hx | hx
        · simp only [Lease.get, Option.mem_toList, Option.map_map, Option.map_eq_some_iff,
            Function.comp_apply] at hx
          obtain ⟨lock, hlock, rfl⟩ := hx
          exact hs.own _ hl rfl lock hlock
        · exact hs.deleted x hx

theorem Inv.answer {l : Leaving} (hs : Inv s) (hl : l ∈ s.leaving)
    (h : s.answer l = some t) : Inv t := by
  cases l with
  | del i => cases h
  | get i current =>
      rcases current with _ | current
      · cases h
      · obtain rfl := Option.some.inj h
        refine ⟨fun l' hl' hown lock hlock => ?_, hs.deleted⟩
        dsimp only at hl'
        split at hl'
        · rename_i hcurrent
          rcases List.mem_cons.mp hl' with rfl | hl'
          · exact hs.own _ hl (by simp [Leaving.readOwn, hcurrent]) lock hlock
          · exact hs.own l' (List.mem_of_mem_erase hl') hown lock hlock
        · exact hs.own l' (List.mem_of_mem_erase hl') hown lock hlock

theorem Inv.step {e : ShutdownEvent} (hs : Inv s) (hguard : s.Undisturbed e)
    (h : step instances d s e = some t) : Inv t := by
  cases e with
  | bridge e => exact hs.bridge hguard h
  | stepDown i =>
      simp only [Shutdown.step] at h
      split at h
      · obtain rfl := Option.some.inj h
        refine ⟨fun l hl hown lock hlock => ?_, hs.deleted⟩
        rcases List.mem_cons.mp hl with rfl | hl
        · simp [Leaving.readOwn] at hown
        · exact hs.own l hl hown lock hlock
      · cases h
  | execute l =>
      simp only [Shutdown.step] at h
      split at h
      · rename_i hl
        exact hs.execute hl h
      · cases h
  | answer l =>
      simp only [Shutdown.step] at h
      split at h
      · rename_i hl
        exact hs.answer hl h
      · cases h
  | throws l =>
      simp only [Shutdown.step] at h
      split at h
      · obtain rfl := Option.some.inj h
        refine ⟨fun l' hl' => hs.own l' (List.mem_of_mem_erase hl'), hs.deleted⟩
      · cases h

/-- As long as no other instance takes the key between the two commands of a
`stepDown`, every lock `stepDown` deletes is the deleting instance's own. -/
theorem stepDown_deletes_own {es : List ShutdownEvent}
    (h : Run (Guarded (Steps (step instances d)) Undisturbed) start es s) :
    ∀ x ∈ s.deletions, x.holder = x.sender := by
  have hinv : Inv s :=
    h.invariant (I := Inv) (fun hs hstep => hs.step hstep.2 hstep.1) inv_start
  exact hinv.deleted

/-- A step that breaks the condition can be followed by the deletion of the lock it
gave to another instance. -/
theorem disturbed_deletes_other {e : ShutdownEvent} (h : step instances d s e = some t)
    (hguard : ¬ s.Undisturbed e) :
    ∃ es u, Run (Steps (step instances d)) t es u ∧ ∃ x ∈ u.deletions, x.holder ≠ x.sender := by
  simp only [Undisturbed, not_forall] at hguard
  obtain ⟨j, hset, hdead, l, hl, hown, hne⟩ := hguard
  obtain ⟨t₀, rfl⟩ : ∃ t₀, e = .bridge (.execute j (.set t₀ none)) := by
    unfold setBy at hset
    split at hset
    · rename_i j' t₀
      obtain rfl := Option.some.inj hset
      exact ⟨t₀, rfl⟩
    · cases hset
  obtain ⟨election, hstep, rfl⟩ := Option.map_eq_some_iff.mp h
  have hkey : Lease.get election.now election.key = some j := by
    simp only [Election.step] at hstep
    split at hstep
    · simp only [Sent.execute, Lease.setNx_of_dead hdead, Option.map_some, Option.some.injEq]
        at hstep
      subst hstep
      exact Lease.get_eq_some_iff.mpr ⟨_, rfl, Nat.lt_add_of_pos_right (by decide)⟩
    · cases hstep
  have hdelete : ∀ {s : Shutdown} {i : String}, Lease.get s.election.now s.election.key = some j →
      i ≠ j → .del i ∈ s.leaving →
      ∃ u, step instances d s (.execute (.del i)) = some u ∧
        ∃ x ∈ u.deletions, x.holder ≠ x.sender := by
    intro s i hkey hne hdel
    refine ⟨_, if_pos hdel, ⟨i, j⟩, ?_, fun e => hne e.symm⟩
    simp [hkey]
  cases l with
  | del i =>
      obtain ⟨u, hu, hwrong⟩ := hdelete (s := { s with election := election }) hkey hne hl
      exact ⟨_, u, Run.single hu, hwrong⟩
  | get i current =>
      obtain rfl : current = some (some i) := of_decide_eq_true hown
      obtain ⟨u, hu, hwrong⟩ := hdelete (i := i)
        (s := { s with
          election := election
          leaving := .del i :: s.leaving.erase (.get i (some (some i))) })
        hkey hne (List.mem_cons_self ..)
      refine ⟨[.answer (.get i (some (some i))), .execute (.del i)], u, .cons ?_ (.single hu), hwrong⟩
      simp [Steps, step, answer, hl]

/-- A leader shuts down and takes its lock along. -/
def cleanShutdown : List ShutdownEvent :=
  [.bridge (.tryBecomeLeader "a"), .bridge (.execute "a" (.set 0 none)),
    .bridge (.answer "a" (.set 0 (some true))), .stepDown "a", .execute (.get "a" none),
    .answer (.get "a" (some (some "a"))), .execute (.del "a")]

theorem cleanShutdown_deletes_own :
    ∃ s, Run (Guarded (Steps (step ["a", "b"] 1000)) Undisturbed) start cleanShutdown s ∧
      s.deletions = [⟨"a", "a"⟩] ∧ ∀ x ∈ s.deletions, x.holder = x.sender := by
  have hend : (cleanShutdown.foldlM (guardStep (step ["a", "b"] 1000) Undisturbed) start).map
      (·.deletions) = some [⟨"a", "a"⟩] := by decide +kernel
  obtain ⟨s, hs, hdeletions⟩ := Option.map_eq_some_iff.mp hend
  have hrun := Run.of_guardStep hs
  exact ⟨s, hrun, hdeletions, stepDown_deletes_own hrun⟩

/-- Both renewals of the leader fail and it cedes; it shuts down just before its key
ends, reads its own id, and deletes the lock of the instance elected meanwhile. -/
def lateShutdown : List ShutdownEvent :=
  [.bridge (.tryBecomeLeader "a"), .bridge (.execute "a" (.set 0 none)),
    .bridge (.answer "a" (.set 0 (some true))), .bridge (.advance 20000), .bridge (.tick "a"),
    .bridge (.throws "a" (.get 20000 none)), .bridge (.advance 40000), .bridge (.tick "a"),
    .bridge (.throws "a" (.get 40000 none)), .bridge (.advance 49999), .stepDown "a",
    .execute (.get "a" none), .bridge (.advance 50000), .bridge (.tryBecomeLeader "b"),
    .bridge (.execute "b" (.set 50000 none)), .bridge (.answer "b" (.set 50000 (some true))),
    .answer (.get "a" (some (some "a"))), .execute (.del "a")]

theorem lateShutdown_deletes_other :
    ∃ s, Run (Steps (step ["a", "b"] 1000)) start lateShutdown s ∧ s.deletions = [⟨"a", "b"⟩] := by
  have hend : (lateShutdown.foldlM (step ["a", "b"] 1000) start).map (·.deletions) =
      some [⟨"a", "b"⟩] := by decide +kernel
  obtain ⟨s, hs, hdeletions⟩ := Option.map_eq_some_iff.mp hend
  exact ⟨s, Run.of_foldlM hs, hdeletions⟩

end Shutdown

end DeliveryTracking.Traccar.Leader
