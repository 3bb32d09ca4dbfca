/-
# `DeliveryTracking.Auth.Lockout` — how many codes can be guessed

`verify2faToken` counts the wrong codes of a user in Redis.  The count is read
before a code is checked and raised after it was found wrong, by calls of their
own:

    GET  ──▶  check the code  ──▶  INCR  ──▶  EXPIRE, if the count was the first
     │
     └─ at 8 or more: refused

In one window no key expires, and without a valid code none is deleted.  Then the
codes checked are the failures recorded and those about to be
(`Counted`), and they stay at most 8 exactly when each code is checked with fewer
than 8 of these (`guesses_always_iff`): the count that was read says less.
-/
import DeliveryTracking.Runs
import DeliveryTracking.Auth.Login

namespace DeliveryTracking.Auth

/-! ## Calls -/

def twoFaFailMaxAttempts : Nat := 8

/-- Where a call of `verify2faToken` stands whose token and user passed. -/
inductive CodeStage where
  /-- Before the GET of `check2faLockout`. -/
  | entered
  /-- Before the code is checked; the count is the one read. -/
  | checked (count : Nat)
  /-- Before the INCR of `record2faFailure`. -/
  | failed
  /-- Before the EXPIRE of `record2faFailure`. -/
  | expiring
  /-- Before the DEL of `clear2faFailures`. -/
  | accepted
  deriving DecidableEq, Repr

structure CodeCall where
  userId : String
  totpSecret : String
  code : String
  stage : CodeStage
  deriving DecidableEq, Repr

inductive LockoutEvent where
  | verify2faToken (userId totpSecret code : String)
  | get (i : Nat)
  | verifyToken (i : Nat) (now : Nat)
  | incr (i : Nat)
  | expire (i : Nat)
  | del (i : Nat)
  deriving DecidableEq, Repr

/-- The keys `2fa_fail:` of one window, and the calls. -/
structure LockoutRun where
  /-- 0 where there is no key. -/
  failures : String → Nat
  expires : String → Bool
  calls : List CodeCall
  /-- The wrong codes that were checked. -/
  guesses : String → Nat

/-- A window begins without a key and without a call. -/
def LockoutRun.start : LockoutRun := ⟨fun _ => 0, fun _ => false, [], fun _ => 0⟩

/-- A wrong code of the user that is not recorded yet. -/
def CodeCall.isFailed (userId : String) (c : CodeCall) : Bool :=
  c.userId == userId && c.stage == .failed

namespace LockoutRun

variable (lib : Libraries) (s : LockoutRun)

def move (i : Nat) (call : CodeCall) (stage : CodeStage) : LockoutRun :=
  { s with calls := s.calls.set i { call with stage := stage } }

def finish (i : Nat) : LockoutRun := { s with calls := s.calls.eraseIdx i }

/-- The code of a call is checked, if the count it read is below the maximum. -/
def verifyToken (i : Nat) (call : CodeCall) (count now : Nat) : LockoutRun :=
  if twoFaFailMaxAttempts ≤ count then s.finish i
  else if lib.totpVerify call.totpSecret call.code now then s.move i call .accepted
  else
    { s with guesses := Function.update s.guesses call.userId (s.guesses call.userId + 1) }.move i
      call .failed

/-- `INCR`; the first failure starts the window. -/
def incr (i : Nat) (call : CodeCall) : LockoutRun :=
  let count := s.failures call.userId + 1
  let recorded := { s with failures := Function.update s.failures call.userId count }
  if count = 1 then recorded.move i call .expiring else recorded.finish i

def step : LockoutEvent → Option LockoutRun
  | .verify2faToken userId totpSecret code =>
    some { s with calls := s.calls ++ [⟨userId, totpSecret, code, .entered⟩] }
  | .get i =>
    match s.calls[i]? with
    | some call =>
      if call.stage = .entered then some (s.move i call (.checked (s.failures call.userId)))
      else none
    | none => none
  | .verifyToken i now =>
    match s.calls[i]? with
    | some call =>
      match call.stage with
      | .checked count => some (s.verifyToken lib i call count now)
      | _ => none
    | none => none
  | .incr i =>
    match s.calls[i]? with
    | some call => if call.stage = .failed then some (s.incr i call) else none
    | none => none
  | .expire i =>
    match s.calls[i]? with
    | some call =>
      if call.stage = .expiring then
        some { s.finish i with expires := Function.update s.expires call.userId true }
      else none
    | none => none
  | .del i =>
    match s.calls[i]? with
    | some call =>
      if call.stage = .accepted then
        some { s.finish i with
          failures := Function.update s.failures call.userId 0
          expires := Function.update s.expires call.userId false }
      else none
    | none => none

/-! ## What is counted -/

/-- Wrong codes of the user that are not recorded yet. -/
def unrecorded (userId : String) : Nat := s.calls.countP (CodeCall.isFailed userId)

/-- The code that is checked is not valid. -/
def wrongCode : LockoutEvent → Bool
  | .verifyToken i now => s.calls[i]?.all fun call => !lib.totpVerify call.totpSecret call.code now
  | _ => true

def WrongCode (s : LockoutRun) (e : LockoutEvent) : Prop := s.wrongCode lib e = true

/-- The failures recorded and about to be recorded are below the maximum when a code is checked. -/
def below : LockoutEvent → Bool
  | .verifyToken i _ => s.calls[i]?.all fun call =>
    match call.stage with
    | .checked count => decide (twoFaFailMaxAttempts ≤ count) ||
        decide (s.failures call.userId + s.unrecorded call.userId < twoFaFailMaxAttempts)
    | _ => true
  | _ => true

def Below (s : LockoutRun) (e : LockoutEvent) : Prop := s.below e = true

instance (e : LockoutEvent) : Decidable (s.WrongCode lib e) := inferInstanceAs (Decidable (_ = true))

instance (e : LockoutEvent) : Decidable (s.Below e) := inferInstanceAs (Decidable (_ = true))

/-- No user's codes were guessed more often than the maximum. -/
def Bounded (s : LockoutRun) : Prop := ∀ userId, s.guesses userId ≤ twoFaFailMaxAttempts

/-- The wrong codes checked are recorded, or about to be. -/
structure Counted (s : LockoutRun) : Prop where
  guesses : ∀ userId, s.guesses userId = s.failures userId + s.unrecorded userId
  rejected : ∀ c ∈ s.calls, c.stage ≠ .accepted

/-! ## One step -/

theorem update_add_one (f : String → Nat) (k u : String) :
    Function.update f k (f k + 1) u = f u + if k == u then 1 else 0 := by
  rw [Function.update_apply]
  by_cases hu : u = k
  · rw [if_pos hu, hu, if_pos (BEq.rfl)]
  · rw [if_neg hu, if_neg (by simpa using Ne.symm hu), Nat.add_zero]

/-- What a step does. -/
inductive Moves (lib : Libraries) (s : LockoutRun) : LockoutEvent → LockoutRun → Prop
  | entered (userId totpSecret code : String) :
      Moves lib s (.verify2faToken userId totpSecret code)
        { s with calls := s.calls ++ [⟨userId, totpSecret, code, .entered⟩] }
  | got {i : Nat} {call : CodeCall} (hi : s.calls[i]? = some call) (hstage : call.stage = .entered) :
      Moves lib s (.get i) (s.move i call (.checked (s.failures call.userId)))
  | refused {i count : Nat} {call : CodeCall} (now : Nat) (hi : s.calls[i]? = some call)
      (hstage : call.stage = .checked count) (hcount : twoFaFailMaxAttempts ≤ count) :
      Moves lib s (.verifyToken i now) (s.finish i)
  | accepted {i count now : Nat} {call : CodeCall} (hi : s.calls[i]? = some call)
      (hstage : call.stage = .checked count)
      (hvalid : lib.totpVerify call.totpSecret call.code now = true) :
      Moves lib s (.verifyToken i now) (s.move i call .accepted)
  | guessed {i count : Nat} {call : CodeCall} (now : Nat) (hi : s.calls[i]? = some call)
      (hstage : call.stage = .checked count) (hcount : ¬twoFaFailMaxAttempts ≤ count) :
      Moves lib s (.verifyToken i now)
        ({ s with guesses :=
          Function.update s.guesses call.userId (s.guesses call.userId + 1) }.move i call .failed)
  | recorded {i : Nat} {call : CodeCall} (hi : s.calls[i]? = some call)
      (hstage : call.stage = .failed) : Moves lib s (.incr i) (s.incr i call)
  | expired {i : Nat} {call : CodeCall} (hi : s.calls[i]? = some call)
      (hstage : call.stage = .expiring) :
      Moves lib s (.expire i)
        { s.finish i with expires := Function.update s.expires call.userId true }
  | cleared {i : Nat} {call : CodeCall} (t : LockoutRun) (hi : s.calls[i]? = some call)
      (hstage : call.stage = .accepted) : Moves lib s (.del i) t

variable {lib : Libraries} {s t : LockoutRun} {e : LockoutEvent}

theorem moves_of_step (h : s.step lib e = some t) : Moves lib s e t := by
  cases e with
  | verify2faToken userId totpSecret code =>
    cases h
    exact .entered userId totpSecret code
  | get i =>
    rw [step] at h
    split at h
    · rename_i call hi
      obtain ⟨hstage, heq⟩ := Option.ite_none_right_eq_some.mp h
      cases heq
      exact .got hi hstage
    · cases h
  | verifyToken i now =>
    rw [step] at h
    split at h
    · rename_i call hi
      split at h
      · rename_i count hstage
        cases h
        unfold verifyToken
        split
        · rename_i hcount
          exact .refused now hi hstage hcount
        · rename_i hcount
          split
          · rename_i hvalid
            exact .accepted hi hstage hvalid
          · exact .guessed now hi hstage hcount
      · cases h
    · cases h
  | incr i =>
    rw [step] at h
    split at h
    · rename_i call hi
      obtain ⟨hstage, heq⟩ := Option.ite_none_right_eq_some.mp h
      cases heq
      exact .recorded hi hstage
    · cases h
  | expire i =>
    rw [step] at h
    split at h
    · rename_i call hi
      obtain ⟨hstage, heq⟩ := Option.ite_none_right_eq_some.mp h
      cases heq
      exact .expired hi hstage
    · cases h
  | del i =>
    rw [step] at h
    split at h
    · rename_i call hi
      obtain ⟨hstage, -⟩ := Option.ite_none_right_eq_some.mp h
      exact .cleared t hi hstage
    · cases h

variable {i : Nat} {call : CodeCall} {u : String}

theorem isFailed_of_ne (h : call.stage ≠ .failed) : call.isFailed u = false := by
  rw [CodeCall.isFailed, beq_eq_false_iff_ne.mpr h, Bool.and_false]

theorem isFailed_of_failed (h : call.stage = .failed) : call.isFailed u = (call.userId == u) := by
  rw [CodeCall.isFailed, h, BEq.rfl, Bool.and_true]

/-- A call that moves between stages other than `failed` leaves the unrecorded ones. -/
theorem unrecorded_move (hi : s.calls[i]? = some call) {stage : CodeStage}
    (hold : call.stage ≠ .failed) (hnew : stage ≠ .failed) :
    (s.move i call stage).unrecorded u = s.unrecorded u := by
  have hcount := countP_set_add { call with stage := stage } (CodeCall.isFailed u) hi
  rw [isFailed_of_ne hold, isFailed_of_ne hnew] at hcount
  exact hcount

theorem unrecorded_finish (hi : s.calls[i]? = some call) (hold : call.stage ≠ .failed) :
    (s.finish i).unrecorded u = s.unrecorded u := by
  have hcount := countP_eraseIdx_add (CodeCall.isFailed u) hi
  rw [isFailed_of_ne hold] at hcount
  exact hcount

/-- A code found wrong is one more to record. -/
theorem unrecorded_fail (hi : s.calls[i]? = some call) (hold : call.stage ≠ .failed) :
    (s.move i call .failed).unrecorded u = s.unrecorded u + if call.userId == u then 1 else 0 := by
  have hcount := countP_set_add { call with stage := .failed } (CodeCall.isFailed u) hi
  rw [isFailed_of_ne hold, isFailed_of_failed rfl] at hcount
  exact hcount

/-- What is recorded is one less to record. -/
theorem unrecorded_incr (hi : s.calls[i]? = some call) (hold : call.stage = .failed) :
    (s.incr i call).unrecorded u + (if call.userId == u then 1 else 0) = s.unrecorded u := by
  unfold incr
  dsimp only
  split
  · have hcount := countP_set_add { call with stage := .expiring } (CodeCall.isFailed u) hi
    have hnew : CodeCall.isFailed u { call with stage := .expiring } = false :=
      isFailed_of_ne CodeStage.noConfusion
    rw [isFailed_of_failed hold, hnew] at hcount
    exact hcount
  · have hcount := countP_eraseIdx_add (CodeCall.isFailed u) hi
    rw [isFailed_of_failed hold] at hcount
    exact hcount

theorem rejected_move (h : ∀ c ∈ s.calls, c.stage ≠ .accepted) {stage : CodeStage}
    (hto : stage ≠ .accepted) : ∀ c ∈ (s.move i call stage).calls, c.stage ≠ .accepted :=
  forall_mem_set h hto

theorem rejected_finish (h : ∀ c ∈ s.calls, c.stage ≠ .accepted) :
    ∀ c ∈ (s.finish i).calls, c.stage ≠ .accepted :=
  fun c hc => h c (List.mem_of_mem_eraseIdx hc)

theorem rejected_incr (h : ∀ c ∈ s.calls, c.stage ≠ .accepted) :
    ∀ c ∈ (s.incr i call).calls, c.stage ≠ .accepted := by
  unfold incr
  dsimp only
  split
  · exact rejected_move h CodeStage.noConfusion
  · exact rejected_finish h

theorem failures_incr : (s.incr i call).failures u =
    s.failures u + if call.userId == u then 1 else 0 := by
  have hfailures : (s.incr i call).failures =
      Function.update s.failures call.userId (s.failures call.userId + 1) := by
    unfold incr
    dsimp only
    split <;> rfl
  rw [hfailures]
  exact update_add_one s.failures call.userId u

theorem guesses_incr : (s.incr i call).guesses = s.guesses := by
  unfold incr
  dsimp only
  split <;> rfl

theorem counted_step (h : s.Counted) (hmove : Moves lib s e t) (hwrong : s.WrongCode lib e) :
    t.Counted := by
  cases hmove with
  | entered userId totpSecret code =>
    refine ⟨fun u => ?_, forall_mem_concat h.rejected CodeStage.noConfusion⟩
    have hnew : CodeCall.isFailed u ⟨userId, totpSecret, code, .entered⟩ = false :=
      isFailed_of_ne CodeStage.noConfusion
    rw [h.guesses u, unrecorded, unrecorded, List.countP_append, List.countP_singleton, hnew]
    rfl
  | got hi hstage =>
    refine ⟨fun u => ?_, rejected_move h.rejected CodeStage.noConfusion⟩
    rw [unrecorded_move hi (by rw [hstage]; exact CodeStage.noConfusion) CodeStage.noConfusion]
    exact h.guesses u
  | refused now hi hstage hcount =>
    refine ⟨fun u => ?_, rejected_finish h.rejected⟩
    rw [unrecorded_finish hi (by rw [hstage]; exact CodeStage.noConfusion)]
    exact h.guesses u
  | accepted hi hstage hvalid => simp [WrongCode, wrongCode, hi, hvalid] at hwrong
  | @guessed i count call now hi hstage hcount =>
    refine ⟨fun u => ?_, rejected_move h.rejected CodeStage.noConfusion⟩
    have hold : call.stage ≠ .failed := by
      rw [hstage]
      exact CodeStage.noConfusion
    calc Function.update s.guesses call.userId (s.guesses call.userId + 1) u
        = s.guesses u + if call.userId == u then 1 else 0 :=
          update_add_one s.guesses call.userId u
      _ = s.failures u + (s.unrecorded u + if call.userId == u then 1 else 0) := by
          rw [h.guesses u, Nat.add_assoc]
      _ = s.failures u + (s.move i call .failed).unrecorded u := by rw [unrecorded_fail hi hold]
  | @recorded i call hi hstage =>
    refine ⟨fun u => ?_, rejected_incr h.rejected⟩
    rw [guesses_incr, h.guesses u, ← unrecorded_incr hi hstage, failures_incr]
    omega
  | expired hi hstage =>
    refine ⟨fun u => ?_, rejected_finish h.rejected⟩
    have hleft := unrecorded_finish (u := u) hi (by rw [hstage]; exact CodeStage.noConfusion)
    exact (h.guesses u).trans (congrArg (s.failures u + ·) hleft.symm)
  | cleared t hi hstage => exact absurd hstage (h.rejected _ (List.mem_of_getElem? hi))

/-- A step keeps the bound exactly when a code it checks is below it. -/
theorem bounded_step_iff (hb : s.Bounded) (h : s.Counted) (hmove : Moves lib s e t)
    (hwrong : s.WrongCode lib e) : t.Bounded ↔ s.Below e := by
  cases hmove with
  | entered userId totpSecret code => exact iff_of_true hb rfl
  | got hi hstage => exact iff_of_true hb rfl
  | refused now hi hstage hcount =>
    refine iff_of_true hb ?_
    simp [Below, below, hi, hstage, hcount]
  | accepted hi hstage hvalid => simp [WrongCode, wrongCode, hi, hvalid] at hwrong
  | @guessed i count call now hi hstage hcount =>
    have hbelow : s.Below (.verifyToken i now) ↔ s.guesses call.userId < twoFaFailMaxAttempts := by
      rw [h.guesses call.userId]
      simp [Below, below, hi, hstage, hcount]
    rw [hbelow]
    constructor
    · intro ht
      have hone : Function.update s.guesses call.userId (s.guesses call.userId + 1) call.userId ≤
          twoFaFailMaxAttempts := ht call.userId
      rwa [Function.update_self] at hone
    · intro hlt u
      show Function.update s.guesses call.userId (s.guesses call.userId + 1) u ≤ _
      rw [update_add_one]
      split
      · rename_i hu
        rw [← beq_iff_eq.mp hu]
        exact hlt
      · exact hb u
  | recorded hi hstage =>
    refine iff_of_true (fun u => ?_) rfl
    rw [guesses_incr]
    exact hb u
  | expired hi hstage => exact iff_of_true hb rfl
  | cleared t hi hstage => exact absurd hstage (h.rejected _ (List.mem_of_getElem? hi))

/-- Without a valid code, no user's codes are guessed more than eight times in a window, exactly when
fewer than eight failures are recorded or under way whenever a code is checked. -/
theorem guesses_always_iff {es : List LockoutEvent}
    (hrun : Run (Guarded (Steps (step lib)) (WrongCode lib)) .start es t) :
    (∀ es₁ es₂ u, es = es₁ ++ es₂ →
        Run (Guarded (Steps (step lib)) (WrongCode lib)) .start es₁ u → u.Bounded) ↔
      Run (Guarded (Guarded (Steps (step lib)) (WrongCode lib)) Below) .start es t := by
  refine Run.always_iff_guarded_of (J := Counted) ?_ ?_ ?_ hrun ?_ ?_
  · intro s e t t' h h'
    exact Option.some.inj (h.1.symm.trans h'.1)
  · intro s e t _ hs hstep
    exact counted_step hs (moves_of_step hstep.1) hstep.2
  · intro s e t hb hs hstep
    exact bounded_step_iff hb hs (moves_of_step hstep.1) hstep.2
  · intro u
    exact Nat.zero_le _
  · exact ⟨fun u => rfl, fun c hc => absurd hc List.not_mem_nil⟩

end LockoutRun

/-! ## Nine calls -/

/-- One call after the other; the last one is refused. -/
def guessesInTurn : List LockoutEvent :=
  (List.range 9).flatMap fun n =>
    [.verify2faToken "user-1" "secret" "000000", .get 0, .verifyToken 0 0] ++
      (if n < 8 then [.incr 0] else []) ++ if n = 0 then [.expire 0] else []

/-- All of them read the count, and then their codes are checked. -/
def guessesAtOnce : List LockoutEvent :=
  (List.replicate 9 (.verify2faToken "user-1" "secret" "000000")) ++
    (List.range 9).map .get ++ (List.range 9).map fun i => .verifyToken i 0

theorem guesses_always_inTurn : ∃ t,
    Run (Guarded (Steps (LockoutRun.step spelledLibraries)) (LockoutRun.WrongCode spelledLibraries))
      .start guessesInTurn t ∧
    ∀ es₁ es₂ u, guessesInTurn = es₁ ++ es₂ →
      Run (Guarded (Steps (LockoutRun.step spelledLibraries))
        (LockoutRun.WrongCode spelledLibraries)) .start es₁ u → u.Bounded := by
  have hend : (guessesInTurn.foldlM (guardStep (LockoutRun.step spelledLibraries)
      fun s e => s.WrongCode spelledLibraries e ∧ s.Below e) .start).isSome = true := by
    decide +kernel
  obtain ⟨t, ht⟩ := Option.isSome_iff_exists.mp hend
  have hrun : Run (Guarded (Guarded (Steps (LockoutRun.step spelledLibraries))
      (LockoutRun.WrongCode spelledLibraries)) LockoutRun.Below) .start guessesInTurn t :=
    (Run.of_guardStep ht).mono fun h => ⟨⟨h.1, h.2.1⟩, h.2.2⟩
  exact ⟨t, hrun.of_guarded, (LockoutRun.guesses_always_iff hrun.of_guarded).mpr hrun⟩

/-- Nine codes are guessed in a window. -/
theorem guesses_atOnce :
    ¬∀ (es : List LockoutEvent) (t : LockoutRun),
      Run (Guarded (Steps (LockoutRun.step spelledLibraries))
        (LockoutRun.WrongCode spelledLibraries)) .start es t → t.Bounded := by
  intro hclaim
  have hend : (guessesAtOnce.foldlM (guardStep (LockoutRun.step spelledLibraries)
      fun s e => s.WrongCode spelledLibraries e) .start).any (fun t => t.guesses "user-1" == 9)
        = true := by
    decide +kernel
  obtain ⟨t, ht, hnine⟩ := (Option.any_eq_true _ _).mp hend
  have hbound := hclaim guessesAtOnce t (Run.of_guardStep ht) "user-1"
  rw [beq_iff_eq.mp hnine] at hbound
  exact absurd hbound (by decide)

end DeliveryTracking.Auth
