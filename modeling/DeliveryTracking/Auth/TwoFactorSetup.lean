/-
# `DeliveryTracking.Auth.TwoFactorSetup` — which secret the second factor is

Three requests set the second factor of a user up.  Each reads the row, decides,
and writes some columns of it by the id:

    generate2fa   not enabled yet          totpSecret  := the new secret
    verify2fa     the code fits the secret totpEnabled := true
    disable2fa    enabled, the code fits   totpEnabled := false, totpSecret := null

No write asks whether the row is still the one that was read.  The second factor
that is enabled is the one whose code was checked, and stays so until it is
disabled, exactly in the runs where each write finds what it relies on
(`secret_bound_iff`).
-/
import DeliveryTracking.Runs
import DeliveryTracking.Auth.Login

namespace DeliveryTracking.Auth

/-! ## Requests -/

/-- The columns of the second factor in the row of a user. -/
structure SecondFactor where
  totpSecret : Option String
  totpEnabled : Bool
  deriving DecidableEq, Repr

inductive SetupRequest where
  | generate2fa
  | verify2fa (token : String)
  | disable2fa (token : String)
  deriving DecidableEq, Repr

inductive SetupError where
  | userNotFound
  | alreadyEnabled
  | notSetUp
  | invalidToken
  | notEnabled
  /-- `speakeasy` without a secret. -/
  | missingSecret
  deriving DecidableEq, Repr

def SetupError.message : SetupError → String
  | .userNotFound => "User not found"
  | .alreadyEnabled => "2FA is already enabled. Disable it first to regenerate."
  | .notSetUp => "2FA not set up. Generate a secret first."
  | .invalidToken => "Invalid 2FA token"
  | .notEnabled => "2FA is not enabled"
  | .missingSecret => "Internal server error"

/-- The columns a request writes. -/
inductive SetupWrite where
  | generate (secret : String)
  /-- The code passed for this secret at this time; only `totpEnabled` is written. -/
  | enable (totpSecret : String) (checkedAt : Nat)
  | disable
  deriving DecidableEq, Repr

def SetupWrite.apply : SetupWrite → SecondFactor → SecondFactor
  | .generate secret, row => { row with totpSecret := some secret }
  | .enable _ _, row => { row with totpEnabled := true }
  | .disable, _ => ⟨none, false⟩

/-- What a write relies on: no second factor is enabled where a secret is stored, and what is
enabled is the secret of the code. -/
def SetupWrite.fits (w : SetupWrite) (row : SecondFactor) : Bool :=
  match w with
  | .generate secret => !row.totpEnabled || row.totpSecret == some secret
  | .enable totpSecret _ => row.totpEnabled || row.totpSecret == some totpSecret
  | .disable => true

/-- What a request decides on the row it reads; `generated` is the secret of `generateSecret`. -/
def SetupRequest.decide (lib : Libraries) (row : Option SecondFactor) (now : Nat)
    (generated : String) : SetupRequest → Except SetupError SetupWrite
  | .generate2fa =>
    match row with
    | none => .error .userNotFound
    | some user => if user.totpEnabled then .error .alreadyEnabled else .ok (.generate generated)
  | .verify2fa token =>
    match row.bind fun user => truthy user.totpSecret with
    | none => .error .notSetUp
    | some totpSecret =>
      if lib.totpVerify totpSecret token now then .ok (.enable totpSecret now)
      else .error .invalidToken
  | .disable2fa token =>
    match row.filter SecondFactor.totpEnabled with
    | none => .error .notEnabled
    | some user =>
      match user.totpSecret with
      | none => .error .missingSecret
      | some totpSecret =>
        if lib.totpVerify totpSecret token now then .ok .disable else .error .invalidToken

/-! ## Requests together -/

inductive SetupStage where
  | entered
  | writing (w : SetupWrite)
  | answered (error : Option SetupError)
  deriving DecidableEq, Repr

structure SetupCall where
  userId : String
  request : SetupRequest
  stage : SetupStage
  deriving DecidableEq, Repr

inductive SetupEvent where
  | request (userId : String) (r : SetupRequest)
  | findUnique (i now : Nat) (generated : String)
  | update (i : Nat)
  deriving DecidableEq, Repr

structure SetupRun where
  rows : String → Option SecondFactor
  calls : List SetupCall

namespace SetupRun

variable (lib : Libraries) (s : SetupRun)

def start (rows : String → Option SecondFactor) : SetupRun := ⟨rows, []⟩

def move (i : Nat) (call : SetupCall) (stage : SetupStage) : SetupRun :=
  { s with calls := s.calls.set i { call with stage := stage } }

/-- The stage of a request that has read the row of its user. -/
def decided (call : SetupCall) (now : Nat) (generated : String) : SetupStage :=
  match call.request.decide lib (s.rows call.userId) now generated with
  | .ok w => .writing w
  | .error e => .answered (some e)

/-- An update by the id. -/
def write (i : Nat) (call : SetupCall) (w : SetupWrite) : SetupRun :=
  { s.move i call (.answered none) with
    rows := Function.update s.rows call.userId ((s.rows call.userId).map w.apply) }

def step : SetupEvent → Option SetupRun
  | .request userId r => some { s with calls := s.calls ++ [⟨userId, r, .entered⟩] }
  | .findUnique i now generated =>
    match s.calls[i]? with
    | some call =>
      if call.stage = .entered then some (s.move i call (s.decided lib call now generated)) else none
    | none => none
  | .update i =>
    match s.calls[i]? with
    | some call =>
      match call.stage with
      | .writing w => some (s.write i call w)
      | _ => none
    | none => none

/-- The write of a request of the user comes next. -/
def Writes (userId : String) (e : SetupEvent) (request : SetupRequest) (w : SetupWrite) : Prop :=
  ∃ i, e = .update i ∧ s.calls[i]? = some ⟨userId, request, .writing w⟩

/-- A step binds the second factor to the secret: what becomes enabled is the secret a submitted code
passed for, and what is enabled changes only when it is disabled. -/
structure Binds (s : SetupRun) (e : SetupEvent) (t : SetupRun) : Prop where
  enabled : ∀ userId row row', s.rows userId = some row → t.rows userId = some row' →
    row.totpEnabled = false → row'.totpEnabled = true →
      ∃ token totpSecret now, s.Writes userId e (.verify2fa token) (.enable totpSecret now) ∧
        lib.totpVerify totpSecret token now = true ∧ row'.totpSecret = some totpSecret
  kept : ∀ userId row row', s.rows userId = some row → t.rows userId = some row' →
    row.totpEnabled = true → row'.totpSecret ≠ row.totpSecret →
      ∃ token, s.Writes userId e (.disable2fa token) .disable

def fits : SetupEvent → Bool
  | .update i => s.calls[i]?.all fun call =>
    match call.stage with
    | .writing w => (s.rows call.userId).all (SetupWrite.fits w)
    | _ => true
  | _ => true

def Fits (s : SetupRun) (e : SetupEvent) : Prop := s.fits e = true

instance (e : SetupEvent) : Decidable (s.Fits e) := inferInstanceAs (Decidable (_ = true))

/-- What is written was decided by the request. -/
def Decided (s : SetupRun) : Prop :=
  ∀ call ∈ s.calls, ∀ w, call.stage = .writing w →
    ∃ row now generated, call.request.decide lib row now generated = .ok w

/-! ## One step -/

/-- What a step does. -/
inductive Moves (lib : Libraries) (s : SetupRun) : SetupEvent → SetupRun → Prop
  | requested (userId : String) (r : SetupRequest) :
      Moves lib s (.request userId r) { s with calls := s.calls ++ [⟨userId, r, .entered⟩] }
  | decided {i : Nat} {call : SetupCall} (now : Nat) (generated : String)
      (hi : s.calls[i]? = some call) :
      Moves lib s (.findUnique i now generated) (s.move i call (s.decided lib call now generated))
  | written {i : Nat} {call : SetupCall} {w : SetupWrite} (hi : s.calls[i]? = some call)
      (hstage : call.stage = .writing w) : Moves lib s (.update i) (s.write i call w)

variable {lib : Libraries} {s t : SetupRun} {e : SetupEvent}

theorem moves_of_step (h : s.step lib e = some t) : Moves lib s e t := by
  cases e with
  | request userId r =>
    cases h
    exact .requested userId r
  | findUnique i now generated =>
    rw [step] at h
    split at h
    · rename_i call hi
      obtain ⟨-, heq⟩ := Option.ite_none_right_eq_some.mp h
      cases heq
      exact .decided now generated hi
    · cases h
  | update i =>
    rw [step] at h
    split at h
    · rename_i call hi
      split at h
      · rename_i w hstage
        cases h
        exact .written hi hstage
      · cases h
    · cases h

/-- What each request writes: an enabling is of a secret that its code passed for. -/
theorem decide_eq_ok {request : SetupRequest} {row : Option SecondFactor} {now : Nat}
    {generated : String} {w : SetupWrite} (h : request.decide lib row now generated = .ok w) :
    w = .generate generated ∨
      (∃ token totpSecret, request = .verify2fa token ∧ w = .enable totpSecret now ∧
        lib.totpVerify totpSecret token now = true) ∨
      ∃ token, request = .disable2fa token ∧ w = .disable := by
  unfold SetupRequest.decide at h
  cases request with
  | generate2fa =>
    dsimp only at h
    split at h
    · cases h
    · split at h
      · cases h
      · cases h
        exact Or.inl rfl
  | verify2fa token =>
    dsimp only at h
    split at h
    · cases h
    · rename_i totpSecret _
      split at h
      · rename_i hvalid
        cases h
        exact Or.inr (Or.inl ⟨token, totpSecret, rfl, rfl, hvalid⟩)
      · cases h
  | disable2fa token =>
    dsimp only at h
    split at h
    · cases h
    · split at h
      · cases h
      · split at h
        · cases h
          exact Or.inr (Or.inr ⟨token, rfl, rfl⟩)
        · cases h

theorem decided_step (hs : s.Decided lib) (hmove : Moves lib s e t) : t.Decided lib := by
  cases hmove with
  | requested userId r => exact forall_mem_concat hs fun w hw => (by cases hw)
  | @decided i call now generated hi =>
    refine forall_mem_set hs fun w hw => ?_
    dsimp only at hw
    unfold SetupRun.decided at hw
    split at hw
    · rename_i v hdecide
      obtain rfl : v = w := SetupStage.writing.inj hw
      exact ⟨s.rows call.userId, now, generated, hdecide⟩
    · cases hw
  | written hi hstage => exact forall_mem_set hs fun w hw => (by cases hw)

/-- A step that leaves the rows binds. -/
theorem binds_of_rows_eq (h : t.rows = s.rows) : Binds lib s e t := by
  refine ⟨?_, ?_⟩
  · intro userId row row' hrow hrow' hoff hon
    rw [h, hrow] at hrow'
    cases hrow'
    rw [hoff] at hon
    cases hon
  · intro userId row row' hrow hrow' _ hchanged
    rw [h, hrow] at hrow'
    cases hrow'
    exact absurd rfl hchanged

variable {i : Nat} {userId : String} {request : SetupRequest} {w : SetupWrite} {row row' : SecondFactor}

theorem rows_write_self {c : SetupCall} (hrow : s.rows c.userId = some row) :
    (s.write i c w).rows c.userId = some (w.apply row) := by
  show Function.update s.rows c.userId ((s.rows c.userId).map w.apply) c.userId = _
  rw [Function.update_self, hrow, Option.map_some]

/-- The row of the user after an update, and the one of anybody else. -/
theorem row_of_write {call : SetupCall} (hrow : s.rows userId = some row)
    (hrow' : (s.write i call w).rows userId = some row') :
    (userId = call.userId ∧ row' = w.apply row) ∨ row' = row := by
  have hwritten : Function.update s.rows call.userId ((s.rows call.userId).map w.apply) userId =
      some row' := hrow'
  rw [Function.update_apply] at hwritten
  split at hwritten
  · rename_i hid
    rw [← hid, hrow] at hwritten
    exact Or.inl ⟨hid, (Option.some.inj hwritten).symm⟩
  · exact Or.inr (Option.some.inj (hwritten.symm.trans hrow))

/-- An update that finds what it relies on binds. -/
theorem binds_of_fits (hs : s.Decided lib) (hi : s.calls[i]? = some ⟨userId, request, .writing w⟩)
    (hfits : (s.rows userId).all w.fits = true) :
    Binds lib s (.update i) (s.write i ⟨userId, request, .writing w⟩ w) := by
  obtain ⟨read, now, generated, hdecide⟩ := hs _ (List.mem_of_getElem? hi) w rfl
  refine ⟨?_, ?_⟩
  · intro userId' row row' hrow hrow' hoff hon
    rcases row_of_write hrow hrow' with ⟨hid, rfl⟩ | rfl
    · obtain rfl : userId' = userId := hid
      rw [hrow, Option.all_some] at hfits
      rcases decide_eq_ok hdecide with rfl | ⟨token, totpSecret, rfl, rfl, hvalid⟩ | ⟨token, -, rfl⟩
      · exact absurd hon (by simp [SetupWrite.apply, hoff])
      · have hsame : row.totpSecret = some totpSecret := by
          simpa [SetupWrite.fits, hoff] using hfits
        exact ⟨token, totpSecret, now, ⟨i, rfl, hi⟩, hvalid, hsame⟩
      · cases hon
    · rw [hoff] at hon
      cases hon
  · intro userId' row row' hrow hrow' hon hchanged
    rcases row_of_write hrow hrow' with ⟨hid, rfl⟩ | rfl
    · obtain rfl : userId' = userId := hid
      rw [hrow, Option.all_some] at hfits
      rcases decide_eq_ok hdecide with rfl | ⟨token, totpSecret, -, rfl, -⟩ | ⟨token, rfl, rfl⟩
      · have hsame : row.totpSecret = some generated := by
          simpa [SetupWrite.fits, hon] using hfits
        exact absurd hsame.symm hchanged
      · exact absurd rfl hchanged
      · exact ⟨token, i, rfl, hi⟩
    · exact absurd rfl hchanged

/-- An update that binds finds what it relies on. -/
theorem fits_of_binds (hi : s.calls[i]? = some ⟨userId, request, .writing w⟩)
    (hbinds : Binds lib s (.update i) (s.write i ⟨userId, request, .writing w⟩ w)) :
    (s.rows userId).all w.fits = true := by
  have hunique : ∀ {request' w'}, s.Writes userId (.update i) request' w' → w' = w := by
    rintro request' w' ⟨j, hij, hj⟩
    cases hij
    rw [hi] at hj
    cases hj
    rfl
  cases hrow : s.rows userId with
  | none => rfl
  | some row =>
    have hrow' := rows_write_self (i := i) (w := w) (c := ⟨userId, request, .writing w⟩) hrow
    rw [Option.all_some]
    cases w with
    | generate secret =>
      cases hon : row.totpEnabled with
      | false => simp [SetupWrite.fits, hon]
      | true =>
        have hsame : row.totpSecret = some secret := by
          by_contra hne
          obtain ⟨token, hwrites⟩ := hbinds.kept userId row _ hrow hrow' hon (Ne.symm hne)
          cases hunique hwrites
        simp [SetupWrite.fits, hsame]
    | enable totpSecret now =>
      cases hon : row.totpEnabled with
      | true => simp [SetupWrite.fits, hon]
      | false =>
        obtain ⟨token, totpSecret', now', hwrites, -, hsecret⟩ :=
          hbinds.enabled userId row _ hrow hrow' hon rfl
        cases hunique hwrites
        have hsame : row.totpSecret = some totpSecret := hsecret
        simp [SetupWrite.fits, hsame]
    | disable => rfl

theorem binds_step_iff (hs : s.Decided lib) (hmove : Moves lib s e t) :
    Binds lib s e t ↔ s.Fits e := by
  cases hmove with
  | requested userId r => exact iff_of_true (binds_of_rows_eq rfl) rfl
  | decided now generated hi => exact iff_of_true (binds_of_rows_eq rfl) rfl
  | @written i call w hi hstage =>
    obtain ⟨userId, request, stage⟩ := call
    obtain rfl : stage = .writing w := hstage
    have hfits : s.Fits (.update i) ↔ (s.rows userId).all w.fits = true := by
      simp only [Fits, fits, hi, Option.all_some]
    rw [hfits]
    exact ⟨fits_of_binds hi, binds_of_fits hs hi⟩

/-- **Each step of a run binds the second factor to the secret whose code was checked exactly when each
update finds what it relies on: a secret is not stored over one that is enabled, and what is enabled
is the secret of the code.** -/
theorem secret_bound_iff {rows : String → Option SecondFactor} {es : List SetupEvent} :
    Run (fun s e t => Steps (step lib) s e t ∧ Binds lib s e t) (start rows) es t ↔
      Run (Guarded (Steps (step lib)) Fits) (start rows) es t := by
  refine Run.each_iff_guarded (I := Decided lib) (Q := Binds lib) ?_ ?_ ?_
  · intro s e t hs hstep
    exact decided_step hs (moves_of_step hstep)
  · intro s e t hs hstep
    exact binds_step_iff hs (moves_of_step hstep)
  · intro call hcall
    exact absurd hcall List.not_mem_nil

/-- The second factor of the user is not disabled next. -/
def Leaves (userId : String) (s : SetupRun) (e : SetupEvent) : Prop :=
  ∀ request, ¬s.Writes userId e request .disable

/-- From then on an enabled second factor is the same, while it is not disabled. -/
theorem enabled_stays {es : List SetupEvent}
    (hrun : Run (Guarded (Guarded (Steps (step lib)) Fits) (Leaves userId)) s es t)
    (hrow : s.rows userId = some row) (hon : row.totpEnabled = true) : t.rows userId = some row := by
  refine hrun.invariant (I := fun s => s.rows userId = some row) ?_ hrow
  rintro s e t hrow ⟨⟨hstep, hfits⟩, hleaves⟩
  cases moves_of_step hstep with
  | requested userId' r => exact hrow
  | decided now generated hi => exact hrow
  | @written i call w hi hstage =>
    by_cases hid : userId = call.userId
    · subst hid
      rw [rows_write_self hrow]
      have hall : w.fits row = true := by
        simpa only [Fits, fits, hi, hstage, hrow, Option.all_some] using hfits
      cases w with
      | generate secret =>
        have hsame : row.totpSecret = some secret := by simpa [SetupWrite.fits, hon] using hall
        rw [SetupWrite.apply, ← hsame]
      | enable totpSecret now => rw [SetupWrite.apply, ← hon]
      | disable =>
        refine absurd ⟨i, rfl, ?_⟩ (hleaves call.request)
        rw [hi, ← hstage]
    · show Function.update s.rows call.userId _ userId = _
      rw [Function.update_of_ne hid]
      exact hrow

end SetupRun

/-! ### A second secret, generated while the first one is verified -/

/-- A user without a second factor. -/
def withoutSecondFactor : SetupRun :=
  .start (Function.update (fun _ => none) "user-1" (some ⟨none, false⟩))

/-- Two tabs generate a secret each, and the code is of the first one. -/
def generateTwice : List SetupEvent :=
  [.request "user-1" .generate2fa, .findUnique 0 0 "secret-1", .update 0,
    .request "user-1" .generate2fa, .findUnique 1 0 "secret-2",
    .request "user-1" (.verify2fa "code of secret-1"), .findUnique 2 0 "", .update 1]

/-- The second secret is enabled with the code of the first. -/
theorem generateTwice_unbinds : ∃ s t,
    Run (Steps (SetupRun.step spelledLibraries)) withoutSecondFactor generateTwice s ∧
      Steps (SetupRun.step spelledLibraries) s (.update 2) t ∧
        t.rows "user-1" = some ⟨some "secret-2", true⟩ ∧
          ¬SetupRun.Binds spelledLibraries s (.update 2) t := by
  have hend : (generateTwice.foldlM (SetupRun.step spelledLibraries) withoutSecondFactor).any
      (fun s => decide (s.rows "user-1" = some ⟨some "secret-2", false⟩ ∧
        s.calls[2]? = some
          ⟨"user-1", .verify2fa "code of secret-1", .writing (.enable "secret-1" 0)⟩)) = true := by
    decide +kernel
  obtain ⟨s, hrun, hs⟩ := Run.of_foldlM_any hend
  obtain ⟨hrow, hcall⟩ := of_decide_eq_true hs
  have hrow' := SetupRun.rows_write_self (i := 2) (w := .enable "secret-1" 0)
    (c := ⟨"user-1", .verify2fa "code of secret-1", .writing (.enable "secret-1" 0)⟩) hrow
  refine ⟨s, _, hrun, ?_, hrow', fun hbinds => ?_⟩
  · show s.step spelledLibraries (.update 2) = _
    rw [SetupRun.step, hcall]
  · obtain ⟨token, totpSecret, now, ⟨i, hi, hwrites⟩, -, hsecret⟩ :=
      hbinds.enabled "user-1" _ _ hrow hrow' rfl rfl
    cases hi
    rw [hcall] at hwrites
    cases hwrites
    exact absurd hsecret (by decide)

end DeliveryTracking.Auth
