/-
# `DeliveryTracking.Billing.Invoices` — invoices of concurrent webhooks

`createInvoice` is three database calls, and the calls of several webhooks
interleave:

    findUnique    an invoice of the provider id ends the call
    count         all invoices; one more is in the number
    create        refused when the number or the provider id is taken

Invoices are only added, so what was not there at the lookup or at the count came
since.  A call is refused exactly when, before its create, another one added an
invoice of its provider id since its lookup, or one of its number since its count
(`invoices_always_iff`).  A number of another count is another number
(`invoiceNumberOf_injective`).
-/
import DeliveryTracking.Runs
import DeliveryTracking.Billing.Subscription

namespace DeliveryTracking.Billing

open Calendar

/-! ## Numbers -/

/-- The number of the `n`-th invoice. -/
def invoiceNumberOf (year : Int) (n : Nat) : String :=
  "INV-" ++ toString year ++ "-" ++ String.ofList (List.leftpad 5 '0' (toString n).toList)

/-- The characters after the last dash. -/
def afterDash (l : List Char) : List Char := (l.reverse.takeWhile (· != '-')).reverse

theorem afterDash_append (l : List Char) {digits : List Char} (h : '-' ∉ digits) :
    afterDash (l ++ '-' :: digits) = digits := by
  have hdigits : ∀ c ∈ digits.reverse, (c != '-') = true := by
    intro c hc
    rw [bne_iff_ne]
    rintro rfl
    exact h (List.mem_reverse.mp hc)
  rw [afterDash, List.reverse_append, List.reverse_cons, List.append_assoc,
    List.takeWhile_append_of_pos hdigits]
  simp

theorem dash_notMem_leftpad (n : Nat) : '-' ∉ List.leftpad 5 '0' (Nat.toDigits 10 n) := by
  rw [List.leftpad, List.mem_append, List.mem_replicate]
  rintro (⟨-, hzero⟩ | hdigit)
  · exact absurd hzero (by decide)
  · exact absurd (Nat.isDigit_of_mem_toDigits (by decide) (by decide) hdigit) (by decide)

theorem toList_invoiceNumberOf (year : Int) (n : Nat) : (invoiceNumberOf year n).toList =
    ("INV-".toList ++ (toString year).toList) ++ '-' :: List.leftpad 5 '0' (Nat.toDigits 10 n) := by
  simp [invoiceNumberOf, Nat.toString_eq_repr]

/-- A number tells which invoice it is of. -/
theorem invoiceNumberOf_injective {year year' : Int} {n n' : Nat}
    (h : invoiceNumberOf year n = invoiceNumberOf year' n') : n = n' := by
  have hlists := congrArg (afterDash ·.toList) h
  simp only [toList_invoiceNumberOf, afterDash_append _ (dash_notMem_leftpad _)] at hlists
  have hvalues := congrArg (Nat.ofDigitChars 10 · 0) hlists
  simpa [List.leftpad, Nat.ofDigitChars_append, Nat.ofDigitChars_replicate_zero] using hvalues

/-! ## Calls -/

structure InvoiceKey where
  invoiceNumber : String
  providerInvoiceId : Option String
  deriving DecidableEq, Repr

def Invoice.key (i : Invoice) : InvoiceKey := ⟨i.invoiceNumber, i.providerInvoiceId⟩

/-- Two rows break one of the two constraints. -/
def InvoiceKey.Clash (k l : InvoiceKey) : Prop :=
  k.invoiceNumber = l.invoiceNumber ∨ Taken k.providerInvoiceId l.providerInvoiceId

instance : DecidableRel InvoiceKey.Clash := fun _ _ => inferInstanceAs (Decidable (_ ∨ _))

abbrev InvoiceTable := Table Invoice.key InvoiceKey.Clash

/-- Where a call of `createInvoice` stands; `lookedAt` and `countedAt` are the invoices there were at
its lookup and at its count. -/
inductive InvoiceStage where
  | looking
  | counting (lookedAt : Nat)
  | creating (lookedAt countedAt : Nat) (invoiceNumber : String)
  deriving DecidableEq, Repr

structure InvoiceCall where
  companyId : String
  amount : Int
  currency : String
  provider : BillingProvider
  providerInvoiceId : Option String
  stage : InvoiceStage
  deriving DecidableEq, Repr

inductive InvoiceEvent where
  | createInvoice (companyId : String) (amount : Int) (currency : String)
      (provider : BillingProvider) (providerInvoiceId : Option String)
  | findUnique (i : Nat)
  | count (i : Nat) (now : Int)
  | create (i : Nat) (now : Int)
  deriving DecidableEq, Repr

structure InvoiceRun where
  invoices : InvoiceTable
  calls : List InvoiceCall
  /-- The calls that returned an invoice. -/
  answered : List InvoiceCall
  /-- The calls that failed on a unique constraint. -/
  refused : List InvoiceCall

def InvoiceRun.start : InvoiceRun := ⟨.empty, [], [], []⟩

/-- `if (providerInvoiceId)`: an empty id is not looked up. -/
def firstStage (providerInvoiceId : Option String) : InvoiceStage :=
  if providerInvoiceId.any (· != "") then .looking else .counting 0

/-- The row of a call. -/
def InvoiceCall.invoice (c : InvoiceCall) (invoiceNumber : String) (now : Int) : Invoice :=
  { companyId := c.companyId, invoiceNumber := invoiceNumber, amount := c.amount
    currency := c.currency, provider := c.provider, providerInvoiceId := c.providerInvoiceId
    paidAt := now }

namespace InvoiceRun

variable (s : InvoiceRun)

def move (i : Nat) (call : InvoiceCall) (stage : InvoiceStage) : InvoiceRun :=
  { s with calls := s.calls.set i { call with stage := stage } }

/-- A call returns an invoice. -/
def answer (i : Nat) (call : InvoiceCall) (invoices : InvoiceTable) : InvoiceRun :=
  { s with invoices := invoices, calls := s.calls.eraseIdx i, answered := s.answered ++ [call] }

def refuse (i : Nat) (call : InvoiceCall) : InvoiceRun :=
  { s with calls := s.calls.eraseIdx i, refused := s.refused ++ [call] }

def step : InvoiceEvent → Option InvoiceRun
  | .createInvoice companyId amount currency provider providerInvoiceId =>
    some { s with calls := s.calls ++ [⟨companyId, amount, currency, provider, providerInvoiceId,
      firstStage providerInvoiceId⟩] }
  | .findUnique i =>
    match s.calls[i]? with
    | some call =>
      match call.stage with
      | .looking =>
        if s.invoices.rows.any (·.providerInvoiceId == call.providerInvoiceId) then
          some (s.answer i call s.invoices)
        else some (s.move i call (.counting s.invoices.rows.length))
      | _ => none
    | none => none
  | .count i now =>
    match s.calls[i]? with
    | some call =>
      match call.stage with
      | .counting lookedAt =>
        let count := s.invoices.rows.length
        some (s.move i call
          (.creating lookedAt count (invoiceNumberOf (getUTCFullYear now) (count + 1))))
      | _ => none
    | none => none
  | .create i now =>
    match s.calls[i]? with
    | some call =>
      match call.stage with
      | .creating _ _ invoiceNumber =>
        match s.invoices.create (call.invoice invoiceNumber now) with
        | some invoices => some (s.answer i call invoices)
        | none => some (s.refuse i call)
      | _ => none
    | none => none

/-! ## What it promises -/

/-- No call was refused, the numbers are distinct, and each provider id that was answered has one
invoice. -/
structure Accounted (s : InvoiceRun) : Prop where
  refused : s.refused = []
  numbers : (s.invoices.rows.map Invoice.invoiceNumber).Nodup
  single : ∀ c ∈ s.answered, ∀ id, c.providerInvoiceId = some id →
    s.invoices.rows.countP (·.providerInvoiceId == some id) = 1

def undisturbed : InvoiceEvent → Bool
  | .create i _ => s.calls[i]?.all fun call =>
    match call.stage with
    | .creating lookedAt countedAt invoiceNumber =>
      (call.providerInvoiceId.isNone || (s.invoices.rows.drop lookedAt).all fun row =>
          row.providerInvoiceId != call.providerInvoiceId) &&
        (s.invoices.rows.drop countedAt).all fun row => row.invoiceNumber != invoiceNumber
    | _ => true
  | _ => true

/-- A call that is about to create found no invoice of its provider id at its lookup, and none was
added since; none of its number was added since its count. -/
def Undisturbed (s : InvoiceRun) (e : InvoiceEvent) : Prop := s.undisturbed e = true

instance (e : InvoiceEvent) : Decidable (s.Undisturbed e) := inferInstanceAs (Decidable (_ = true))

/-! ## What is known of the calls -/

/-- No invoice there at the lookup is of the provider id. -/
structure LookedUp (rows : List Invoice) (providerInvoiceId : Option String) (lookedAt : Nat) :
    Prop where
  past : lookedAt ≤ rows.length
  missing : ∀ row ∈ rows.take lookedAt, ¬Taken row.providerInvoiceId providerInvoiceId

/-- What a call knows of the invoices. -/
def CallTracked (rows : List Invoice) (c : InvoiceCall) : Prop :=
  match c.stage with
  | .looking => True
  | .counting lookedAt => LookedUp rows c.providerInvoiceId lookedAt
  | .creating lookedAt countedAt invoiceNumber =>
      LookedUp rows c.providerInvoiceId lookedAt ∧
      countedAt ≤ rows.length ∧ ∃ year, invoiceNumber = invoiceNumberOf year (countedAt + 1)

structure Tracked (s : InvoiceRun) : Prop where
  /-- The number of a row is of an earlier count. -/
  numbered : ∀ k row, s.invoices.rows[k]? = some row →
    ∃ year n, n ≤ k ∧ row.invoiceNumber = invoiceNumberOf year (n + 1)
  calls : ∀ c ∈ s.calls, CallTracked s.invoices.rows c
  answered : ∀ c ∈ s.answered, ∀ id, c.providerInvoiceId = some id →
    ∃ row ∈ s.invoices.rows, row.providerInvoiceId = some id

theorem LookedUp.append {rows : List Invoice} {providerInvoiceId : Option String} {lookedAt : Nat}
    (h : LookedUp rows providerInvoiceId lookedAt) (row : Invoice) :
    LookedUp (rows ++ [row]) providerInvoiceId lookedAt := by
  refine ⟨h.past.trans (by simp), ?_⟩
  rw [List.take_append_of_le_length h.past]
  exact h.missing

theorem CallTracked.append {rows : List Invoice} {c : InvoiceCall} (h : CallTracked rows c)
    (row : Invoice) : CallTracked (rows ++ [row]) c := by
  unfold CallTracked at h ⊢
  split
  · trivial
  · rename_i lookedAt hstage
    rw [hstage] at h
    exact LookedUp.append h row
  · rename_i lookedAt countedAt invoiceNumber hstage
    rw [hstage] at h
    exact ⟨h.1.append row, h.2.1.trans (by simp), h.2.2⟩

/-- A number formed at a count is of no invoice there at the count. -/
theorem Tracked.number_free {s : InvoiceRun} (h : s.Tracked) {year : Int} {n : Nat}
    (row : Invoice) (hrow : row ∈ s.invoices.rows.take n) :
    row.invoiceNumber ≠ invoiceNumberOf year (n + 1) := by
  obtain ⟨k, hk, rfl⟩ := List.mem_take_iff_getElem.mp hrow
  obtain ⟨year', n', hle, hnumber⟩ := h.numbered k _ (List.getElem?_eq_getElem (by omega))
  rw [hnumber]
  intro heq
  have hsame := invoiceNumberOf_injective heq
  omega

theorem numbers_nodup (t : InvoiceTable) : (t.rows.map Invoice.invoiceNumber).Nodup := by
  refine List.pairwise_map.mpr (t.unique.imp ?_)
  intro a b hfree heq
  exact hfree (.inl heq)

/-- An answered provider id has one invoice. -/
theorem Tracked.single {s : InvoiceRun} (h : s.Tracked) {c : InvoiceCall} (hc : c ∈ s.answered)
    {id : String} (hid : c.providerInvoiceId = some id) :
    s.invoices.rows.countP (·.providerInvoiceId == some id) = 1 := by
  obtain ⟨row, hrow, hrowid⟩ := h.answered c hc id hid
  have hsome : 0 < s.invoices.rows.countP (·.providerInvoiceId == some id) :=
    List.countP_pos_iff.mpr ⟨row, hrow, beq_iff_eq.mpr hrowid⟩
  have hone : s.invoices.rows.countP (·.providerInvoiceId == some id) ≤ 1 := by
    refine Table.countP_le_one_iff.mpr (s.invoices.unique.imp ?_)
    intro a b hfree hboth
    refine hfree (.inr ?_)
    show Taken a.providerInvoiceId b.providerInvoiceId
    rw [beq_iff_eq.mp hboth.1, beq_iff_eq.mp hboth.2]
    exact taken_some_some.mpr rfl
  omega

theorem Tracked.accounted_iff {s : InvoiceRun} (h : s.Tracked) : s.Accounted ↔ s.refused = [] :=
  ⟨Accounted.refused, fun hnone =>
    ⟨hnone, numbers_nodup s.invoices, fun _ hc _ hid => h.single hc hid⟩⟩

/-! ## One step -/

/-- What a step does. -/
inductive Moves (s : InvoiceRun) : InvoiceEvent → InvoiceRun → Prop
  | begin (companyId : String) (amount : Int) (currency : String) (provider : BillingProvider)
      (providerInvoiceId : Option String) :
      Moves s (.createInvoice companyId amount currency provider providerInvoiceId)
        { s with calls := s.calls ++ [⟨companyId, amount, currency, provider, providerInvoiceId,
          firstStage providerInvoiceId⟩] }
  | found {i : Nat} {call : InvoiceCall} (hi : s.calls[i]? = some call)
      (hrow : ∃ row ∈ s.invoices.rows, row.providerInvoiceId = call.providerInvoiceId) :
      Moves s (.findUnique i) (s.answer i call s.invoices)
  | missing {i : Nat} {call : InvoiceCall} (hi : s.calls[i]? = some call)
      (hnone : ∀ row ∈ s.invoices.rows, row.providerInvoiceId ≠ call.providerInvoiceId) :
      Moves s (.findUnique i) (s.move i call (.counting s.invoices.rows.length))
  | counted {i lookedAt : Nat} {call : InvoiceCall} (now : Int) (hi : s.calls[i]? = some call)
      (hstage : call.stage = .counting lookedAt) :
      Moves s (.count i now) (s.move i call (.creating lookedAt s.invoices.rows.length
        (invoiceNumberOf (getUTCFullYear now) (s.invoices.rows.length + 1))))
  | created {i lookedAt countedAt : Nat} {invoiceNumber : String} {call : InvoiceCall}
      {invoices : InvoiceTable} (now : Int) (hi : s.calls[i]? = some call)
      (hstage : call.stage = .creating lookedAt countedAt invoiceNumber)
      (hcreate : s.invoices.create (call.invoice invoiceNumber now) = some invoices) :
      Moves s (.create i now) (s.answer i call invoices)
  | refused {i lookedAt countedAt : Nat} {invoiceNumber : String} {call : InvoiceCall} (now : Int)
      (hi : s.calls[i]? = some call)
      (hstage : call.stage = .creating lookedAt countedAt invoiceNumber)
      (hcreate : s.invoices.create (call.invoice invoiceNumber now) = none) :
      Moves s (.create i now) (s.refuse i call)

variable {s t : InvoiceRun} {e : InvoiceEvent}

theorem moves_of_step (h : s.step e = some t) : Moves s e t := by
  cases e with
  | createInvoice companyId amount currency provider providerInvoiceId =>
    cases h
    exact .begin companyId amount currency provider providerInvoiceId
  | findUnique i =>
    rw [step] at h
    split at h
    · rename_i call hi
      split at h
      · split at h
        · rename_i hany
          cases h
          exact .found hi (by simpa using hany)
        · rename_i hany
          cases h
          exact .missing hi (by simpa using hany)
      · cases h
    · cases h
  | count i now =>
    rw [step] at h
    split at h
    · rename_i call hi
      split at h
      · rename_i lookedAt hstage
        cases h
        exact .counted now hi hstage
      · cases h
    · cases h
  | create i now =>
    rw [step] at h
    split at h
    · rename_i call hi
      split at h
      · rename_i lookedAt countedAt invoiceNumber hstage
        split at h
        · rename_i invoices hcreate
          cases h
          exact .created now hi hstage hcreate
        · rename_i hcreate
          cases h
          exact .refused now hi hstage hcreate
      · cases h
    · cases h

theorem tracked_move (h : s.Tracked) {i : Nat} {call : InvoiceCall} {stage : InvoiceStage}
    (hnew : CallTracked s.invoices.rows { call with stage := stage }) :
    (s.move i call stage).Tracked :=
  ⟨h.numbered, forall_mem_set h.calls hnew, h.answered⟩

theorem answered_concat {rows : List Invoice} {answered : List InvoiceCall} {call : InvoiceCall}
    (h : ∀ c ∈ answered, ∀ id, c.providerInvoiceId = some id →
      ∃ row ∈ rows, row.providerInvoiceId = some id)
    (hrow : ∃ row ∈ rows, row.providerInvoiceId = call.providerInvoiceId) :
    ∀ c ∈ answered ++ [call], ∀ id, c.providerInvoiceId = some id →
      ∃ row ∈ rows, row.providerInvoiceId = some id := by
  refine forall_mem_concat h ?_
  intro id hid
  obtain ⟨row, hmem, hsame⟩ := hrow
  exact ⟨row, hmem, hsame.trans hid⟩

theorem tracked_step (h : s.Tracked) (hmove : Moves s e t) : t.Tracked := by
  cases hmove with
  | begin companyId amount currency provider providerInvoiceId =>
    refine ⟨h.numbered, forall_mem_concat h.calls ?_, h.answered⟩
    unfold firstStage
    split
    · trivial
    · exact ⟨Nat.zero_le _, fun row hrow => absurd hrow List.not_mem_nil⟩
  | found hi hrow =>
    exact ⟨h.numbered, fun c hc => h.calls c (List.mem_of_mem_eraseIdx hc),
      answered_concat h.answered hrow⟩
  | missing hi hnone =>
    refine tracked_move h ⟨le_rfl, ?_⟩
    intro row hrow htaken
    rw [List.take_length] at hrow
    exact hnone row hrow htaken.2
  | @counted i lookedAt call now hi hstage =>
    have hcall := h.calls call (List.mem_of_getElem? hi)
    unfold CallTracked at hcall
    rw [hstage] at hcall
    exact tracked_move h ⟨hcall, le_rfl, _, rfl⟩
  | @created i lookedAt countedAt invoiceNumber call invoices now hi hstage hcreate =>
    have hrows := Table.rows_of_create hcreate
    have hcall := h.calls call (List.mem_of_getElem? hi)
    unfold CallTracked at hcall
    rw [hstage] at hcall
    obtain ⟨-, hpast, year, hnumber⟩ := hcall
    refine ⟨?_, ?_, ?_⟩
    · intro k row hk
      rw [answer, hrows] at hk
      rcases Nat.lt_or_ge k s.invoices.rows.length with hlt | hge
      · rw [List.getElem?_append_left hlt] at hk
        exact h.numbered k row hk
      · rw [List.getElem?_append_right hge] at hk
        rw [List.mem_singleton.mp (List.mem_of_getElem? hk)]
        exact ⟨year, countedAt, hpast.trans hge, hnumber⟩
    · intro c hc
      have hbefore := h.calls c (List.mem_of_mem_eraseIdx hc)
      rw [answer, hrows]
      exact hbefore.append _
    · rw [answer, hrows]
      refine answered_concat ?_ ⟨_, List.mem_append_right _ (List.mem_singleton_self _), rfl⟩
      intro c hc id hid
      obtain ⟨row, hrow, hrowid⟩ := h.answered c hc id hid
      exact ⟨row, List.mem_append_left _ hrow, hrowid⟩
  | refused now hi hstage hcreate =>
    exact ⟨h.numbered, fun c hc => h.calls c (List.mem_of_mem_eraseIdx hc), h.answered⟩

theorem undisturbed_create_iff {i lookedAt countedAt : Nat} {invoiceNumber : String}
    {call : InvoiceCall} (now : Int) (hi : s.calls[i]? = some call)
    (hstage : call.stage = .creating lookedAt countedAt invoiceNumber) :
    s.Undisturbed (.create i now) ↔
      (∀ row ∈ s.invoices.rows.drop lookedAt,
        ¬Taken row.providerInvoiceId call.providerInvoiceId) ∧
      ∀ row ∈ s.invoices.rows.drop countedAt, row.invoiceNumber ≠ invoiceNumber := by
  simp only [Undisturbed, undisturbed, hi, Option.all_some, hstage, Bool.and_eq_true,
    List.all_eq_true, bne_iff_ne, Bool.or_eq_true, Option.isNone_iff_eq_none]
  refine and_congr_left fun _ => ?_
  constructor
  · rintro (hnone | hall) row hrow htaken
    · rw [hnone] at htaken
      exact absurd htaken.symm (not_taken_none _)
    · exact hall row hrow htaken.2
  · intro hall
    cases hid : call.providerInvoiceId with
    | none => exact .inl rfl
    | some id =>
      refine .inr fun row hrow hsame => hall row hrow ?_
      rw [hsame, hid]
      exact taken_some_some.mpr rfl

/-- A step keeps the accounts exactly when a create it makes was not disturbed. -/
theorem accounted_step_iff (ha : s.Accounted) (h : s.Tracked) (hmove : Moves s e t) :
    t.Accounted ↔ s.Undisturbed e := by
  rw [(tracked_step h hmove).accounted_iff]
  cases hmove with
  | begin companyId amount currency provider providerInvoiceId =>
    exact iff_of_true ha.refused rfl
  | found hi hrow => exact iff_of_true ha.refused rfl
  | missing hi hnone => exact iff_of_true ha.refused rfl
  | counted now hi hstage => exact iff_of_true ha.refused rfl
  | @created i lookedAt countedAt invoiceNumber call invoices now hi hstage hcreate =>
    refine iff_of_true ha.refused ((undisturbed_create_iff now hi hstage).mpr ?_)
    have hfree : ∀ row ∈ s.invoices.rows, ¬row.key.Clash (call.invoice invoiceNumber now).key := by
      intro row hrow hclash
      have hnone := Table.create_eq_none_iff.mpr ⟨row, hrow, hclash⟩
      rw [hcreate] at hnone
      cases hnone
    constructor
    · intro row hrow htaken
      exact hfree row (List.mem_of_mem_drop hrow) (.inr htaken)
    · intro row hrow hnumber
      exact hfree row (List.mem_of_mem_drop hrow) (.inl hnumber)
  | @refused i lookedAt countedAt invoiceNumber call now hi hstage hcreate =>
    refine iff_of_false (by simp [refuse]) ?_
    rw [undisturbed_create_iff now hi hstage]
    rintro ⟨hids, hnumbers⟩
    have hcall := h.calls call (List.mem_of_getElem? hi)
    unfold CallTracked at hcall
    rw [hstage] at hcall
    obtain ⟨hlooked, -, year, rfl⟩ := hcall
    obtain ⟨row, hrow, hnumber | htaken⟩ := Table.create_eq_none_iff.mp hcreate
    · rw [← List.take_append_drop countedAt s.invoices.rows, List.mem_append] at hrow
      rcases hrow with hold | hadded
      · exact h.number_free row hold hnumber
      · exact hnumbers row hadded hnumber
    · rw [← List.take_append_drop lookedAt s.invoices.rows, List.mem_append] at hrow
      rcases hrow with hold | hadded
      · exact hlooked.missing row hold htaken
      · exact hids row hadded htaken

/-- In every state of a run no call was refused, the numbers are distinct and an answered provider id
has one invoice, exactly when no create of the run was disturbed. -/
theorem invoices_always_iff {es : List InvoiceEvent} (h : Run (Steps step) .start es t) :
    (∀ es₁ es₂ u, es = es₁ ++ es₂ → Run (Steps step) .start es₁ u → u.Accounted) ↔
      Run (Guarded (Steps step) Undisturbed) .start es t := by
  refine Run.always_iff_guarded_of (J := Tracked) ?_ ?_ ?_ h ?_ ?_
  · intro s e t t' h h'
    exact Option.some.inj (h.symm.trans h')
  · intro s e t _ hs hstep
    exact tracked_step hs (moves_of_step hstep)
  · intro s e t ha hs hstep
    exact accounted_step_iff ha hs (moves_of_step hstep)
  · exact ⟨rfl, .nil, fun c hc => absurd hc List.not_mem_nil⟩
  · refine ⟨?_, fun c hc => absurd hc List.not_mem_nil, fun c hc => absurd hc List.not_mem_nil⟩
    intro k row hk
    cases hk

/-! ## A call alone -/

section Alone

variable {invoices : InvoiceTable} {now : Int}

/-- A call that counts and creates adds its row, where number and provider id are free. -/
theorem count_create_alone {call : InvoiceCall} {lookedAt : Nat}
    (hstage : call.stage = .counting lookedAt)
    (hfree : ∀ row ∈ invoices.rows, ¬row.key.Clash (call.invoice
      (invoiceNumberOf (getUTCFullYear now) (invoices.rows.length + 1)) now).key) :
    ∃ t, Run (Steps step) ⟨invoices, [call], [], []⟩ [.count 0 now, .create 0 now] t ∧
      t.calls = [] ∧ t.refused = [] ∧ t.invoices.rows = invoices.rows ++ [call.invoice
        (invoiceNumberOf (getUTCFullYear now) (invoices.rows.length + 1)) now] := by
  let s : InvoiceRun := ⟨invoices, [call], [], []⟩
  let stage : InvoiceStage := .creating lookedAt invoices.rows.length
    (invoiceNumberOf (getUTCFullYear now) (invoices.rows.length + 1))
  cases hcreate : invoices.create (call.invoice
      (invoiceNumberOf (getUTCFullYear now) (invoices.rows.length + 1)) now) with
  | none =>
    obtain ⟨row, hrow, hclash⟩ := Table.create_eq_none_iff.mp hcreate
    exact absurd hclash (hfree row hrow)
  | some created =>
    have hcount : s.step (.count 0 now) = some (s.move 0 call stage) := by
      simp [step, s, hstage, stage]
    have hcreate' : (s.move 0 call stage).step (.create 0 now) =
        some ((s.move 0 call stage).answer 0 { call with stage := stage } created) := by
      have hinvoice : ({ call with stage := stage } : InvoiceCall).invoice =
          call.invoice := rfl
      simp [step, s, move, stage, hinvoice, hcreate]
    exact ⟨_, .cons hcount (.single hcreate'), rfl, rfl, Table.rows_of_create hcreate⟩

/-- A call that runs alone leaves the invoices of `BillingTables.createInvoice`, where its number is
free. -/
theorem createInvoice_alone (db : BillingTables) (hdb : db.invoices = invoices.rows)
    (companyId : String) (amount : Int) (currency : String) (provider : BillingProvider)
    {providerInvoiceId : Option String} (hid : providerInvoiceId ≠ some "")
    (hnumber : ∀ row ∈ invoices.rows, row.invoiceNumber ≠ db.invoiceNumber now) :
    ∃ es t, Run (Steps step) ⟨invoices, [], [], []⟩ es t ∧ t.calls = [] ∧ t.refused = [] ∧
      t.invoices.rows =
        (db.createInvoice companyId amount currency provider providerInvoiceId now).invoices := by
  let call : InvoiceCall :=
    ⟨companyId, amount, currency, provider, providerInvoiceId, firstStage providerInvoiceId⟩
  have hbegin : step ⟨invoices, [], [], []⟩
      (.createInvoice companyId amount currency provider providerInvoiceId) =
        some ⟨invoices, [call], [], []⟩ := rfl
  have hnumber' : db.invoiceNumber now =
      invoiceNumberOf (getUTCFullYear now) (invoices.rows.length + 1) := by
    rw [← hdb]
    rfl
  by_cases hfound : (providerInvoiceId.isSome &&
      invoices.rows.any (·.providerInvoiceId == providerInvoiceId)) = true
  · obtain ⟨hsome, hany⟩ := Bool.and_eq_true_iff.mp hfound
    obtain ⟨id, rfl⟩ := Option.isSome_iff_exists.mp hsome
    have hstage : call.stage = .looking := by
      have hne : id ≠ "" := fun h => hid (congrArg some h)
      simp [call, firstStage, hne]
    have hfind : step ⟨invoices, [call], [], []⟩ (.findUnique 0) =
        some (answer ⟨invoices, [call], [], []⟩ 0 call invoices) := by
      simp only [step, List.getElem?_cons_zero, hstage]
      exact if_pos hany
    refine ⟨_, _, .cons hbegin (.single hfind), rfl, rfl, ?_⟩
    rw [BillingTables.createInvoice, hdb, if_pos hfound]
    exact hdb.symm
  · have hafter : (db.createInvoice companyId amount currency provider providerInvoiceId
        now).invoices = invoices.rows ++ [call.invoice
          (invoiceNumberOf (getUTCFullYear now) (invoices.rows.length + 1)) now] := by
      rw [BillingTables.createInvoice, hdb, if_neg hfound, hnumber']
      rfl
    have hfree : ∀ row ∈ invoices.rows, ¬row.key.Clash (call.invoice
        (invoiceNumberOf (getUTCFullYear now) (invoices.rows.length + 1)) now).key := by
      rintro row hrow (hsame | ⟨hsome, hsame⟩)
      · exact hnumber row hrow (hsame.trans hnumber'.symm)
      · have hsome' : providerInvoiceId.isSome = true :=
          (congrArg Option.isSome hsame).symm.trans hsome
        refine hfound (Bool.and_eq_true_iff.mpr ⟨hsome', ?_⟩)
        exact List.any_eq_true.mpr ⟨row, hrow, beq_iff_eq.mpr hsame⟩
    rw [hafter]
    cases providerInvoiceId with
    | none =>
      have hstage : call.stage = .counting 0 := rfl
      obtain ⟨t, hrun, ht⟩ := count_create_alone hstage hfree
      exact ⟨_, t, .cons hbegin hrun, ht⟩
    | some id =>
      have hne : id ≠ "" := fun h => hid (congrArg some h)
      have hstage : call.stage = .looking := by simp [call, firstStage, hne]
      have hany : ¬invoices.rows.any (·.providerInvoiceId == some id) = true := fun h =>
        hfound (Bool.and_eq_true_iff.mpr ⟨rfl, h⟩)
      let looked : InvoiceCall := { call with stage := .counting invoices.rows.length }
      have hfind : step ⟨invoices, [call], [], []⟩ (.findUnique 0) =
          some ⟨invoices, [looked], [], []⟩ := by
        simp only [step, List.getElem?_cons_zero, hstage]
        exact if_neg hany
      have hlooked : looked.stage = .counting invoices.rows.length := rfl
      obtain ⟨t, hrun, ht⟩ := count_create_alone hlooked hfree
      exact ⟨_, t, .cons hbegin (.cons hfind hrun), ht⟩

end Alone

end InvoiceRun

/-! ## Two webhooks -/

/-- The webhooks of two companies pay, each with an id of its provider. -/
def twoPayments : List InvoiceEvent :=
  [.createInvoice "company-1" 1000 "EUR" .stripe (some "in_1"),
    .createInvoice "company-2" 1000 "EUR" .mvola (some "mvola-7")]

/-- One after the other. -/
def inTurn : List InvoiceEvent :=
  twoPayments ++ [.findUnique 0, .count 0 0, .create 0 0, .findUnique 0, .count 0 0, .create 0 0]

/-- Both count before one creates. -/
def bothCount : List InvoiceEvent :=
  twoPayments ++ [.findUnique 0, .findUnique 1, .count 0 0, .count 1 0, .create 0 0, .create 0 0]

theorem invoices_always_inTurn : ∃ t, Run (Steps InvoiceRun.step) .start inTurn t ∧
    ∀ es₁ es₂ u, inTurn = es₁ ++ es₂ → Run (Steps InvoiceRun.step) .start es₁ u →
      u.Accounted := by
  have hend : (inTurn.foldlM (guardStep InvoiceRun.step InvoiceRun.Undisturbed) .start).isSome
      = true := by
    decide +kernel
  obtain ⟨t, ht⟩ := Option.isSome_iff_exists.mp hend
  have hrun := Run.of_guardStep ht
  exact ⟨t, hrun.of_guarded, (InvoiceRun.invoices_always_iff hrun.of_guarded).mpr hrun⟩

/-- The second payment fails on the number of the first. -/
theorem invoices_collide :
    ¬∀ (es : List InvoiceEvent) (t : InvoiceRun), Run (Steps InvoiceRun.step) .start es t →
      t.Accounted := by
  intro hclaim
  have hend : (bothCount.foldlM InvoiceRun.step .start).any (fun t => !t.refused.isEmpty)
      = true := by
    decide +kernel
  obtain ⟨t, hrun, ht⟩ := Run.of_foldlM_any hend
  rw [(hclaim _ t hrun).refused] at ht
  cases ht

end DeliveryTracking.Billing
