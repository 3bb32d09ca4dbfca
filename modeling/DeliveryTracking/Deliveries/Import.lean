/-
# `DeliveryTracking.Deliveries.Import` — each row of an imported file is counted once

One call of `importDeliveriesFile`, database call by database call; between them
others may leave any table.  A row ends in one of four ways (`Counted`), or ends
the call:

    lookup fails                          the call throws
    no live delivery has the reference    created, refused (`duplicate`), or an error
    one has it, create-only               skipped (`duplicate`)
    one has it, upsert                    updated; if that fails, the call throws

Only the create is guarded, and the constraint it can break also counts the
deliveries that are deleted.  So the accounting is exact when no lookup and no
update fails, and no create meets a deleted delivery (`import_exact_iff`).
-/
import DeliveryTracking.Runs
import DeliveryTracking.Deliveries.Writers

namespace DeliveryTracking.Deliveries

/-! ## The run of an import -/

/-- The database, and the call. -/
structure ImportRun where
  db : DeliveryTable
  thread : Thread

inductive ImportEvent where
  /-- The call's next database call. -/
  | call (c : Call)
  /-- Other calls leave this table. -/
  | others (db : DeliveryTable)

def ImportEvent.isCall : ImportEvent → Bool
  | .call _ => true
  | .others _ => false

namespace ImportRun

def start (db : DeliveryTable) (companyId : String) (isPdf : Bool) (mode : ImportMode)
    (rows : List ImportRow) : ImportRun :=
  ⟨db, .start (.importDeliveriesFile companyId isPdf mode rows)⟩

/-- The id a create is given is new. -/
def step (fleet : Fleet) (s : ImportRun) : ImportEvent → Option ImportRun
  | .call c =>
    if s.db.rows.any (·.id == c.newId) then none
    else some ⟨(s.thread.step fleet s.db c).1, (s.thread.step fleet s.db c).2⟩
  | .others db => some { s with db := db }

end ImportRun

/-! ## What the import promises -/

/-- The result counts the rows, each of them once. -/
inductive Counted : List ImportRow → ImportResult → Prop
  | nil : Counted [] .empty
  | created {rows : List ImportRow} {r : ImportResult} (row : ImportRow) (h : Counted rows r) :
      Counted (rows ++ [row]) { r with created := r.created + 1 }
  | updated {rows : List ImportRow} {r : ImportResult} (row : ImportRow) (h : Counted rows r) :
      Counted (rows ++ [row]) { r with updated := r.updated + 1 }
  | skipped {rows : List ImportRow} {r : ImportResult} {row : ImportRow} {orderRef : String}
      (href : row.orderRef = some orderRef) (h : Counted rows r) :
      Counted (rows ++ [row]) (r.skip row.row orderRef)
  | error {rows : List ImportRow} {r : ImportResult} (row : ImportRow) (reason : String)
      (h : Counted rows r) : Counted (rows ++ [row]) (r.error row.row reason)

/-- The answer accounts for the rows; a file without rows is refused. -/
def Accounts (rows : List ImportRow) : Outcome → Prop
  | .imported r => Counted rows r
  | .error (.emptyFile _) => rows = []
  | _ => False

/-- A delivery of the company that is not deleted has the reference. -/
def HasLive (db : DeliveryTable) (companyId orderRef : String) : Prop :=
  ∃ d ∈ db.rows, d.companyId = companyId ∧ d.externalOrderRef = some orderRef ∧ d.deletedAt = none

/-- No reference has two live deliveries. -/
def OneLive (db : DeliveryTable) : Prop :=
  ∀ d ∈ db.rows, ∀ d' ∈ db.rows, d.deletedAt = none → d'.deletedAt = none →
    d.externalOrderRef.isSome → d.companyId = d'.companyId →
    d.externalOrderRef = d'.externalOrderRef → d = d'

def Thread.importResult : Thread → Option ImportResult
  | .importRow _ _ _ r | .importUpdate _ _ _ _ r | .importCreate _ _ _ _ _ r => some r
  | .done (.imported r) => some r
  | _ => none

/-- A row the step reports as a duplicate has a live delivery at that point. -/
def HonestSkip (companyId : String) (s t : ImportRun) : Prop :=
  ∀ r r' skip, s.thread.importResult = some r → t.thread.importResult = some r' →
    r'.skipped = r.skipped ++ [skip] → HasLive s.db companyId skip.orderRef

/-- When the call ends, it is with an answer that accounts for the rows. -/
def EndsAccounted (rows : List ImportRow) (s t : ImportRun) : Prop :=
  ∀ o, t.thread = .done o → s.thread = .done o ∨ Accounts rows o

/-! ## When it keeps the promise -/

/-- No deleted delivery holds the reference. -/
def noneDeleted (db : DeliveryTable) (companyId orderRef : String) : Bool :=
  db.rows.all fun d =>
    !(d.companyId == companyId && d.externalOrderRef == some orderRef) || d.deletedAt.isNone

def ImportRun.sound (s : ImportRun) : ImportEvent → Bool
  | .call c =>
    match s.thread with
    | .importRow _ _ (row :: _) _ => c.ok || (row.orderRef.isNone || row.lieu.isNone)
    | .importUpdate w _ _ _ _ => c.ok && s.db.rows.any (·.id == w.id)
    | .importCreate _ orderRef companyId _ _ _ => !c.ok || noneDeleted s.db companyId orderRef
    | _ => true
  | .others _ => true

/-- A lookup or an update does not fail, and the row of an update is there; a create that does not
fail meets no deleted delivery with the reference. -/
def ImportRun.Sound (s : ImportRun) (e : ImportEvent) : Prop := s.sound e = true

instance (s : ImportRun) (e : ImportEvent) : Decidable (s.Sound e) :=
  inferInstanceAs (Decidable (_ = true))

theorem DeliveryKey.Clash.symm {k l : DeliveryKey} (h : k.Clash l) : l.Clash k := by
  rcases h with hid | ⟨hcompany, hsome, href⟩
  · exact .inl hid.symm
  · exact .inr ⟨hcompany.symm, href ▸ hsome, href.symm⟩

/-! ## What one database call does -/

/-- The call of `importDeliveriesFile` moves. -/
inductive ImportMoves (db : DeliveryTable) (c : Call) : Thread → DeliveryTable → Thread → Prop
  | empty (companyId : String) (isPdf : Bool) (mode : ImportMode) :
      ImportMoves db c (.start (.importDeliveriesFile companyId isPdf mode [])) db
        (.done (.error (.emptyFile isPdf)))
  | begin (companyId : String) (isPdf : Bool) (mode : ImportMode) (row : ImportRow)
      (rows : List ImportRow) :
      ImportMoves db c (.start (.importDeliveriesFile companyId isPdf mode (row :: rows))) db
        (.importRow companyId mode (row :: rows) .empty)
  | finish (companyId : String) (mode : ImportMode) (r : ImportResult) :
      ImportMoves db c (.importRow companyId mode [] r) db (.done (.imported r))
  | invalid {companyId : String} {mode : ImportMode} {row : ImportRow} {rows : List ImportRow}
      {r : ImportResult} (reason : String) (h : row.orderRef = none ∨ row.lieu = none) :
      ImportMoves db c (.importRow companyId mode (row :: rows) r) db
        (.importRow companyId mode rows (r.error row.row reason))
  | lookupFails {companyId : String} {mode : ImportMode} {row : ImportRow} {rows : List ImportRow}
      {r : ImportResult} (href : row.orderRef ≠ none) (hlieu : row.lieu ≠ none) (hc : c.ok = false) :
      ImportMoves db c (.importRow companyId mode (row :: rows) r) db (.done (.error .database))
  | missing {companyId orderRef : String} {mode : ImportMode} {row : ImportRow}
      {rows : List ImportRow} {r : ImportResult} (href : row.orderRef = some orderRef)
      (hc : c.ok = true) :
      ImportMoves db c (.importRow companyId mode (row :: rows) r) db
        (.importCreate row.row orderRef companyId mode rows r)
  | duplicate {companyId orderRef : String} {row : ImportRow} {rows : List ImportRow}
      {r : ImportResult} (href : row.orderRef = some orderRef) (hc : c.ok = true)
      (hlive : HasLive db companyId orderRef) :
      ImportMoves db c (.importRow companyId .createOnly (row :: rows) r) db
        (.importRow companyId .createOnly rows (r.skip row.row orderRef))
  | found {companyId : String} {row : ImportRow} {rows : List ImportRow} {r : ImportResult}
      (w : ImportWrite) (hc : c.ok = true) :
      ImportMoves db c (.importRow companyId .upsert (row :: rows) r) db
        (.importUpdate w companyId .upsert rows r)
  | updated {companyId : String} {mode : ImportMode} {rows : List ImportRow} {r : ImportResult}
      {w : ImportWrite} {db' : DeliveryTable} (hc : c.ok = true)
      (hrow : ∃ d ∈ db.rows, d.id = w.id) :
      ImportMoves db c (.importUpdate w companyId mode rows r) db'
        (.importRow companyId mode rows { r with updated := r.updated + 1 })
  | updateFails {companyId : String} {mode : ImportMode} {rows : List ImportRow} {r : ImportResult}
      {w : ImportWrite} (h : c.ok = false ∨ ∀ d ∈ db.rows, d.id ≠ w.id) :
      ImportMoves db c (.importUpdate w companyId mode rows r) db (.done (.error .database))
  | created {companyId orderRef : String} {mode : ImportMode} {row : Nat} {rows : List ImportRow}
      {r : ImportResult} {db' : DeliveryTable}
      (hfree : ∀ d ∈ db.rows, ¬(d.companyId = companyId ∧ d.externalOrderRef = some orderRef)) :
      ImportMoves db c (.importCreate row orderRef companyId mode rows r) db'
        (.importRow companyId mode rows { r with created := r.created + 1 })
  | refused {companyId orderRef : String} {mode : ImportMode} {row : Nat} {rows : List ImportRow}
      {r : ImportResult} (hc : c.ok = true)
      (hheld : ∃ d ∈ db.rows, d.companyId = companyId ∧ d.externalOrderRef = some orderRef) :
      ImportMoves db c (.importCreate row orderRef companyId mode rows r) db
        (.importRow companyId mode rows (r.skip row orderRef))
  | createFails {companyId orderRef : String} {mode : ImportMode} {row : Nat}
      {rows : List ImportRow} {r : ImportResult} (hc : c.ok = false) :
      ImportMoves db c (.importCreate row orderRef companyId mode rows r) db
        (.importRow companyId mode rows (r.error row DeliveryError.database.message))
  | ended (o : Outcome) : ImportMoves db c (.done o) db (.done o)

def Thread.isImporting : Thread → Bool
  | .start (.importDeliveriesFile _ _ _ _) | .importRow _ _ _ _ | .importUpdate _ _ _ _ _
  | .importCreate _ _ _ _ _ _ | .done _ => true
  | _ => false

theorem hasLive_of_findFirst {db : DeliveryTable} {companyId orderRef : String} {d : Delivery}
    (h : db.findFirst (fun d => d.companyId == companyId && d.externalOrderRef == some orderRef &&
      d.deletedAt.isNone) = some d) : HasLive db companyId orderRef := by
  obtain ⟨hmem, htest⟩ := Table.mem_of_findFirst h
  simp only [Bool.and_eq_true, beq_iff_eq, Option.isNone_iff_eq_none] at htest
  exact ⟨d, hmem, htest.1.1, htest.1.2, htest.2⟩

/-- One database call of an import, where the id a create is given is new. -/
theorem import_moves (fleet : Fleet) {db : DeliveryTable} {c : Call} {th : Thread}
    (hnew : ∀ d ∈ db.rows, d.id ≠ c.newId) (himport : th.isImporting = true) :
    ImportMoves db c th (th.step fleet db c).1 (th.step fleet db c).2 := by
  cases th with
  | start r =>
    cases r with
    | importDeliveriesFile companyId isPdf mode rows =>
      cases rows with
      | nil => exact .empty companyId isPdf mode
      | cons row rows => exact .begin companyId isPdf mode row rows
    | _ => cases himport
  | locked w => cases himport
  | patch w => cases himport
  | bulk companyId deliveries action ids result => cases himport
  | importRow companyId mode rows r =>
    cases rows with
    | nil => exact .finish companyId mode r
    | cons row rows =>
      obtain ⟨row, orderRef, lieu⟩ := row
      cases orderRef with
      | none => exact .invalid _ (.inl rfl)
      | some orderRef =>
        cases lieu with
        | none => exact .invalid _ (.inr rfl)
        | some lieu =>
          rw [Thread.step]
          dsimp only
          by_cases hc : c.ok = true
          · rw [if_pos hc]
            split
            · exact .missing rfl hc
            · rename_i existing hfound
              cases mode with
              | createOnly => exact .duplicate rfl hc (hasLive_of_findFirst hfound)
              | upsert => exact .found _ hc
          · rw [if_neg hc]
            exact .lookupFails (Option.some_ne_none _) (Option.some_ne_none _) (by simpa using hc)
  | importUpdate w companyId mode rows r =>
    unfold Thread.step setRow
    dsimp only
    by_cases hc : c.ok = true
    · rw [if_pos hc]
      cases hfound : db.findFirst fun d => d.id == w.id with
      | none =>
        refine .updateFails (.inr ?_)
        intro d hd
        simpa using List.find?_eq_none.mp hfound d hd
      | some d =>
        obtain ⟨hmem, htest⟩ := Table.mem_of_findFirst hfound
        exact .updated hc ⟨d, hmem, beq_iff_eq.mp htest⟩
    · rw [if_neg hc]
      exact .updateFails (.inl (by simpa using hc))
  | importCreate row orderRef companyId mode rows r =>
    rw [Thread.step]
    by_cases hc : c.ok = true
    · rw [if_pos hc]
      cases hcreate : db.create (importedDelivery c.newId companyId orderRef c.now) with
      | none =>
        obtain ⟨d, hd, hclash⟩ := Table.create_eq_none_iff.mp hcreate
        rcases hclash with hid | ⟨hcompany, -, href⟩
        · exact absurd hid (hnew d hd)
        · exact .refused hc ⟨d, hd, hcompany, href⟩
      | some db' =>
        refine .created ?_
        intro d hd hheld
        have hnone : db.create (importedDelivery c.newId companyId orderRef c.now) = none :=
          Table.create_eq_none_iff.mpr
            ⟨d, hd, .inr ⟨hheld.1, by simp [Delivery.key, hheld.2], hheld.2⟩⟩
        rw [hcreate] at hnone
        cases hnone
    · rw [if_neg hc]
      exact .createFails (by simpa using hc)
  | done o => exact .ended o

/-! ## Progress -/

/-- The rows before the current one are counted. -/
def Progress (companyId : String) (rows : List ImportRow) : Thread → Prop
  | .start r => ∃ isPdf mode, r = .importDeliveriesFile companyId isPdf mode rows
  | .importRow company _ rest r => company = companyId ∧ ∃ before, rows = before ++ rest ∧
      Counted before r
  | .importUpdate _ company _ rest r => company = companyId ∧ ∃ before row,
      rows = before ++ row :: rest ∧ Counted before r
  | .importCreate n orderRef company _ rest r => company = companyId ∧ ∃ before row,
      rows = before ++ row :: rest ∧ Counted before r ∧ row.row = n ∧ row.orderRef = some orderRef
  | .done _ => True
  | _ => False

variable {companyId : String} {rows : List ImportRow} {db db' : DeliveryTable} {c : Call}
  {th th' : Thread}

theorem Progress.isImporting (h : Progress companyId rows th) : th.isImporting = true := by
  cases th with
  | start r =>
    obtain ⟨isPdf, mode, rfl⟩ := h
    rfl
  | locked w => cases h
  | patch w => cases h
  | bulk company deliveries action ids result => cases h
  | importRow company mode rest r => rfl
  | importUpdate w company mode rest r => rfl
  | importCreate n orderRef company mode rest r => rfl
  | done o => rfl

theorem concat_cons (before : List ImportRow) (row : ImportRow) (rest : List ImportRow) :
    before ++ row :: rest = before ++ [row] ++ rest := by simp

theorem progress_of_moves (h : Progress companyId rows th) (hmove : ImportMoves db c th db' th') :
    Progress companyId rows th' := by
  cases hmove with
  | empty company isPdf mode => trivial
  | begin company isPdf mode row rest =>
    obtain ⟨isPdf', mode', heq⟩ := h
    cases heq
    exact ⟨rfl, [], rfl, .nil⟩
  | finish company mode r => trivial
  | invalid reason hcell =>
    obtain ⟨hcompany, before, hrows, hcounted⟩ := h
    exact ⟨hcompany, before ++ [_], hrows.trans (concat_cons _ _ _), .error _ reason hcounted⟩
  | lookupFails href hlieu hc => trivial
  | missing href hc =>
    obtain ⟨hcompany, before, hrows, hcounted⟩ := h
    exact ⟨hcompany, before, _, hrows, hcounted, rfl, href⟩
  | duplicate href hc hlive =>
    obtain ⟨hcompany, before, hrows, hcounted⟩ := h
    exact ⟨hcompany, before ++ [_], hrows.trans (concat_cons _ _ _), .skipped href hcounted⟩
  | found w hc =>
    obtain ⟨hcompany, before, hrows, hcounted⟩ := h
    exact ⟨hcompany, before, _, hrows, hcounted⟩
  | updated hc hrow =>
    obtain ⟨hcompany, before, row, hrows, hcounted⟩ := h
    exact ⟨hcompany, before ++ [row], hrows.trans (concat_cons _ _ _), .updated row hcounted⟩
  | updateFails hfails => trivial
  | created hfree =>
    obtain ⟨hcompany, before, row, hrows, hcounted, -, -⟩ := h
    exact ⟨hcompany, before ++ [row], hrows.trans (concat_cons _ _ _), .created row hcounted⟩
  | refused hc hheld =>
    obtain ⟨hcompany, before, row, hrows, hcounted, rfl, href⟩ := h
    exact ⟨hcompany, before ++ [row], hrows.trans (concat_cons _ _ _), .skipped href hcounted⟩
  | createFails hc =>
    obtain ⟨hcompany, before, row, hrows, hcounted, rfl, -⟩ := h
    exact ⟨hcompany, before ++ [row], hrows.trans (concat_cons _ _ _), .error row _ hcounted⟩
  | ended o => trivial

/-- The calls an import has left, at most. -/
def Thread.remaining : Thread → Nat
  | .start (.importDeliveriesFile _ _ _ rows) => 2 * rows.length + 2
  | .importRow _ _ rows _ => 2 * rows.length + 1
  | .importUpdate _ _ _ rows _ | .importCreate _ _ _ _ rows _ => 2 * rows.length + 2
  | _ => 0

theorem remaining_of_moves (hmove : ImportMoves db c th db' th') :
    th'.remaining ≤ th.remaining - 1 := by
  cases hmove <;> simp only [Thread.remaining, List.length_cons, List.length_nil] <;> omega

theorem done_of_remaining (h : Progress companyId rows th) (hzero : th.remaining = 0) :
    ∃ o, th = .done o := by
  cases th with
  | start r =>
    obtain ⟨isPdf, mode, rfl⟩ := h
    cases hzero
  | locked w => cases h
  | patch w => cases h
  | bulk company deliveries action ids result => cases h
  | importRow company mode rest r => cases hzero
  | importUpdate w company mode rest r => cases hzero
  | importCreate n orderRef company mode rest r => cases hzero
  | done o => exact ⟨o, rfl⟩

/-! ## One step -/

theorem honestSkip_of_skipped_eq {s t : ImportRun}
    (h : ∀ r r', s.thread.importResult = some r → t.thread.importResult = some r' →
      r'.skipped = r.skipped) : HonestSkip companyId s t := by
  intro r r' skip hr hr' hskip
  rw [h r r' hr hr'] at hskip
  simp at hskip

/-- The row is reported as the duplicate it is. -/
theorem honestSkip_skip_iff {s t : ImportRun} {r : ImportResult} {row : Nat} {orderRef : String}
    (hs : s.thread.importResult = some r) (ht : t.thread.importResult = some (r.skip row orderRef)) :
    HonestSkip companyId s t ↔ HasLive s.db companyId orderRef := by
  constructor
  · intro h
    exact h r _ ⟨row, orderRef, "duplicate"⟩ hs ht rfl
  · intro hlive r₁ r₂ skip h₁ h₂ hskip
    obtain rfl := Option.some.inj (hs.symm.trans h₁)
    obtain rfl := Option.some.inj (ht.symm.trans h₂)
    obtain rfl := List.singleton_inj.mp (List.append_cancel_left hskip)
    exact hlive

theorem noneDeleted_iff {orderRef : String} : noneDeleted db companyId orderRef = true ↔
    ∀ d ∈ db.rows, d.companyId = companyId → d.externalOrderRef = some orderRef →
      d.deletedAt = none := by
  rw [noneDeleted, List.all_eq_true]
  refine forall₂_congr fun d _ => ?_
  rw [Bool.or_eq_true, Bool.not_eq_true', Bool.and_eq_false_iff, beq_eq_false_iff_ne,
    beq_eq_false_iff_ne, Option.isNone_iff_eq_none, ← not_and_or, or_iff_not_imp_left, not_not,
    and_imp]

/-- A reference that is held is held by a live delivery, when no deleted one holds it. -/
theorem hasLive_iff_of_held {orderRef : String}
    (hheld : ∃ d ∈ db.rows, d.companyId = companyId ∧ d.externalOrderRef = some orderRef) :
    HasLive db companyId orderRef ↔ noneDeleted db companyId orderRef = true := by
  rw [noneDeleted_iff]
  constructor
  · rintro ⟨live, hlive, hcompany, href, hdeleted⟩ d hd hcompany' href'
    have hclash : DeliveryKey.Clash d.key live.key :=
      .inr ⟨hcompany'.trans hcompany.symm, by simp [Delivery.key, href'], href'.trans href.symm⟩
    rw [Table.eq_of_clash (fun _ _ => DeliveryKey.Clash.symm) hd hlive hclash]
    exact hdeleted
  · intro hall
    obtain ⟨d, hd, hcompany, href⟩ := hheld
    exact ⟨d, hd, hcompany, href, hall d hd hcompany href⟩

/-- A call that moves ends accounted for and reports no false duplicate, exactly when it is sound. -/
theorem moves_sound_iff (h : Progress companyId rows th) (hmove : ImportMoves db c th db' th') :
    (EndsAccounted rows ⟨db, th⟩ ⟨db', th'⟩ ∧ HonestSkip companyId ⟨db, th⟩ ⟨db', th'⟩) ↔
      ImportRun.Sound ⟨db, th⟩ (.call c) := by
  have hsame : ∀ {r r' r₁ r₂ : ImportResult}, r'.skipped = r.skipped → some r = some r₁ →
      some r' = some r₂ → r₂.skipped = r₁.skipped := by
    intro r r' r₁ r₂ heq h₁ h₂
    rw [← Option.some.inj h₁, ← Option.some.inj h₂, heq]
  have hgoing : ∀ {th'}, (∀ o, th' ≠ .done o) → EndsAccounted rows ⟨db, th⟩ ⟨db', th'⟩ :=
    fun hnot o ho => absurd ho (hnot o)
  have hthrown : ¬EndsAccounted rows ⟨db, th⟩ ⟨db', .done (.error .database)⟩ ∨
      th = .done (.error .database) := by
    by_cases hth : th = .done (.error .database)
    · exact .inr hth
    · refine .inl fun hends => ?_
      rcases hends _ rfl with hdone | haccounts
      · exact hth hdone
      · exact haccounts
  cases hmove with
  | empty company isPdf mode =>
    obtain ⟨isPdf', mode', heq⟩ := h
    cases heq
    refine iff_of_true ⟨?_, fun r r' skip hr => by cases hr⟩ rfl
    intro o ho
    cases ho
    exact .inr rfl
  | begin company isPdf mode row rest =>
    exact iff_of_true ⟨hgoing (by simp), fun r r' skip hr => by cases hr⟩ rfl
  | finish company mode r =>
    obtain ⟨-, before, hrows, hcounted⟩ := h
    refine iff_of_true ⟨?_, honestSkip_of_skipped_eq fun _ _ => hsame rfl⟩ rfl
    intro o ho
    cases ho
    rw [List.append_nil] at hrows
    exact .inr (hrows ▸ hcounted)
  | invalid reason hcell =>
    refine iff_of_true ⟨hgoing (by simp), honestSkip_of_skipped_eq fun _ _ => hsame rfl⟩ ?_
    rcases hcell with hcell | hcell <;> simp [ImportRun.Sound, ImportRun.sound, hcell]
  | lookupFails href hlieu hc =>
    refine iff_of_false (fun hboth => (hthrown.resolve_right (by simp)) hboth.1) ?_
    simp [ImportRun.Sound, ImportRun.sound, hc, href, hlieu]
  | missing href hc =>
    refine iff_of_true ⟨hgoing (by simp), honestSkip_of_skipped_eq fun _ _ => hsame rfl⟩ ?_
    simp [ImportRun.Sound, ImportRun.sound, hc]
  | duplicate href hc hlive =>
    obtain ⟨rfl, -⟩ := h
    refine iff_of_true ⟨hgoing (by simp), (honestSkip_skip_iff rfl rfl).mpr hlive⟩ ?_
    simp [ImportRun.Sound, ImportRun.sound, hc]
  | found w hc =>
    refine iff_of_true ⟨hgoing (by simp), honestSkip_of_skipped_eq fun _ _ => hsame rfl⟩ ?_
    simp [ImportRun.Sound, ImportRun.sound, hc]
  | updated hc hrow =>
    refine iff_of_true ⟨hgoing (by simp), honestSkip_of_skipped_eq fun _ _ => hsame rfl⟩ ?_
    simpa [ImportRun.Sound, ImportRun.sound, hc] using hrow
  | updateFails hfails =>
    refine iff_of_false (fun hboth => (hthrown.resolve_right (by simp)) hboth.1) ?_
    rcases hfails with hc | hgone
    · simp [ImportRun.Sound, ImportRun.sound, hc]
    · simpa [ImportRun.Sound, ImportRun.sound] using fun _ => hgone
  | created hfree =>
    obtain ⟨rfl, -⟩ := h
    refine iff_of_true ⟨hgoing (by simp), honestSkip_of_skipped_eq fun _ _ => hsame rfl⟩ ?_
    refine Bool.or_eq_true_iff.mpr (.inr (noneDeleted_iff.mpr ?_))
    intro d hd hcompany href
    exact absurd ⟨hcompany, href⟩ (hfree d hd)
  | refused hc hheld =>
    obtain ⟨rfl, -⟩ := h
    rw [and_iff_right (hgoing (by simp)), honestSkip_skip_iff rfl rfl, hasLive_iff_of_held hheld]
    simp [ImportRun.Sound, ImportRun.sound, hc]
  | createFails hc =>
    refine iff_of_true ⟨hgoing (by simp), honestSkip_of_skipped_eq fun _ _ => hsame rfl⟩ ?_
    simp [ImportRun.Sound, ImportRun.sound, hc]
  | ended o =>
    refine iff_of_true ⟨fun o' ho => .inl ho, honestSkip_of_skipped_eq ?_⟩ rfl
    intro r r' hr hr'
    rw [Option.some.inj (hr.symm.trans hr')]

/-! ## Runs -/

namespace ImportRun

variable {fleet : Fleet} {s t : ImportRun} {e : ImportEvent} {es : List ImportEvent}

/-- What a step does. -/
theorem step_cases (h : Progress companyId rows s.thread) (hstep : s.step fleet e = some t) :
    (∃ c, e = .call c ∧ ImportMoves s.db c s.thread t.db t.thread) ∨
      ∃ db, e = .others db ∧ t = { s with db := db } := by
  cases e with
  | call c =>
    rw [step, Option.ite_none_left_eq_some] at hstep
    obtain ⟨hnew, hstep⟩ := hstep
    cases hstep
    refine .inl ⟨c, rfl, import_moves fleet ?_ h.isImporting⟩
    simpa using hnew
  | others db =>
    cases hstep
    exact .inr ⟨db, rfl, rfl⟩

theorem progress_step (h : Progress companyId rows s.thread) (hstep : s.step fleet e = some t) :
    Progress companyId rows t.thread := by
  rcases step_cases h hstep with ⟨c, rfl, hmove⟩ | ⟨db, rfl, rfl⟩
  · exact progress_of_moves h hmove
  · exact h

theorem sound_step_iff (h : Progress companyId rows s.thread) (hstep : s.step fleet e = some t) :
    (EndsAccounted rows s t ∧ HonestSkip companyId s t) ↔ s.Sound e := by
  rcases step_cases h hstep with ⟨c, rfl, hmove⟩ | ⟨db, rfl, rfl⟩
  · exact moves_sound_iff h hmove
  · refine iff_of_true ⟨fun o ho => .inl ho, honestSkip_of_skipped_eq ?_⟩ rfl
    intro r r' hr hr'
    rw [Option.some.inj (hr.symm.trans hr')]

/-- Each database call leaves fewer to make. -/
theorem remaining_run (h : Progress companyId rows s.thread) (hrun : Run (Steps (step fleet)) s es t) :
    Progress companyId rows t.thread ∧
      t.thread.remaining ≤ s.thread.remaining - es.countP ImportEvent.isCall := by
  induction hrun with
  | nil s => exact ⟨h, le_rfl⟩
  | @cons s₀ s₁ t e es hstep _ ih =>
    obtain ⟨hprogress, hle⟩ := ih (progress_step h hstep)
    refine ⟨hprogress, ?_⟩
    rw [List.countP_cons]
    rcases step_cases h hstep with ⟨c, rfl, hmove⟩ | ⟨db, rfl, rfl⟩
    · have hless := remaining_of_moves hmove
      have hcall : (if (ImportEvent.call c).isCall = true then 1 else 0) = 1 := rfl
      omega
    · have hcall : (if (ImportEvent.others db).isCall = true then 1 else 0) = 0 := rfl
      rw [hcall, Nat.add_zero]
      exact hle

theorem done_step {o : Outcome} (h : s.thread = .done o) (hstep : s.step fleet e = some t) :
    t.thread = .done o := by
  cases e with
  | call c =>
    rw [step, Option.ite_none_left_eq_some] at hstep
    obtain ⟨-, hstep⟩ := hstep
    cases hstep
    rw [h]
    rfl
  | others db =>
    cases hstep
    exact h

theorem done_run {o : Outcome} (h : s.thread = .done o) (hrun : Run (Steps (step fleet)) s es t) :
    t.thread = .done o :=
  hrun.invariant (I := fun s => s.thread = .done o) (fun hs hstep => done_step hs hstep) h

/-- A call that ends accounted for does so at the step that ends it. -/
theorem endsAccounted_run (haccounts : ∀ o, t.thread = .done o → Accounts rows o)
    (hrun : Run (fun s e t => Steps (step fleet) s e t ∧ HonestSkip companyId s t) s es t) :
    Run (fun s e t => Steps (step fleet) s e t ∧ EndsAccounted rows s t ∧ HonestSkip companyId s t)
      s es t := by
  induction hrun with
  | nil s => exact .nil s
  | cons hstep hrest ih =>
    refine .cons ⟨hstep.1, ?_, hstep.2⟩ (ih haccounts)
    intro o ho
    have hrest' := hrest.mono (fun hboth => hboth.1)
    exact .inr (haccounts o (done_run ho hrest'))

theorem accounts_run
    (hrun : Run (fun s e t => Steps (step fleet) s e t ∧ EndsAccounted rows s t ∧
      HonestSkip companyId s t) s es t) (hs : ∀ o, s.thread = .done o → Accounts rows o) :
    ∀ o, t.thread = .done o → Accounts rows o := by
  refine hrun.invariant (I := fun s => ∀ o, s.thread = .done o → Accounts rows o) ?_ hs
  intro s e t hs hstep o ho
  rcases hstep.2.1 o ho with hdone | haccounts
  · exact hs o hdone
  · exact haccounts

end ImportRun

theorem oneLive (db : DeliveryTable) : OneLive db := by
  intro d hd d' hd' _ _ hsome hcompany href
  exact Table.eq_of_clash (fun _ _ => DeliveryKey.Clash.symm) hd hd' (.inr ⟨hcompany, hsome, href⟩)

/-- With calls enough, an import ends in an answer that accounts for every row, reports no false
duplicate and leaves no two live deliveries of a reference, exactly when all its calls are sound. -/
theorem ImportRun.import_exact_iff {fleet : Fleet} {db : DeliveryTable} {companyId : String}
    {isPdf : Bool} {mode : ImportMode} {rows : List ImportRow} {es : List ImportEvent}
    {t : ImportRun} (hrun : Run (Steps (step fleet)) (start db companyId isPdf mode rows) es t)
    (hcalls : 2 * rows.length + 2 ≤ es.countP ImportEvent.isCall) :
    ((∃ o, t.thread = .done o ∧ Accounts rows o) ∧
        Run (fun s e t => Steps (step fleet) s e t ∧ HonestSkip companyId s t)
          (start db companyId isPdf mode rows) es t ∧ OneLive t.db) ↔
      Run (Guarded (Steps (step fleet)) Sound) (start db companyId isPdf mode rows) es t := by
  have hstart : Progress companyId rows (start db companyId isPdf mode rows).thread :=
    ⟨isPdf, mode, rfl⟩
  have hsteps : Run (fun s e t => Steps (step fleet) s e t ∧
        (EndsAccounted rows s t ∧ HonestSkip companyId s t))
      (start db companyId isPdf mode rows) es t ↔
      Run (Guarded (Steps (step fleet)) Sound) (start db companyId isPdf mode rows) es t := by
    refine Run.each_iff_guarded (I := fun s : ImportRun => Progress companyId rows s.thread)
      (Q := fun s _ t => EndsAccounted rows s t ∧ HonestSkip companyId s t) ?_ ?_ hstart
    · intro s e t hs hstep
      exact progress_step hs hstep
    · intro s e t hs hstep
      exact sound_step_iff hs hstep
  rw [← hsteps]
  constructor
  · rintro ⟨⟨o, ho, haccounts⟩, hhonest, -⟩
    refine endsAccounted_run ?_ hhonest
    intro o' ho'
    cases ho.symm.trans ho'
    exact haccounts
  · intro hsound
    obtain ⟨hprogress, hremaining⟩ := remaining_run hstart hrun
    have hzero : t.thread.remaining = 0 := by
      have hfirst : (start db companyId isPdf mode rows).thread.remaining = 2 * rows.length + 2 :=
        rfl
      omega
    obtain ⟨o, ho⟩ := done_of_remaining hprogress hzero
    refine ⟨⟨o, ho, accounts_run hsound (fun o ho => by cases ho) o ho⟩, ?_, oneLive t.db⟩
    exact hsound.mono fun hboth => ⟨hboth.1, hboth.2.2⟩

/-! ## A deleted delivery -/

/-- A delivery that is deleted keeps its reference. -/
def deletedOrder : DeliveryTable :=
  ⟨[{ importedDelivery "delivery-1" "company-1" "CMD-1" 0 with deletedAt := some 1 }],
    List.pairwise_singleton _ _⟩

def orderRow (orderRef : String) : ImportRow :=
  { row := 2, orderRef := some orderRef, lieu := some "Analakely" }

/-- Four calls that succeed. -/
def fourCalls : List ImportEvent :=
  ["delivery-2", "delivery-3", "delivery-4", "delivery-5"].map fun newId => .call ⟨0, newId, true⟩

/-- A new reference is created. -/
theorem import_exact_newOrder : ∃ t,
    Run (Steps (ImportRun.step ⟨[], []⟩))
      (.start deletedOrder "company-1" false .createOnly [orderRow "CMD-2"]) fourCalls t ∧
    (∃ o, t.thread = .done o ∧ Accounts [orderRow "CMD-2"] o) ∧
    Run (fun s e t => Steps (ImportRun.step ⟨[], []⟩) s e t ∧ HonestSkip "company-1" s t)
      (.start deletedOrder "company-1" false .createOnly [orderRow "CMD-2"]) fourCalls t ∧
    OneLive t.db := by
  have hend : (fourCalls.foldlM (guardStep (ImportRun.step ⟨[], []⟩) ImportRun.Sound)
      (.start deletedOrder "company-1" false .createOnly [orderRow "CMD-2"])).isSome = true := by
    decide +kernel
  obtain ⟨t, ht⟩ := Option.isSome_iff_exists.mp hend
  have hrun := Run.of_guardStep ht
  exact ⟨t, hrun.of_guarded,
    (ImportRun.import_exact_iff hrun.of_guarded (by decide)).mpr hrun⟩

/-- The reference of the deleted delivery is reported as a duplicate. -/
theorem import_false_duplicate :
    ¬∀ (db : DeliveryTable) (rows : List ImportRow) (es : List ImportEvent) (t : ImportRun),
      Run (Steps (ImportRun.step ⟨[], []⟩)) (.start db "company-1" false .createOnly rows) es t →
      2 * rows.length + 2 ≤ es.countP ImportEvent.isCall →
      (∃ o, t.thread = .done o ∧ Accounts rows o) ∧
      Run (fun s e t => Steps (ImportRun.step ⟨[], []⟩) s e t ∧ HonestSkip "company-1" s t)
        (.start db "company-1" false .createOnly rows) es t ∧
      OneLive t.db := by
  intro hclaim
  have hend : (fourCalls.foldlM (ImportRun.step ⟨[], []⟩)
      (.start deletedOrder "company-1" false .createOnly [orderRow "CMD-1"])).isSome = true := by
    decide +kernel
  have hthird : ((fourCalls.take 2).foldlM (ImportRun.step ⟨[], []⟩)
      (.start deletedOrder "company-1" false .createOnly [orderRow "CMD-1"])).any (fun u =>
        (u.step ⟨[], []⟩ (.call ⟨0, "delivery-4", true⟩)).any fun v =>
          u.thread.importResult == some .empty &&
            (v.thread.importResult == some (ImportResult.empty.skip 2 "CMD-1") &&
              u.db.rows.all (·.deletedAt.isSome))) = true := by
    decide +kernel
  obtain ⟨t, ht⟩ := Option.isSome_iff_exists.mp hend
  obtain ⟨u, hu, htest⟩ := (Option.any_eq_true _ _).mp hthird
  obtain ⟨v, hv, htest⟩ := (Option.any_eq_true _ _).mp htest
  simp only [Bool.and_eq_true, beq_iff_eq] at htest
  obtain ⟨hbefore, hafter, hdeleted⟩ := htest
  obtain ⟨-, hhonest, -⟩ := hclaim _ _ _ t (Run.of_foldlM ht) (by decide)
  have hsplit : fourCalls = fourCalls.take 2 ++ .call ⟨0, "delivery-4", true⟩ ::
    [.call ⟨0, "delivery-5", true⟩] := rfl
  rw [hsplit] at hhonest
  obtain ⟨v', hv', hskip⟩ := hhonest.of_step hu
  obtain rfl := Option.some.inj (hv.symm.trans hv')
  obtain ⟨d, hd, -, -, hlive⟩ := hskip _ _ ⟨2, "CMD-1", "duplicate"⟩ hbefore hafter rfl
  have hsome := List.all_eq_true.mp hdeleted d hd
  rw [hlive] at hsome
  cases hsome

end DeliveryTracking.Deliveries
