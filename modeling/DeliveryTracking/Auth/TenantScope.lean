/-
# `DeliveryTracking.Auth.TenantScope` — one company's rows only

A request runs in the context of its company.  Of an operation on one of the
models that belong to a company

    create createMany                 rows without a company get this one
    any action with a `where`         the `where` gets `companyId` on top
    bulk actions without one          the `where` is `companyId`

and an operation without a context, or on another model, goes on as it is.

So what reads, updates and deletes touch are rows of the company, and what they
answer depends on these alone (`tenant_isolated`), except for the constraints of
the schema: a unique column that spans companies may refuse a write for the sake
of another company's row.
-/
import DeliveryTracking.Query

namespace DeliveryTracking.Auth

/-! ## Operations -/

inductive PrismaAction where
  | findUnique
  | findUniqueOrThrow
  | findFirst
  | findFirstOrThrow
  | findMany
  | count
  | aggregate
  | groupBy
  | create
  | createMany
  | update
  | updateMany
  | upsert
  | delete
  | deleteMany
  deriving DecidableEq, Repr

namespace PrismaAction

/-- Actions whose `where` names one row, and must be there. -/
def isUnique : PrismaAction → Bool
  | findUnique | findUniqueOrThrow | update | upsert | delete => true
  | _ => false

/-- Actions that insert rows. -/
def inserts : PrismaAction → Bool
  | create | createMany | upsert => true
  | _ => false

def writes : PrismaAction → Bool
  | create | createMany | update | updateMany | upsert | delete | deleteMany => true
  | _ => false

end PrismaAction

/-- `TENANT_SCOPED_MODELS` -/
def tenantScopedModels : List String :=
  ["User", "Vehicle", "Driver", "Delivery", "Geofence", "Notification", "CompanySettings",
    "CompanyFuelSettings", "FuelLog", "FuelPriceHistory", "MaintenanceRecord",
    "VehicleMaintenanceSchedule", "DailyFuelReport", "DriverScore", "Invitation", "AuditLog",
    "ApiKey", "Webhook", "Invoice", "Subscription", "UsageRecord", "PaymentProof"]

/-- `SCOPED_BULK_ACTIONS` -/
def scopedBulkActions : List PrismaAction :=
  [.findFirst, .findFirstOrThrow, .findMany, .count, .aggregate, .groupBy, .updateMany, .deleteMany]

/-- A row of such a model, with its other columns. -/
structure TenantRow (β : Type) where
  companyId : String
  columns : β
  deriving DecidableEq, Repr

/-- A row to insert; the company may be left out. -/
structure TenantData (β : Type) where
  companyId : Option String
  columns : β
  deriving DecidableEq, Repr

/-- `params`: a raw query has no model. -/
structure PrismaParams (β : Type) where
  model : Option String
  action : PrismaAction
  /-- `args.where`, where there is one. -/
  filter : Option (Query.Filter (TenantRow β))
  /-- `args.data` of a create or a createMany, `args.create` of an upsert. -/
  rows : List (TenantData β)
  /-- What `args.data` of an update, `args.update` of an upsert makes of a row. -/
  update : TenantRow β → TenantRow β

variable {β ρ : Type}

/-- `{ companyId }`; the column is never null. -/
def ofCompany (companyId : String) (row : TenantRow β) : Query.Truth :=
  some (row.companyId == companyId)

/-- `if (!data.companyId) data.companyId = companyId` -/
def TenantData.scoped (companyId : String) (data : TenantData β) : TenantData β :=
  { data with companyId := some ((data.companyId.filter (· ≠ "")).getD companyId) }

def tenantScopeMiddleware (context : Option String) (params : PrismaParams β) : PrismaParams β :=
  match context.filter (· ≠ "") with
  | none => params
  | some companyId =>
    if params.model.any (tenantScopedModels.contains ·) then
      { params with
        rows :=
          if params.action = .create ∨ params.action = .createMany then
            params.rows.map (TenantData.scoped companyId)
          else params.rows
        filter :=
          match params.filter with
          | some filter => some (filter.set "companyId" (ofCompany companyId))
          | none =>
            if params.action ∈ scopedBulkActions then
              some (Query.Filter.only "companyId" (ofCompany companyId))
            else none }
    else params

/-! ## What Prisma makes of them -/

inductive OperationError where
  | validation
  /-- There is no row to update or to delete. -/
  | notFound
  /-- A unique column or a foreign key refuses the write. -/
  | constraint
  deriving DecidableEq, Repr

/-- What an operation answers: a function of the rows it reads (in their order, a page of them, some
columns, a count, a sum), the row it wrote, or how many. -/
inductive PrismaResult (β ρ : Type) where
  | read (r : ρ)
  | row (r : Option (TenantRow β))
  | count (n : Nat)
  deriving DecidableEq, Repr

namespace PrismaParams

variable (p : PrismaParams β) (table : List (TenantRow β))

/-- The operation looks at a row; without a `where`, at every row. -/
def picks (row : TenantRow β) : Bool := p.filter.all (·.isMatch row)

/-- The rows the operation reads, or writes. -/
def touched : List (TenantRow β) :=
  if p.action.isUnique then (table.find? p.picks).toList else table.filter p.picks

/-- The rows it inserts; a company that is left out is an error. -/
def inserted : Option (List (TenantRow β)) :=
  p.rows.mapM fun data => data.companyId.map fun companyId => ⟨companyId, data.columns⟩

/-- The table it would leave. -/
def written : List (TenantRow β) :=
  match p.action with
  | .update => Query.editFirst p.picks (fun row => [p.update row]) table
  | .updateMany => Query.editAll p.picks (fun row => [p.update row]) table
  | .delete => Query.editFirst p.picks (fun _ => []) table
  | .deleteMany => Query.editAll p.picks (fun _ => []) table
  | .create | .createMany => table ++ p.inserted.getD []
  | .upsert =>
    if (table.find? p.picks).isSome then
      Query.editFirst p.picks (fun row => [p.update row]) table
    else table ++ p.inserted.getD []
  | _ => table

variable (read : List (TenantRow β) → ρ)

/-- The answer, from the rows it touches. -/
def result (touched : List (TenantRow β)) : PrismaResult β ρ :=
  match p.action with
  | .update => .row (touched.head?.map p.update)
  | .delete => .row touched.head?
  | .updateMany | .deleteMany => .count touched.length
  | .create => .row (p.inserted.getD []).head?
  | .createMany => .count p.rows.length
  | .upsert => .row ((touched.head?.map p.update).or (p.inserted.getD []).head?)
  | _ => .read (read touched)

/-- The answer, and the table after it; `accepts` are the constraints, with the tables around. -/
def run (accepts : List (TenantRow β) → Bool) :
    Except OperationError (PrismaResult β ρ) × List (TenantRow β) :=
  if p.action.isUnique ∧ p.filter.isNone ∨ p.action.inserts ∧ p.inserted.isNone then
    (.error .validation, table)
  else if (p.action = .update ∨ p.action = .delete) ∧ p.touched table = [] then
    (.error .notFound, table)
  else if p.action.writes ∧ accepts (p.written table) = false then (.error .constraint, table)
  else (.ok (p.result read (p.touched table)), p.written table)

end PrismaParams

/-! ## One company's rows -/

/-- The rows of a company. -/
def rowsOf (companyId : String) (table : List (TenantRow β)) : List (TenantRow β) :=
  table.filter fun row => row.companyId == companyId

/-- The operation as it is handed on in the context of a company. -/
def PrismaParams.inContext (p : PrismaParams β) (companyId : String) : PrismaParams β :=
  tenantScopeMiddleware (some companyId) p

namespace PrismaParams

variable {p : PrismaParams β} {companyId model : String}

/-- The operation is handed on with the company on top of its `where`, or, without one, as a `where`
if it is a bulk action. -/
theorem filter_inContext (hcompany : companyId ≠ "") (hmodel : p.model = some model)
    (hscoped : model ∈ tenantScopedModels) :
    (∃ filter, p.filter = some filter ∧
      (p.inContext companyId).filter = some (filter.set "companyId" (ofCompany companyId))) ∨
    (p.action ∈ scopedBulkActions ∧
      (p.inContext companyId).filter = some (Query.Filter.only "companyId" (ofCompany companyId))) ∨
    (p.action ∉ scopedBulkActions ∧ (p.inContext companyId).filter = none) := by
  have hcontext : (some companyId).filter (· ≠ "") = some companyId := by simp [hcompany]
  have hany : p.model.any (tenantScopedModels.contains ·) = true := by
    rw [hmodel]
    exact List.elem_eq_true_of_mem hscoped
  simp only [inContext, tenantScopeMiddleware, hcontext, hany, if_true]
  cases p.filter with
  | some filter => exact Or.inl ⟨filter, rfl, rfl⟩
  | none =>
    by_cases hbulk : p.action ∈ scopedBulkActions
    · exact Or.inr (Or.inl ⟨hbulk, if_pos hbulk⟩)
    · exact Or.inr (Or.inr ⟨hbulk, if_neg hbulk⟩)

theorem action_inContext : (p.inContext companyId).action = p.action := by
  unfold inContext tenantScopeMiddleware
  split
  · rfl
  · split <;> rfl

theorem isUnique_of_not_bulk {action : PrismaAction} (hinserts : action.inserts = false)
    (hbulk : action ∉ scopedBulkActions) : action.isUnique = true := by
  revert hinserts hbulk
  cases action <;> decide

/-- An operation with a `where` picks rows of the company. -/
theorem company_of_picks (hcompany : companyId ≠ "") (hmodel : p.model = some model)
    (hscoped : model ∈ tenantScopedModels) (hfilter : (p.inContext companyId).filter ≠ none)
    {row : TenantRow β} (h : (p.inContext companyId).picks row = true) :
    (row.companyId == companyId) = true := by
  rcases filter_inContext hcompany hmodel hscoped with
    ⟨filter, -, hset⟩ | ⟨-, honly⟩ | ⟨-, hnone⟩
  · rw [picks, hset, Option.all_some] at h
    have hmeets : ofCompany companyId row = some true := Query.Filter.meets_of_isMatch_set h
    exact Option.some.inj hmeets
  · rw [picks, honly, Option.all_some] at h
    have hmeets : ofCompany companyId row = some true := Query.Filter.meets_of_isMatch_only h
    exact Option.some.inj hmeets
  · exact absurd hnone hfilter

/-! ## What an operation does -/

variable {part : TenantRow β → Bool} {table table' : List (TenantRow β)}

/-- An operation that inserts nothing and picks rows of a part is local to the part. -/
theorem local_written (hinserts : p.action.inserts = false)
    (hpicks : ∀ row, p.picks row = true → part row = true) : Query.Local part p.written := by
  have hwritten : ∀ {edit : List (TenantRow β) → List (TenantRow β)}, p.written = edit →
      Query.Local part edit → Query.Local part p.written := by
    rintro _ rfl h
    exact h
  cases haction : p.action with
  | update =>
    refine hwritten ?_ (Query.local_editFirst (e := fun row => [p.update row]) hpicks)
    funext table
    simp only [written, haction]
  | updateMany =>
    refine hwritten ?_ (Query.local_editAll (e := fun row => [p.update row]) hpicks)
    funext table
    simp only [written, haction]
  | delete =>
    refine hwritten ?_ (Query.local_editFirst (e := fun _ => []) hpicks)
    funext table
    simp only [written, haction]
  | deleteMany =>
    refine hwritten ?_ (Query.local_editAll (e := fun _ => []) hpicks)
    funext table
    simp only [written, haction]
  | create =>
    rw [haction] at hinserts
    cases hinserts
  | createMany =>
    rw [haction] at hinserts
    cases hinserts
  | upsert =>
    rw [haction] at hinserts
    cases hinserts
  | findUnique | findUniqueOrThrow | findFirst | findFirstOrThrow | findMany | count | aggregate
  | groupBy =>
    refine hwritten ?_ Query.local_id
    funext table
    simp only [written, haction, id]

theorem part_of_touched (hpicks : ∀ row, p.picks row = true → part row = true) :
    ∀ row ∈ p.touched table, part row = true := by
  intro row hrow
  unfold touched at hrow
  split at hrow
  · exact hpicks row (List.find?_some (Option.mem_toList.mp hrow))
  · exact hpicks row (List.mem_filter.mp hrow).2

theorem touched_of_agree (hpicks : ∀ row, p.picks row = true → part row = true)
    (hagree : table.filter part = table'.filter part) : p.touched table = p.touched table' := by
  have hfind : table.find? p.picks = table'.find? p.picks := by
    rw [← Query.find?_of_part hpicks, hagree, Query.find?_of_part hpicks]
  have hfilter : table.filter p.picks = table'.filter p.picks := by
    rw [← Query.filter_of_part hpicks, hagree, Query.filter_of_part hpicks]
  rw [touched, touched, hfind, hfilter]

variable {read : List (TenantRow β) → ρ} {accepts accepts' : List (TenantRow β) → Bool}

/-- What a run can do: it refuses and leaves the table, or answers from the rows it touches. -/
theorem run_cases (p : PrismaParams β) (table : List (TenantRow β)) (read : List (TenantRow β) → ρ)
    (accepts : List (TenantRow β) → Bool) :
    (∃ e, p.run table read accepts = (.error e, table)) ∨
      p.run table read accepts = (.ok (p.result read (p.touched table)), p.written table) := by
  unfold run
  split_ifs
  · exact Or.inl ⟨_, rfl⟩
  · exact Or.inl ⟨_, rfl⟩
  · exact Or.inl ⟨_, rfl⟩
  · exact Or.inr rfl

/-- Two tables that agree on the part give the same run, if the constraints do. -/
theorem run_of_agree (hinserts : p.action.inserts = false)
    (hpicks : ∀ row, p.picks row = true → part row = true)
    (hagree : table.filter part = table'.filter part)
    (haccepts : p.action.writes = true → accepts (p.written table) = accepts' (p.written table')) :
    (p.run table read accepts).1 = (p.run table' read accepts').1 ∧
      (p.run table read accepts).2.filter part = (p.run table' read accepts').2.filter part := by
  have htouched := touched_of_agree hpicks hagree
  have hwritten := (local_written hinserts hpicks).of_agree hagree
  unfold run
  rw [htouched]
  split_ifs with hvalid hfound hrefused hrefused' hrefused'
  · exact ⟨rfl, hagree⟩
  · exact ⟨rfl, hagree⟩
  · exact ⟨rfl, hagree⟩
  · rw [haccepts hrefused.1] at hrefused
    exact absurd hrefused hrefused'
  · rw [← haccepts hrefused'.1] at hrefused'
    exact absurd hrefused' hrefused
  · exact ⟨rfl, hwritten⟩

theorem run_of_filter_none (hunique : p.action.isUnique = true) (hnone : p.filter = none) :
    p.run table read accepts = (.error .validation, table) := by
  have hvalid : p.action.isUnique ∧ p.filter.isNone := ⟨hunique, by rw [hnone]; rfl⟩
  rw [run, if_pos (Or.inl hvalid)]

/-- An operation in the context of a company that inserts nothing is refused in every table, or picks
rows of the company. -/
theorem refused_or_picks (hcompany : companyId ≠ "") (hmodel : p.model = some model)
    (hscoped : model ∈ tenantScopedModels) (hinserts : p.action.inserts = false) :
    (∀ (read : List (TenantRow β) → ρ) accepts table,
      (p.inContext companyId).run table read accepts = (.error .validation, table)) ∨
    ∀ row, (p.inContext companyId).picks row = true → (row.companyId == companyId) = true := by
  by_cases hfilter : (p.inContext companyId).filter = none
  · refine Or.inl fun read accepts table => run_of_filter_none ?_ hfilter
    rw [action_inContext]
    refine isUnique_of_not_bulk hinserts ?_
    rcases filter_inContext hcompany hmodel hscoped with ⟨filter, -, hset⟩ | ⟨-, honly⟩ | ⟨hbulk, -⟩
    · cases hfilter.symm.trans hset
    · cases hfilter.symm.trans honly
    · exact hbulk
  · exact Or.inr fun row => company_of_picks hcompany hmodel hscoped hfilter

/-- **In the context of a company an operation that inserts nothing touches rows of the company, leaves
the others, and depends on the company's rows alone.** -/
theorem tenant_isolated (hcompany : companyId ≠ "") (hmodel : p.model = some model)
    (hscoped : model ∈ tenantScopedModels) (hinserts : p.action.inserts = false) :
    (∀ (read : List (TenantRow β) → ρ) accepts table answer,
      ((p.inContext companyId).run table read accepts).1 = .ok answer →
        answer = (p.inContext companyId).result read ((p.inContext companyId).touched table) ∧
          ∀ row ∈ (p.inContext companyId).touched table, row.companyId = companyId) ∧
    (∀ (read : List (TenantRow β) → ρ) accepts (table : List (TenantRow β)),
      (table.filter fun row => !(row.companyId == companyId)).Sublist
        ((p.inContext companyId).run table read accepts).2) ∧
    ∀ (read : List (TenantRow β) → ρ) accepts accepts' table table',
      rowsOf companyId table = rowsOf companyId table' →
      (p.action.writes = true → accepts ((p.inContext companyId).written table) =
        accepts' ((p.inContext companyId).written table')) →
      ((p.inContext companyId).run table read accepts).1 =
          ((p.inContext companyId).run table' read accepts').1 ∧
        rowsOf companyId ((p.inContext companyId).run table read accepts).2 =
          rowsOf companyId ((p.inContext companyId).run table' read accepts').2 := by
  have hinserts' : (p.inContext companyId).action.inserts = false := by rwa [action_inContext]
  rcases refused_or_picks (ρ := ρ) hcompany hmodel hscoped hinserts with hrefused | hpicks
  · refine ⟨?_, ?_, ?_⟩
    · intro read accepts table answer hok
      rw [hrefused] at hok
      cases hok
    · intro read accepts table
      rw [hrefused]
      exact List.filter_sublist
    · intro read accepts accepts' table table' hagree _
      rw [hrefused, hrefused]
      exact ⟨rfl, hagree⟩
  · refine ⟨?_, ?_, ?_⟩
    · intro read accepts table answer hok
      rcases (p.inContext companyId).run_cases table read accepts with ⟨e, hrun⟩ | hrun
      · rw [hrun] at hok
        cases hok
      · rw [hrun] at hok
        refine ⟨(Except.ok.inj hok).symm, fun row hrow => ?_⟩
        exact eq_of_beq (part_of_touched hpicks row hrow)
    · intro read accepts table
      rcases (p.inContext companyId).run_cases table read accepts with ⟨e, hrun⟩ | hrun
      · rw [hrun]
        exact List.filter_sublist
      · rw [hrun]
        exact (local_written hinserts' hpicks).foreign table
    · intro read accepts accepts' table table' hagree haccepts
      refine run_of_agree hinserts' hpicks hagree ?_
      rwa [action_inContext]

/-! ### Users of two companies -/

/-- The id and the e-mail of a user. -/
abbrev UserColumns := String × String

/-- `users.email` is unique, whatever the company. -/
def uniqueEmails (users : List (TenantRow UserColumns)) : Bool := (users.map (·.columns.2)).Nodup

/-- `user.update({ where: { id, companyId: 'c2' }, data: { email } })` -/
def changeEmail (id email : String) : PrismaParams UserColumns where
  model := some "User"
  action := .update
  filter := some (.mk
    [("id", fun row => some (row.columns.1 == id)), ("companyId", ofCompany "c2")] [] none [])
  rows := []
  update row := { row with columns := (row.columns.1, email) }

def oneCompany : List (TenantRow UserColumns) := [⟨"c1", "u1", "a@x"⟩]

def twoCompanies : List (TenantRow UserColumns) := [⟨"c1", "u1", "a@x"⟩, ⟨"c2", "u2", "b@x"⟩]

theorem tenant_isolated_sample :
    (((changeEmail "u1" "c@x").inContext "c1").run oneCompany (fun rows => rows) uniqueEmails).1 =
      (((changeEmail "u1" "c@x").inContext "c1").run twoCompanies (fun rows => rows) uniqueEmails).1 :=
  ((tenant_isolated (by decide) rfl (by decide) rfl).2.2 (fun rows => rows) uniqueEmails uniqueEmails
    oneCompany twoCompanies (by decide +kernel) (by decide +kernel)).1

/-- An e-mail of another company's user refuses the update, and tells of that user. -/
theorem email_taken_elsewhere :
    rowsOf "c1" oneCompany = rowsOf "c1" twoCompanies ∧
      (((changeEmail "u1" "b@x").inContext "c1").run oneCompany (fun rows => rows)
        uniqueEmails).1.isOk = true ∧
      (((changeEmail "u1" "b@x").inContext "c1").run twoCompanies (fun rows => rows)
        uniqueEmails).1.isOk = false := by
  decide +kernel

end PrismaParams

end DeliveryTracking.Auth
