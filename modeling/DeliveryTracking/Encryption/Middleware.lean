/-
# `DeliveryTracking.Encryption.Middleware` — sensitive fields in and out of the database

The middleware sits between the services and Prisma.  Of an operation on a model
with sensitive fields

    create update updateMany upsert      it encrypts the fields of the data
    find*                                it decrypts the fields of the result

and it looks at nothing else: not at nested writes, not at the rows of a
`createMany`, not at the result of a write, not below the top of a result.

`EncDb` is a database with, for each cell, what was last written and whether it
was stored encrypted.  `transparent_iff`: the result of an operation has every
sensitive field as it was written exactly when what it returns outside the top of
a `find*` was stored as it was.
-/
import DeliveryTracking.Runs
import DeliveryTracking.Encryption.Service

namespace DeliveryTracking.Encryption

/-! ## Records -/

/-- A field of a row. -/
structure Cell where
  model : String
  id : String
  field : String
  deriving DecidableEq, Repr

/-- A value of a field; what is no text is kept apart by a number. -/
inductive Value where
  | null
  | text (s : String)
  | other (n : Nat)
  deriving DecidableEq, Repr

/-- A record with the records of its relations. -/
inductive Tree (α : Type) where
  | node (model id : String) (fields : List (String × α)) (included : List (Tree α))

namespace Tree

variable {α β : Type}

mutual

/-- The record with another value in each field. -/
def map (g : Cell → α → β) : Tree α → Tree β
  | .node model id fields included =>
    .node model id (fields.map fun p => (p.1, g ⟨model, id, p.1⟩ p.2)) (mapList g included)

def mapList (g : Cell → α → β) : List (Tree α) → List (Tree β)
  | [] => []
  | t :: ts => map g t :: mapList g ts

end

mutual

/-- The fields of a record and of all below it. -/
def cells : Tree α → List (Cell × α)
  | .node model id fields included =>
    fields.map (fun p => (⟨model, id, p.1⟩, p.2)) ++ cellsList included

def cellsList : List (Tree α) → List (Cell × α)
  | [] => []
  | t :: ts => cells t ++ cellsList ts

end

/-- The fields of a record alone. -/
def own : Tree α → List (Cell × α)
  | .node model id fields _ => fields.map fun p => (⟨model, id, p.1⟩, p.2)

/-- The fields below it. -/
def nested : Tree α → List (Cell × α)
  | .node _ _ _ included => cellsList included

def model : Tree α → String
  | .node model _ _ _ => model

theorem cells_eq (t : Tree α) : t.cells = t.own ++ t.nested := by
  cases t
  rfl

mutual

theorem cells_map (g : Cell → α → β) : ∀ t : Tree α,
    (t.map g).cells = t.cells.map fun p => (p.1, g p.1 p.2)
  | .node model id fields included => by
      simp only [map, cells, List.map_append, List.map_map, cellsList_mapList g included]
      rfl

theorem cellsList_mapList (g : Cell → α → β) : ∀ ts : List (Tree α),
    cellsList (mapList g ts) = (cellsList ts).map fun p => (p.1, g p.1 p.2)
  | [] => rfl
  | t :: ts => by
      simp only [mapList, cellsList, List.map_append, cells_map g t, cellsList_mapList g ts]

end

theorem own_map (g : Cell → α → β) (t : Tree α) :
    (t.map g).own = t.own.map fun p => (p.1, g p.1 p.2) := by
  cases t
  simp [map, own]

theorem nested_map (g : Cell → α → β) (t : Tree α) :
    (t.map g).nested = t.nested.map fun p => (p.1, g p.1 p.2) := by
  cases t
  exact cellsList_mapList g _

end Tree

/-! ## The middleware -/

/-- `SENSITIVE_FIELDS` -/
def sensitiveFields : List (String × String) :=
  [("User", "phone"), ("User", "totpSecret"), ("Company", "phone"), ("Company", "address"),
    ("Driver", "phone"), ("Delivery", "pickupAddress"), ("Delivery", "deliveryAddress"),
    ("PlatformAdmin", "totpSecret"), ("Webhook", "secret")]

def Cell.sensitive (c : Cell) : Bool := sensitiveFields.contains (c.model, c.field)

inductive Action where
  | create
  | createMany
  | update
  | updateMany
  | upsert
  | delete
  | deleteMany
  | findUnique
  | findFirst
  | findMany
  | findFirstOrThrow
  | findUniqueOrThrow
  | count
  | aggregate
  deriving DecidableEq, Repr

/-- `isWriteAction` -/
def Action.isWrite : Action → Bool
  | .create | .update | .updateMany | .upsert => true
  | _ => false

/-- `isReadAction` -/
def Action.isRead : Action → Bool
  | .findUnique | .findFirst | .findMany | .findFirstOrThrow | .findUniqueOrThrow => true
  | _ => false

/-- The data of a write: the fields it sets, and the cells its nested writes set (the rows of a
`createMany` among them). -/
structure Data where
  fields : String → Option Value
  nested : List (Cell × Value)

/-- An operation as Prisma resolves it: its arguments, the rows its data is for, whether an upsert
finds its row, and the records it returns. -/
structure Operation where
  model : String
  action : Action
  data : Option Data
  create : Option Data
  update : Option Data
  rows : List String
  found : Bool
  result : List (Tree Unit)
  /-- An upsert, and it alone, has `create` and `update`. -/
  upsert_args : (create.isSome ↔ action = .upsert) ∧ (action = .upsert → data = none)
  /-- The top of a result is of the model. -/
  result_model : ∀ t ∈ result, t.model = model

section

variable (aes : Aes256Gcm)

/-- A field on its way in. -/
def encryptValue (iv : Iv) : Value → Value
  | .text s => if s = "" then .text s else .text (aes.encrypt iv s)
  | v => v

/-- A field on its way out. -/
def decryptValue : Value → Value
  | .text s =>
    if s.toList.contains ':' then
      match aes.decrypt s with
      | some plaintext => .text plaintext
      | none => .text s
    else .text s
  | v => v

/-- The sensitive fields of a data object, encrypted. -/
def Data.encrypt (model : String) (iv : String → Iv) (d : Data) : Data :=
  { d with
    fields := fun field =>
      if sensitiveFields.contains (model, field) then
        (d.fields field).map (encryptValue aes (iv field))
      else d.fields field }

/-- The operation the middleware hands to Prisma; each data object has its random vectors. -/
def Operation.encrypted (iv : Nat → String → Iv) (op : Operation) : Operation :=
  if op.action.isWrite then
    { op with
      data := if op.create.isSome then op.data else op.data.map (Data.encrypt aes op.model (iv 0))
      create := op.create.map (Data.encrypt aes op.model (iv 0))
      update := if op.create.isSome then op.update.map (Data.encrypt aes op.model (iv 1))
        else op.update
      upsert_args := by
        obtain ⟨hcreate, hdata⟩ := op.upsert_args
        refine ⟨by simpa using hcreate, fun h => ?_⟩
        rw [hdata h]
        split <;> rfl }
  else op

/-- `decryptResult`, on one record. -/
def decryptResult (model : String) : Tree Value → Tree Value
  | .node m id fields included =>
    .node m id (fields.map fun p =>
      (p.1, if sensitiveFields.contains (model, p.1) then decryptValue aes p.2 else p.2)) included

/-! ## The database -/

/-- The value a data object sets a cell to: a nested write, or a field of the rows it is for. -/
def Data.value (model : String) (rows : List String) (d : Data) (c : Cell) : Option Value :=
  match d.nested.lookup c with
  | some v => some v
  | none => if c.model = model ∧ c.id ∈ rows then d.fields c.field else none

namespace Operation

/-- The data object that is applied. -/
def applied (op : Operation) : Option Data :=
  match op.action with
  | .create | .createMany | .update | .updateMany => op.data
  | .upsert => if op.found then op.update else op.create
  | _ => none

/-- The value an operation sets a cell to, before the middleware. -/
def value (op : Operation) (c : Cell) : Option Value :=
  op.applied.bind fun d => d.value op.model op.rows c

/-- The middleware encrypts what the operation writes to the cell. -/
def seals (op : Operation) (c : Cell) : Bool :=
  op.action.isWrite && c.sensitive && op.applied.any (fun d => (d.nested.lookup c).isNone) &&
    match op.value c with
    | some (.text s) => s ≠ ""
    | _ => false

end Operation

end

/-- What is stored, what was last written, and whether that was stored encrypted; no code reads the
last two. -/
structure EncDb where
  stored : Cell → Value
  written : Cell → Value
  sealed : Cell → Bool

namespace EncDb

variable (aes : Aes256Gcm)

/-- What was last written to a cell once an operation is done, -/
def writtenBy (db : EncDb) (op : Operation) (c : Cell) : Value := (op.value c).getD (db.written c)

/-- and whether it is stored encrypted. -/
def sealedBy (db : EncDb) (op : Operation) (c : Cell) : Bool :=
  if (op.value c).isSome then op.seals c else db.sealed c

/-- The database after an operation. -/
def write (db : EncDb) (iv : Nat → String → Iv) (op : Operation) : EncDb where
  stored c := ((op.encrypted aes iv).value c).getD (db.stored c)
  written := db.writtenBy op
  sealed := db.sealedBy op

/-- The records an operation returns, from the database after it. -/
def returned (db : EncDb) (op : Operation) : List (Tree Value) :=
  let records := op.result.map (Tree.map fun c _ => db.stored c)
  if op.action.isRead then records.map (decryptResult aes op.model) else records

/-- Operations one after the other, each with its random vectors. -/
def step (db : EncDb) (e : (Nat → String → Iv) × Operation) : Option EncDb :=
  some (db.write aes e.1 e.2)

/-- Every sensitive field an operation returns is as it was last written. -/
def Transparent (db : EncDb) (iv : Nat → String → Iv) (op : Operation) : Prop :=
  ∀ t ∈ (db.write aes iv op).returned aes op, ∀ p ∈ t.cells, p.1.sensitive = true →
    p.2 = db.writtenBy op p.1

/-- What an operation returns at the top of a `find*` was stored encrypted, or is no ciphertext
itself; what it returns elsewhere was stored as it was. -/
def Readable (db : EncDb) (op : Operation) : Prop :=
  ∀ t ∈ op.result,
    (∀ p ∈ t.own, p.1.sensitive = true →
      if op.action.isRead then
        db.sealedBy op p.1 = true ∨
          decryptValue aes (db.writtenBy op p.1) = db.writtenBy op p.1
      else db.sealedBy op p.1 = false) ∧
    ∀ p ∈ t.nested, p.1.sensitive = true → db.sealedBy op p.1 = false

/-- A cell holds what was written to it, or an encryption of it. -/
def Sound (db : EncDb) : Prop :=
  ∀ c, if db.sealed c then
      ∃ iv s, db.written c = .text s ∧ db.stored c = .text (aes.encrypt iv s)
    else db.stored c = db.written c

end EncDb

/-! ## What is stored -/

section

variable (aes : Aes256Gcm)

theorem decryptValue_encrypt (iv : Iv) (s : String) :
    decryptValue aes (.text (aes.encrypt iv s)) = .text s := by
  have hcolon : (aes.encrypt iv s).toList.contains ':' = true := by
    simpa using aes.mem_encrypt iv s
  simp only [decryptValue, hcolon, if_true, aes.decrypt_encrypt]

/-- A field the middleware encrypts is one of the fields the data sets. -/
theorem Data.value_encrypt (model : String) (rows : List String) (iv : String → Iv) (d : Data)
    (c : Cell) :
    (d.encrypt aes model iv).value model rows c =
      if (d.nested.lookup c).isNone && c.sensitive then
        (d.value model rows c).map (encryptValue aes (iv c.field))
      else d.value model rows c := by
  cases hnested : d.nested.lookup c with
  | some v => simp [Data.value, Data.encrypt, hnested]
  | none =>
    by_cases hrow : c.model = model ∧ c.id ∈ rows
    · obtain ⟨rfl, hid⟩ := hrow
      simp [Data.value, Data.encrypt, hnested, hid, Cell.sensitive]
    · simp [Data.value, Data.encrypt, hnested, hrow]

namespace Operation

/-- The middleware encrypts the data object that is applied. -/
theorem applied_encrypted (op : Operation) (iv : Nat → String → Iv) :
    ∃ v, (op.encrypted aes iv).applied =
      if op.action.isWrite then op.applied.map (Data.encrypt aes op.model v) else op.applied := by
  obtain ⟨hcreate, hdata⟩ := op.upsert_args
  cases haction : op.action with
  | upsert =>
    have hsome : op.create.isSome = true := hcreate.mpr haction
    refine ⟨if op.found then iv 1 else iv 0, ?_⟩
    simp only [encrypted, applied, haction, hsome, Action.isWrite, if_true]
    split <;> rfl
  | create | update | updateMany =>
    have hnone : op.create.isSome = false := by
      rw [Bool.eq_false_iff, Ne, hcreate, haction]
      decide
    refine ⟨iv 0, ?_⟩
    simp only [encrypted, applied, haction, hnone, Action.isWrite, if_true, Bool.false_eq_true,
      if_false]
  | createMany | delete | deleteMany | findUnique | findFirst | findMany | findFirstOrThrow
  | findUniqueOrThrow | count | aggregate =>
    refine ⟨iv 0, ?_⟩
    simp only [encrypted, applied, haction, Action.isWrite, Bool.false_eq_true, if_false]

theorem encrypted_model (op : Operation) (iv : Nat → String → Iv) :
    (op.encrypted aes iv).model = op.model := by
  unfold encrypted
  split <;> rfl

theorem encrypted_rows (op : Operation) (iv : Nat → String → Iv) :
    (op.encrypted aes iv).rows = op.rows := by
  unfold encrypted
  split <;> rfl

/-- A cell the middleware encrypts is set to an encryption of its text, -/
theorem value_of_seals (op : Operation) {c : Cell} (iv : Nat → String → Iv)
    (h : op.seals c = true) :
    ∃ v s, op.value c = some (.text s) ∧
      (op.encrypted aes iv).value c = some (.text (aes.encrypt v s)) := by
  obtain ⟨v, happlied⟩ := op.applied_encrypted aes iv
  simp only [seals, Bool.and_eq_true] at h
  obtain ⟨⟨⟨hwrite, hsensitive⟩, hnested⟩, htext⟩ := h
  cases hop : op.applied with
  | none => simp [hop] at hnested
  | some d =>
    have hvalue : op.value c = d.value op.model op.rows c := by simp [value, hop]
    rw [hop, Option.any_some] at hnested
    cases hv : d.value op.model op.rows c with
    | none => simp [hvalue, hv] at htext
    | some x =>
      cases x with
      | null => simp [hvalue, hv] at htext
      | other n => simp [hvalue, hv] at htext
      | text s =>
        have hne : s ≠ "" := by simpa [hvalue, hv] using htext
        refine ⟨v c.field, s, hvalue.trans hv, ?_⟩
        simp [value, happlied, hwrite, hop, encrypted_model, encrypted_rows, Data.value_encrypt,
          hnested, hsensitive, hv, encryptValue, hne]

/-- and any other to what the operation says. -/
theorem value_of_not_seals (op : Operation) {c : Cell} (iv : Nat → String → Iv)
    (h : op.seals c = false) : (op.encrypted aes iv).value c = op.value c := by
  obtain ⟨v, happlied⟩ := op.applied_encrypted aes iv
  cases hop : op.applied with
  | none => simp [value, happlied, hop]
  | some d =>
    have hvalue : op.value c = d.value op.model op.rows c := by simp [value, hop]
    rw [hvalue]
    cases hwrite : op.action.isWrite with
    | false => simp [value, happlied, hwrite, hop, encrypted_model, encrypted_rows]
    | true =>
      have hencrypted : (op.encrypted aes iv).value c
          = (d.encrypt aes op.model v).value op.model op.rows c := by
        simp [value, happlied, hwrite, hop, encrypted_model, encrypted_rows]
      rw [hencrypted, Data.value_encrypt]
      split
      · rename_i hsets
        cases hv : d.value op.model op.rows c with
        | none => rfl
        | some x =>
          cases x with
          | null => rfl
          | other n => rfl
          | text s =>
            -- only the empty text is left: it is stored as it is
            obtain rfl : s = "" := by
              by_contra hne
              obtain ⟨hnested, hsensitive⟩ := Bool.and_eq_true _ _ ▸ hsets
              rw [Bool.eq_false_iff] at h
              apply h
              simp [seals, hwrite, hsensitive, hop, hnested, hvalue, hv, hne]
            rfl
      · rfl

end Operation

namespace EncDb

variable {aes}

/-- **Every operation leaves each cell with what was written, or an encryption of it.** -/
theorem Sound.write {db : EncDb} (h : db.Sound aes) (iv : Nat → String → Iv) (op : Operation) :
    (db.write aes iv op).Sound aes := by
  intro c
  have hc := h c
  cases hseals : op.seals c with
  | true =>
    obtain ⟨v, s, hvalue, hencrypted⟩ := op.value_of_seals aes iv hseals
    simp only [EncDb.write, sealedBy, writtenBy, hseals, hvalue, hencrypted, Option.isSome_some,
      Option.getD_some, if_true]
    exact ⟨v, s, rfl, rfl⟩
  | false =>
    have hencrypted := op.value_of_not_seals aes iv hseals
    cases hvalue : op.value c with
    | none => simpa [EncDb.write, sealedBy, writtenBy, hencrypted, hvalue] using hc
    | some x => simp [EncDb.write, sealedBy, writtenBy, hencrypted, hvalue, hseals]

section

variable {db : EncDb} {c : Cell}

theorem Sound.stored_eq_written_iff (h : db.Sound aes) :
    db.stored c = db.written c ↔ db.sealed c = false := by
  have hc := h c
  cases hsealed : db.sealed c with
  | false =>
    simp only [hsealed, Bool.false_eq_true, if_false] at hc
    exact iff_of_true hc rfl
  | true =>
    simp only [hsealed, if_true] at hc
    obtain ⟨iv, s, hwritten, hstored⟩ := hc
    refine iff_of_false ?_ (by decide)
    rw [hwritten, hstored]
    intro heq
    exact aes.encrypt_ne iv s (Value.text.inj heq)

theorem Sound.decryptValue_stored_iff (h : db.Sound aes) :
    decryptValue aes (db.stored c) = db.written c ↔
      db.sealed c = true ∨ decryptValue aes (db.written c) = db.written c := by
  have hc := h c
  cases hsealed : db.sealed c with
  | false =>
    simp only [hsealed, Bool.false_eq_true, if_false] at hc
    rw [hc]
    simp
  | true =>
    simp only [hsealed, if_true] at hc
    obtain ⟨iv, s, hwritten, hstored⟩ := hc
    rw [hwritten, hstored]
    exact iff_of_true (decryptValue_encrypt aes iv s) (Or.inl rfl)

end

end EncDb

/-! ## What is returned -/

theorem own_decryptResult (t : Tree Value) :
    (decryptResult aes t.model t).own =
      t.own.map fun p => (p.1, if p.1.sensitive then decryptValue aes p.2 else p.2) := by
  cases t
  simp [decryptResult, Tree.own, Tree.model, Cell.sensitive]

theorem nested_decryptResult (model : String) (t : Tree Value) :
    (decryptResult aes model t).nested = t.nested := by
  cases t
  rfl

theorem Tree.model_map {α β : Type} (g : Cell → α → β) (t : Tree α) : (t.map g).model = t.model := by
  cases t
  rfl

namespace EncDb

variable {aes}

/-- Every sensitive field an operation returns is as it was last written exactly when what it returns
is readable. -/
theorem transparent_iff_readable {db : EncDb} (h : db.Sound aes) (iv : Nat → String → Iv)
    (op : Operation) : db.Transparent aes iv op ↔ db.Readable aes op := by
  have hsound := h.write iv op
  have hwritten : ∀ c, (db.write aes iv op).written c = db.writtenBy op c := fun _ => rfl
  have hsealed : ∀ c, (db.write aes iv op).sealed c = db.sealedBy op c := fun _ => rfl
  -- what a record has below its top is as it is stored, whatever the action
  have hstored : ∀ c, (db.write aes iv op).stored c = db.writtenBy op c ↔ db.sealedBy op c = false :=
    fun c => hsound.stored_eq_written_iff
  have hdecrypted : ∀ c, decryptValue aes ((db.write aes iv op).stored c) = db.writtenBy op c ↔
      db.sealedBy op c = true ∨ decryptValue aes (db.writtenBy op c) = db.writtenBy op c :=
    fun c => hsound.decryptValue_stored_iff
  unfold Transparent Readable returned
  cases hread : op.action.isRead with
  | false =>
    simp only [Bool.false_eq_true, if_false, List.forall_mem_map, Tree.cells_eq,
      Tree.own_map, Tree.nested_map, List.forall_mem_append, hstored]
  | true =>
    simp only [if_true, List.forall_mem_map]
    refine forall₂_congr fun t ht => ?_
    rw [← op.result_model t ht, ← Tree.model_map (fun c _ => (db.write aes iv op).stored c) t,
      Tree.cells_eq, own_decryptResult, nested_decryptResult, Tree.own_map, Tree.nested_map]
    simp only [List.forall_mem_append, List.forall_mem_map, hstored]
    refine and_congr ?_ Iff.rfl
    refine forall₂_congr fun p _ => ?_
    refine forall_congr' fun hsensitive => ?_
    simp only [hsensitive, if_true, hdecrypted]

/-- **In every run from a database of plain values, with encryption on: an operation returns every
sensitive field as it was last written exactly when what it returns is readable.** -/
theorem transparent_iff {db₀ db : EncDb} {events : List ((Nat → String → Iv) × Operation)}
    (hplain : ∀ c, db₀.sealed c = false ∧ db₀.stored c = db₀.written c)
    (hrun : Run (Steps (EncDb.step aes)) db₀ events db) (iv : Nat → String → Iv) (op : Operation) :
    db.Transparent aes iv op ↔ db.Readable aes op := by
  have hsound₀ : db₀.Sound aes := by
    intro c
    obtain ⟨hsealed, hstored⟩ := hplain c
    simp [hsealed, hstored]
  have hsound : db.Sound aes := by
    refine hrun.invariant ?_ hsound₀
    intro db e db' h hstep
    obtain rfl : db.write aes e.1 e.2 = db' := Option.some.inj hstep
    exact h.write e.1 e.2
  exact transparent_iff_readable hsound iv op

end EncDb

end

/-! ## A delivery and a webhook -/

/-- A cipher for examples: a colon is written `/c` and a slash twice. -/
def escape (c : Char) : List Char :=
  if c = ':' then ['/', 'c'] else if c = '/' then ['/', '/'] else [c]

def unescape : List Char → List Char
  | '/' :: 'c' :: cs => ':' :: unescape cs
  | '/' :: '/' :: cs => '/' :: unescape cs
  | c :: cs => c :: unescape cs
  | [] => []

theorem unescape_escape (c : Char) (cs : List Char) :
    unescape (escape c ++ cs) = c :: unescape cs := by
  unfold escape
  split
  · rename_i h
    rw [h]
    rfl
  · split
    · rename_i h
      rw [h]
      rfl
    · rename_i hslash
      show unescape (c :: cs) = c :: unescape cs
      rw [unescape]
      · rintro cs' rfl
        exact absurd rfl hslash
      · rintro cs' rfl
        exact absurd rfl hslash

theorem unescape_flatMap : ∀ cs : List Char, unescape (cs.flatMap escape) = cs
  | [] => rfl
  | c :: cs => by rw [List.flatMap_cons, unescape_escape, unescape_flatMap cs]

theorem noColon_escape (c : Char) : ':' ∉ escape c := by
  unfold escape
  split
  · decide
  · split
    · decide
    · rename_i hcolon _
      rw [List.mem_singleton]
      exact Ne.symm hcolon

theorem length_flatMap_escape : ∀ cs : List Char, cs.length ≤ (cs.flatMap escape).length
  | [] => Nat.le_refl 0
  | c :: cs => by
    have hpos : 1 ≤ (escape c).length := by
      unfold escape
      split
      · simp
      · split <;> simp
    have ih := length_flatMap_escape cs
    rw [List.flatMap_cons, List.length_append, List.length_cons]
    omega

def sampleAes : Aes256Gcm where
  cipher _ text := ("", String.ofList (text.toList.flatMap escape))
  decipher _ _ data := some (String.ofList (unescape data.toList))
  noColon _ text := by
    refine ⟨by simp, ?_⟩
    rw [String.toList_ofList, List.mem_flatMap]
    rintro ⟨c, -, hc⟩
    exact noColon_escape c hc
  decipher_cipher _ text := by
    rw [String.toList_ofList, unescape_flatMap, String.ofList_toList]
  length_le _ text := by
    rw [String.length_ofList, ← String.length_toList]
    exact length_flatMap_escape text.toList

def sampleIv : Iv := ⟨"00", by decide⟩

def plainDb : EncDb := ⟨fun _ => .null, fun _ => .null, fun _ => false⟩

/-- An operation on one row that sets one field of it, if any, and returns these records. -/
def sampleOperation (model id : String) (action : Action) (set : Option (String × String))
    (result : List (Tree Unit)) (hupsert : action ≠ .upsert) (htop : ∀ t ∈ result, t.model = model) :
    Operation where
  model := model
  action := action
  data := set.map fun p => ⟨fun field => if field = p.1 then some (.text p.2) else none, []⟩
  create := none
  update := none
  rows := [id]
  found := false
  result := result
  upsert_args := ⟨iff_of_false (by simp) hupsert, fun h => absurd h hupsert⟩
  result_model := htop

def deliveryRecord : Tree Unit := .node "Delivery" "d1" [("pickupAddress", ()), ("status", ())] []

def sampleIvs : Nat → String → Iv := fun _ _ => sampleIv

def sampleDelivery : Operation :=
  sampleOperation "Delivery" "d1" .create (some ("pickupAddress", "Lot II 25")) [] (by decide) (by simp)

def sampleWebhook : Operation :=
  sampleOperation "Webhook" "w1" .create (some ("secret", "whsec_1")) [] (by decide) (by simp)

/-- A delivery is created, and then a webhook. -/
def sampleDb : EncDb :=
  (plainDb.write sampleAes sampleIvs sampleDelivery).write sampleAes sampleIvs sampleWebhook

theorem sampleDb_run : Run (Steps (EncDb.step sampleAes)) plainDb
    [(sampleIvs, sampleDelivery), (sampleIvs, sampleWebhook)] sampleDb :=
  Run.of_foldlM rfl

/-- `updateDriverStatus`: the row comes back from the update. -/
def sampleUpdate : Operation :=
  sampleOperation "Delivery" "d1" .update (some ("status", "picked_up")) [deliveryRecord] (by decide)
    (by simp [deliveryRecord, Tree.model])

/-- The read of the retry processor: the webhook is included. -/
def sampleInclude : Operation :=
  sampleOperation "WebhookDelivery" "x1" .findUnique none
    [.node "WebhookDelivery" "x1" [] [.node "Webhook" "w1" [("secret", ())] []]] (by decide)
    (by simp [Tree.model])

def sampleFind : Operation :=
  sampleOperation "Delivery" "d1" .findUnique none [deliveryRecord] (by decide)
    (by simp [deliveryRecord, Tree.model])

theorem EncDb.transparent_sample : sampleDb.Transparent sampleAes sampleIvs sampleFind := by
  refine (EncDb.transparent_iff (fun c => ⟨rfl, rfl⟩) sampleDb_run sampleIvs sampleFind).mpr ?_
  intro t ht
  obtain rfl := List.mem_singleton.mp ht
  exact ⟨by decide +kernel, by simp [deliveryRecord, Tree.nested, Tree.cellsList]⟩

/-- **The result of an update, and what a `find*` includes, come back encrypted.** -/
theorem EncDb.update_returns_ciphertext :
    ∃ db, Run (Steps (EncDb.step sampleAes)) plainDb
        [(sampleIvs, sampleDelivery), (sampleIvs, sampleWebhook)] db ∧
      ¬ db.Transparent sampleAes sampleIvs sampleUpdate ∧
      ¬ db.Transparent sampleAes sampleIvs sampleInclude := by
  have hplain : plainDb.Sound sampleAes := fun c => rfl
  have hsound : sampleDb.Sound sampleAes :=
    (hplain.write sampleIvs sampleDelivery).write sampleIvs sampleWebhook
  refine ⟨sampleDb, sampleDb_run, ?_, ?_⟩
  · rw [transparent_iff_readable hsound]
    intro h
    obtain ⟨hown, -⟩ := h _ (List.mem_singleton_self _)
    have haddress := hown (⟨"Delivery", "d1", "pickupAddress"⟩, ()) (by decide +kernel)
      (by decide +kernel)
    exact absurd haddress (by decide +kernel)
  · rw [transparent_iff_readable hsound]
    intro h
    obtain ⟨-, hnested⟩ := h _ (List.mem_singleton_self _)
    have hsecret := hnested (⟨"Webhook", "w1", "secret"⟩, ()) (by decide +kernel) (by decide +kernel)
    exact absurd hsecret (by decide +kernel)

end DeliveryTracking.Encryption
