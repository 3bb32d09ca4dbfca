/-
# `DeliveryTracking.Webhooks.Dispatch` — what becomes of a dispatched event

Of an event that was dispatched to a webhook a row is to be persisted, which from
then on is delivered, or scheduled, or was tried as often as it may be.  A call
or a job can end otherwise in four ways:

    the webhook was removed                nobody waits for the event
    the company was deleted                its webhooks are not tried again
    `deliver`: the URL does not pass       no row is created
    `process`: the URL does not pass       the row is stopped, with attempts left

and a URL does not pass when its host cannot be resolved just then.
`events_accounted_iff`: no event is lost exactly when neither of the last two
happens.
-/
import DeliveryTracking.Webhooks.Retry

namespace DeliveryTracking.Webhooks

/-- A step of the cron, the queue or a worker. -/
def WebhookEvent.isRetry : WebhookEvent → Bool
  | .cronSelect _ | .cronAdd _ | .evict _ | .retryRead _ | .retryValidated .. | .retryAnswered .. =>
    true
  | _ => false

namespace WebhookState

variable {s t : WebhookState} {e : WebhookEvent}

/-! ## The property and the condition -/

/-- The webhook is there, and its company was never deleted. -/
def due (s : WebhookState) (webhookId : String) : Bool :=
  (s.webhooks webhookId).any fun webhook => !s.everDeleted.contains webhook.companyId

/-- What was dispatched is on its way, or has a row that is accounted for. -/
def Kept (s : WebhookState) : Prop :=
  ∀ x ∈ s.dispatched, s.due x.webhookId = true →
    (∃ call ∈ s.delivering, call.id = x.id) ∨
      ∃ row, s.deliveries x.id = some row ∧ row.Stores x.webhookId x.event x.payload ∧ row.Accounted

/-- The row with this id is of an event that was dispatched to a webhook that is due. -/
def owed (s : WebhookState) (id : String) : Bool :=
  s.dispatched.any fun x => x.id == id && s.due x.webhookId

/-- A URL that is validated for an event that is owed passes. -/
def Passes (s : WebhookState) : WebhookEvent → Prop
  | .deliverValidated i safe => safe = true ∨ (s.delivering[i]?).any (s.owed ·.id) = false
  | .retryValidated i safe => safe = true ∨ (s.jobs[i]?).any (s.owed ·.jobId.id) = false
  | _ => True

instance (s : WebhookState) : DecidablePred s.Passes
  | .deliverValidated .. | .retryValidated .. => inferInstanceAs (Decidable (_ ∨ _))
  | .createWebhook _ | .updateWebhook _ | .removeWebhook _ | .setDeleted .. | .dispatch ..
  | .sendTest .. | .deliverRead _ | .deliverAnswered .. | .cronSelect _ | .cronAdd _ | .evict _
  | .retryRead _ | .retryAnswered .. => .isTrue trivial

/-! ## What a step does to a call -/

/-- The webhooks, the first attempts and what was dispatched are as before. -/
structure SameCalls (s t : WebhookState) : Prop where
  webhooks : t.webhooks = s.webhooks
  everDeleted : t.everDeleted = s.everDeleted
  delivering : t.delivering = s.delivering
  dispatched : t.dispatched = s.dispatched

theorem updateRow_same (s : WebhookState) (id : String) (f : WebhookDelivery → WebhookDelivery) :
    SameCalls s (s.updateRow id f) := by
  unfold updateRow
  split <;> exact ⟨rfl, rfl, rfl, rfl⟩

theorem createRow_same (s : WebhookState) (row : WebhookDelivery) :
    SameCalls s (s.createRow row) := by
  unfold createRow
  split <;> exact ⟨rfl, rfl, rfl, rfl⟩

theorem addJob_same (s : WebhookState) (jobId : JobId) : SameCalls s (s.addJob jobId) := by
  unfold addJob
  split <;> exact ⟨rfl, rfl, rfl, rfl⟩

theorem SameCalls.endJob (h : SameCalls s t) (i : Nat) (jobId : JobId) :
    SameCalls s (t.endJob i jobId) :=
  ⟨h.webhooks, h.everDeleted, h.delivering, h.dispatched⟩

theorem process_same (s : WebhookState) (i : Nat) (jobId : JobId) :
    SameCalls s (s.process i jobId) := by
  unfold process
  split
  · exact ⟨rfl, rfl, rfl, rfl⟩
  · split
    · exact ⟨rfl, rfl, rfl, rfl⟩
    · split
      · exact (updateRow_same s _ _).endJob i jobId
      · exact ⟨rfl, rfl, rfl, rfl⟩

/-- The retries leave the first attempts alone. -/
theorem step_same (he : e.isRetry = true) (hstep : s.step e = some t) : SameCalls s t := by
  cases step_taken hstep with
  | createWebhook _ | updateWebhook _ | removeWebhook _ | setDeleted _ _ | dispatch _ _ _
  | sendTest _ | webhookGone _ _ | deliverRead _ | deliverPosted _ | deliverUnsafe _
  | deliverAnswered _ _ _ => cases he
  | cronSelect _ | cronSkipped _ | evict _ | retryPosted _ => exact ⟨rfl, rfl, rfl, rfl⟩
  | cronAdded _ =>
    have hadd := addJob_same
    exact ⟨(hadd _ _).webhooks, (hadd _ _).everDeleted, (hadd _ _).delivering,
      (hadd _ _).dispatched⟩
  | retryRead _ => exact process_same s _ _
  | retryUnsafe _ => exact (updateRow_same s _ _).endJob _ _
  | retryAnswered _ _ _ => exact (updateRow_same s _ _).endJob _ _

/-- A call after a step. -/
inductive CallStep (s : WebhookState) (e : WebhookEvent) (t : WebhookState) (call : DeliverCall) :
    Prop
  | underWay {call' : DeliverCall} (hmem : call' ∈ t.delivering) (hid : call'.id = call.id) :
      CallStep s e t call
  | webhookGone (hwebhook : t.webhooks call.dispatch.webhookId = none) : CallStep s e t call
  | unsafeUrl {i : Nat} (he : e = .deliverValidated i false) (hi : s.delivering[i]? = some call) :
      CallStep s e t call
  | created (attempt : Attempt) (now : Int)
      (hrow : t.deliveries call.id = some (firstRow call.dispatch.id call.dispatch.webhookId
        call.dispatch.event call.dispatch.payload attempt now)) : CallStep s e t call

/-- The calls that start for an event. -/
theorem startEvents_spec {event timestamp : String} {payload : Json} :
    ∀ (calls : List (Webhook × String)) (s : WebhookState),
      let t := calls.foldl (fun t (webhook, id) => t.startEvent
        ⟨id, webhook.id, event, eventPayload event timestamp payload⟩) s
      (∀ call ∈ s.delivering, call ∈ t.delivering) ∧
        (∀ x ∈ s.dispatched, x ∈ t.dispatched) ∧
        (∀ x ∈ t.dispatched, x ∈ s.dispatched ∨ ∃ call ∈ t.delivering, call.id = x.id) ∧
        ∀ c ∈ calls, ⟨c.2, c.1.id, event, eventPayload event timestamp payload⟩ ∈ t.dispatched
  | [], s => ⟨fun _ h => h, fun _ h => h, fun _ h => Or.inl h, nofun⟩
  | (webhook, id) :: calls, s => by
    obtain ⟨hcalls, hold, hnew, hall⟩ := startEvents_spec calls
      (s.startEvent ⟨id, webhook.id, event, eventPayload event timestamp payload⟩)
    refine ⟨?_, ?_, ?_, ?_⟩
    · intro call hcall
      exact hcalls call (List.mem_append_left _ hcall)
    · intro x hx
      exact hold x (List.mem_cons_of_mem _ hx)
    · intro x hx
      rcases hnew x hx with hx | hx
      · rcases List.mem_cons.mp hx with rfl | hx
        · exact Or.inr ⟨_, hcalls _ (List.mem_append_right _ (List.mem_singleton_self _)), rfl⟩
        · exact Or.inl hx
      · exact Or.inr hx
    · refine List.forall_mem_cons.mpr ⟨?_, hall⟩
      exact hold _ List.mem_cons_self

/-- **A call stays under way, and ends only as `CallStep` says.** -/
theorem step_call (hstep : s.step e = some t) {call : DeliverCall} (hcall : call ∈ s.delivering) :
    CallStep s e t call := by
  have hsame : t.delivering = s.delivering → CallStep s e t call :=
    fun heq => .underWay (heq ▸ hcall) rfl
  have hmoved : ∀ {i : Nat} {x : Dispatch} {stage stage' : DeliverStage},
      s.delivering[i]? = some ⟨x, stage⟩ → t.delivering = s.delivering.set i ⟨x, stage'⟩ →
        CallStep s e t call := by
    intro i x stage stage' hi ht
    by_cases heq : call = ⟨x, stage⟩
    · subst heq
      have hmem : ⟨x, stage'⟩ ∈ t.delivering := ht ▸ mem_set_self hi
      exact .underWay hmem rfl
    · exact .underWay (ht ▸ mem_set_of_ne hi hcall heq) rfl
  have hended : ∀ {i : Nat} {old : DeliverCall}, s.delivering[i]? = some old →
      t.delivering = s.delivering.eraseIdx i → (call = old → CallStep s e t call) →
        CallStep s e t call := by
    intro i old hi ht hend
    by_cases heq : call = old
    · exact hend heq
    · exact .underWay (ht ▸ mem_eraseIdx_of_ne hi hcall heq) rfl
  cases step_taken hstep with
  | createWebhook _ | updateWebhook _ | removeWebhook _ | setDeleted _ _ => exact hsame rfl
  | dispatch _ _ _ => exact .underWay ((startEvents_spec _ s).1 call hcall) rfl
  | sendTest _ => exact .underWay (List.mem_append_left _ hcall) rfl
  | webhookGone hi hwebhook =>
    refine hended hi rfl ?_
    rintro rfl
    exact .webhookGone hwebhook
  | deliverRead hi => exact hmoved hi rfl
  | deliverPosted hi => exact hmoved hi rfl
  | deliverUnsafe hi =>
    refine hended hi rfl ?_
    rintro rfl
    exact .unsafeUrl rfl hi
  | @deliverAnswered i x hi outcome now =>
    refine hended hi (createRow_same _ _).delivering ?_
    rintro rfl
    unfold createRow
    split
    · exact .created outcome.attempt now (Function.update_self ..)
    · rename_i hgone
      exact .webhookGone (Option.not_isSome_iff_eq_none.mp hgone)
  | cronSelect _ | cronSkipped _ | cronAdded _ | evict _ | retryRead _ | retryPosted _
  | retryUnsafe _ | retryAnswered _ _ _ => exact hsame (step_same rfl hstep).delivering

/-! ## What a step does to what is due -/

theorem due_congr (hwebhooks : t.webhooks = s.webhooks) (hdeleted : t.everDeleted = s.everDeleted)
    (webhookId : String) : t.due webhookId = s.due webhookId := by
  rw [due, due, hwebhooks, hdeleted]

theorem due_startEvents {event timestamp : String} {payload : Json} :
    ∀ (calls : List (Webhook × String)) (s : WebhookState) (webhookId : String),
      (calls.foldl (fun t (webhook, id) => t.startEvent
        ⟨id, webhook.id, event, eventPayload event timestamp payload⟩) s).due webhookId
        = s.due webhookId
  | [], _, _ => rfl
  | (webhook, id) :: calls, s, webhookId => by
    rw [List.foldl_cons, due_startEvents calls]
    rfl

/-- What is dispatched and due was so before the step, or has just started. -/
theorem step_due (h : s.Inv) (hstep : s.step e = some t) {x : Dispatch} (hx : x ∈ t.dispatched)
    (hdue : t.due x.webhookId = true) :
    (x ∈ s.dispatched ∧ s.due x.webhookId = true) ∨ ∃ call ∈ t.delivering, call.id = x.id := by
  have hsame : SameCalls s t → x ∈ s.dispatched ∧ s.due x.webhookId = true := by
    intro hcalls
    refine ⟨hcalls.dispatched ▸ hx, ?_⟩
    rw [← due_congr hcalls.webhooks hcalls.everDeleted]
    exact hdue
  cases step_taken hstep with
  | @createWebhook webhook hnew =>
    have hne : x.webhookId ≠ webhook.id := by
      intro heq
      exact hnew (heq ▸ (h.dispatched x hx).2.1)
    refine Or.inl ⟨hx, ?_⟩
    simp only [due, Function.update_of_ne hne] at hdue
    exact hdue
  | @updateWebhook webhook old hold =>
    refine Or.inl ⟨hx, ?_⟩
    by_cases heq : x.webhookId = webhook.id
    · simp only [due, heq, Function.update_self] at hdue
      rw [due, heq, hold]
      exact hdue
    · simp only [due, Function.update_of_ne heq] at hdue
      exact hdue
  | removeWebhook id =>
    refine Or.inl ⟨hx, ?_⟩
    by_cases heq : x.webhookId = id
    · simp only [due, heq, Function.update_self] at hdue
      cases hdue
    · simp only [due, Function.update_of_ne heq] at hdue
      exact hdue
  | setDeleted companyId deleted =>
    refine Or.inl ⟨hx, ?_⟩
    cases deleted with
    | false => exact hdue
    | true =>
      simp only [due, if_true, Option.any_eq_true] at hdue ⊢
      obtain ⟨webhook, hwebhook, hnever⟩ := hdue
      refine ⟨webhook, hwebhook, ?_⟩
      simp only [Bool.not_eq_true', List.contains_cons, Bool.or_eq_false_iff] at hnever ⊢
      exact hnever.2
  | dispatch _ _ _ =>
    rw [due_startEvents] at hdue
    exact ((startEvents_spec _ s).2.2.1 x hx).imp_left fun hold => ⟨hold, hdue⟩
  | sendTest _ | webhookGone _ _ | deliverRead _ | deliverPosted _ | deliverUnsafe _ =>
    exact Or.inl ⟨hx, hdue⟩
  | @deliverAnswered i y _ outcome now =>
    have hcreated := createRow_same (s.endCall i)
      (firstRow y.id y.webhookId y.event y.payload outcome.attempt now)
    rw [due_congr hcreated.webhooks hcreated.everDeleted] at hdue
    exact Or.inl ⟨hcreated.dispatched ▸ hx, hdue⟩
  | cronSelect _ | cronSkipped _ | cronAdded _ | evict _ | retryRead _ | retryPosted _
  | retryUnsafe _ | retryAnswered _ _ _ => exact Or.inl (hsame (step_same rfl hstep))

/-! ## Every step -/

theorem owed_iff {id : String} :
    s.owed id = true ↔ ∃ x ∈ s.dispatched, x.id = id ∧ s.due x.webhookId = true := by
  simp [owed, List.any_eq_true]

/-- A row of an event that is due is not stopped for its company. -/
theorem not_deleted_of_due (h : s.Inv) {webhookId : String} (hdue : s.due webhookId = true)
    {webhook : Webhook} (hwebhook : s.webhooks webhookId = some webhook) :
    webhook.companyId ∉ s.deletedAt := by
  intro hdeleted
  have hever : s.everDeleted.contains webhook.companyId = true := by
    simpa using h.everDeleted _ hdeleted
  rw [due, hwebhook, Option.any_some, hever] at hdue
  cases hdue

/-- A step at which the URLs pass loses no event. -/
theorem Kept.step (hkept : s.Kept) (h : s.Inv) (hstep : s.step e = some t) (hpasses : s.Passes e) :
    t.Kept := by
  intro x hx hdue
  rcases step_due h hstep hx hdue with ⟨hold, hwas⟩ | hcall
  swap
  · exact Or.inl hcall
  have howed : s.owed x.id = true := owed_iff.mpr ⟨x, hold, rfl, hwas⟩
  rcases hkept x hold hwas with ⟨call, hcall, hid⟩ | ⟨row, hrow, hstores, haccounted⟩
  · obtain rfl : call.dispatch = x := (h.dispatched x hold).2.2 call hcall hid
    cases step_call hstep hcall with
    | underWay hmem hid' => exact Or.inl ⟨_, hmem, hid'⟩
    | webhookGone hwebhook =>
      rw [due, hwebhook] at hdue
      cases hdue
    | @unsafeUrl i he hi =>
      subst he
      rcases hpasses with hsafe | hfree
      · cases hsafe
      · rw [hi, Option.any_some] at hfree
        exact absurd howed (by rw [show call.dispatch.id = call.id from rfl, hfree]; decide)
    | created attempt now hrow =>
      exact Or.inr ⟨_, hrow, firstRow_stores .., firstRow_accounted ..⟩
  · obtain ⟨row', hrow', hchange⟩ := step_row h hstep hrow
    refine Or.inr ⟨row', hrow', ?_⟩
    cases hchange with
    | same => exact ⟨hstores, haccounted⟩
    | companyDeleted hwebhook hdeleted =>
      rw [hstores.webhookId] at hwebhook
      exact absurd hdeleted (not_deleted_of_due h hwas hwebhook)
    | @unsafeUrl i job he hi hid hfinished =>
      subst he
      rcases hpasses with hsafe | hfree
      · cases hsafe
      · rw [hi, Option.any_some, hid, (h.rows _ row hrow).1] at hfree
        exact absurd howed (by rw [hfree]; decide)
    | retried attempt now hfinished =>
      exact ⟨hstores.retried row attempt now, WebhookDelivery.retried_accounted hfinished attempt now⟩

/-- A step that loses no event is one at which the URLs pass. -/
theorem Kept.passes (h : s.Inv) (hstep : s.step e = some t) (hkept : t.Kept) : s.Passes e := by
  cases step_taken hstep with
  | deliverPosted _ => exact Or.inl rfl
  | @deliverUnsafe i x webhook hi =>
    refine Or.inr ?_
    rw [hi, Option.any_some, ← Bool.not_eq_true, owed_iff]
    rintro ⟨y, hy, hid, hdue⟩
    rcases hkept y hy hdue with ⟨call, hcall, hcallid⟩ | ⟨row, hrow, -⟩
    · exact ne_of_mem_eraseIdx h.calls_nodup hi hcall (hcallid.trans hid)
    · have hnone := (h.calls _ (List.mem_of_getElem? hi)).2
      rw [← hid] at hnone
      exact Option.some_ne_none row (hrow.symm.trans hnone)
  | retryPosted _ => exact Or.inl rfl
  | @retryUnsafe i jobId delivery webhook hi =>
    obtain ⟨old, hold, -, hread⟩ := h.jobs_rows _ (List.mem_of_getElem? hi)
    obtain ⟨rfl, hfinished⟩ := hread delivery rfl
    have hsame := step_same rfl hstep
    have hstopped := updateRow_self WebhookDelivery.stopped hold
    refine Or.inr ?_
    rw [hi, Option.any_some, ← Bool.not_eq_true, owed_iff]
    rintro ⟨y, hy, hid, hdue⟩
    have hid' : y.id = jobId.id := hid
    rw [← due_congr hsame.webhooks hsame.everDeleted] at hdue
    rcases hkept y (hsame.dispatched ▸ hy) hdue with ⟨call, hcall, hcallid⟩ | ⟨row, hrow, -, hrest⟩
    · rw [hsame.delivering] at hcall
      exact h.call_ne_job hi hcall (hcallid.trans hid')
    · rw [hid'] at hrow
      cases hstopped.symm.trans hrow
      exact WebhookDelivery.not_stopped_accounted hfinished hrest
  | createWebhook _ | updateWebhook _ | removeWebhook _ | setDeleted _ _ | dispatch _ _ _
  | sendTest _ | webhookGone _ _ | deliverRead _ | deliverAnswered _ _ _ | cronSelect _
  | cronSkipped _ | cronAdded _ | evict _ | retryRead _ | retryAnswered _ _ _ => trivial

/-- A dispatch goes to every webhook of the company that is active and subscribed. -/
theorem dispatch_covers (h : s.Inv) {event companyId timestamp : String} {payload : Json}
    {ids : List String} (hstep : s.step (.dispatch event companyId timestamp payload ids) = some t)
    {key : String} {webhook : Webhook} (hwebhook : s.webhooks key = some webhook)
    (hcompany : webhook.companyId = companyId) (hactive : webhook.isActive = true)
    (hevent : event ∈ webhook.events) :
    ∃ x ∈ t.dispatched, x.webhookId = webhook.id ∧ x.event = event ∧
      x.payload = eventPayload event timestamp payload := by
  have hmem : webhook ∈ s.subscribed event companyId := by
    refine List.mem_filter.mpr ⟨List.mem_filterMap.mpr ⟨key, (h.webhooks key webhook hwebhook).2,
      hwebhook⟩, ?_⟩
    simp [hcompany, hactive, hevent]
  simp only [step] at hstep
  split at hstep
  · rename_i hids
    cases hstep
    rw [← List.map_fst_zip (le_of_eq hids.1.symm)] at hmem
    obtain ⟨c, hc, rfl⟩ := List.mem_map.mp hmem
    exact ⟨_, (startEvents_spec _ s).2.2.2 c hc, rfl, rfl, rfl⟩
  · cases hstep

/-- **In every run a dispatch goes to every webhook that is active and subscribed, and of what was
dispatched nothing is ever lost exactly when every URL that is validated for it passes.** -/
theorem events_accounted_iff {events : List WebhookEvent} (hrun : Run (Steps step) start events s) :
    ((∀ es₁ es₂ u, events = es₁ ++ es₂ → Run (Steps step) start es₁ u → u.Kept) ↔
      Run (Guarded (Steps step) Passes) start events s) ∧
    ∀ es u v event companyId timestamp payload ids, Run (Steps step) start es u →
      u.step (.dispatch event companyId timestamp payload ids) = some v →
      ∀ key webhook, u.webhooks key = some webhook → webhook.companyId = companyId →
        webhook.isActive = true → event ∈ webhook.events →
        ∃ x ∈ v.dispatched, x.webhookId = webhook.id ∧ x.event = event ∧
          x.payload = eventPayload event timestamp payload := by
  constructor
  · have hexact : (∀ es₁ es₂ u, events = es₁ ++ es₂ → Run (Steps step) start es₁ u →
        u.Inv ∧ u.Kept) ↔ Run (Guarded (Steps step) Passes) start events s := by
      refine Run.always_iff_guarded ?_ ?_ hrun ⟨start_inv, nofun⟩
      · intro s e t t' ht ht'
        exact Option.some.inj (ht.symm.trans ht')
      · rintro s e t ⟨hinv, hkept⟩ hstep
        constructor
        · rintro ⟨-, ht⟩
          exact ht.passes hinv hstep
        · intro hpasses
          exact ⟨hinv.step hstep, hkept.step hinv hstep hpasses⟩
    rw [← hexact]
    constructor
    · intro h es₁ es₂ u hes hu
      exact ⟨inv_of_run hu, h es₁ es₂ u hes hu⟩
    · intro h es₁ es₂ u hes hu
      exact (h es₁ es₂ u hes hu).2
  · intro es u v event companyId timestamp payload ids hu hstep key webhook hwebhook
    exact dispatch_covers (inv_of_run hu) hstep hwebhook

/-- An event that fails once is not lost. -/
theorem events_accounted_sample : ∃ s, Run (Steps step) start (firstEvents ++ retryEvents) s ∧
    s.Kept := by
  have hguarded : ((firstEvents ++ retryEvents).foldlM (guardStep step Passes) start).isSome = true := by
    decide +kernel
  obtain ⟨s, hs⟩ := Option.isSome_iff_exists.mp hguarded
  have hrun := Run.of_guardStep hs
  refine ⟨s, hrun.of_guarded, ?_⟩
  exact (events_accounted_iff hrun.of_guarded).1.mpr hrun _ [] s (List.append_nil _).symm
    hrun.of_guarded

/-- The host of the webhook cannot be resolved when the event is dispatched. -/
def unresolvedEvents : List WebhookEvent := firstEvents.take 3 ++ [.deliverValidated 0 false]

/-- **Nothing is left of the event: no call, and no row.** -/
theorem event_vanishes : ∃ s, Run (Steps step) start unresolvedEvents s ∧ ¬ s.Kept := by
  have hend : (unresolvedEvents.foldlM step start).any (fun s =>
      s.dispatched.any (fun x => x.id == "x1" && s.due x.webhookId) &&
        s.delivering.isEmpty && (s.deliveries "x1").isNone) = true := by decide +kernel
  obtain ⟨s, hrun, hs⟩ := Run.of_foldlM_any hend
  simp only [Bool.and_eq_true, List.any_eq_true, beq_iff_eq, List.isEmpty_iff,
    Option.isNone_iff_eq_none] at hs
  obtain ⟨⟨⟨x, hx, hid, hdue⟩, hcalls⟩, hrows⟩ := hs
  refine ⟨s, hrun, ?_⟩
  intro hkept
  rcases hkept x hx hdue with ⟨call, hcall, -⟩ | ⟨row, hrow, -⟩
  · rw [hcalls] at hcall
    cases hcall
  · rw [hid, hrows] at hrow
    cases hrow

end WebhookState

end DeliveryTracking.Webhooks
