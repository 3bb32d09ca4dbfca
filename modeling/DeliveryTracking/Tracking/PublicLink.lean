/-
# `DeliveryTracking.Tracking.PublicLink` — links that show a delivery

`generatePublicToken`, `revokePublicToken` and `getPublicTrackingInfo` of
`tracking.controller.ts`.  A link is a token that is signed with the secret of the access
tokens, which sign other things too.

    opens     signed as a link, less than a day old, and no revocation since

A token says its age in seconds and a revocation its time in milliseconds, so a link that
is made in the second of a revocation, after it, does not open either.
-/
import DeliveryTracking.Runs
import Mathlib.Order.Basic

namespace DeliveryTracking.Tracking

/-- `expiresIn: '24h'`, in seconds -/
def PUBLIC_LINK_TTL_S : Nat := 24 * 60 * 60

/-- What is read of a payload. -/
structure TokenPayload where
  deliveryId : String
  companyId : String
  scope : Option String
  iat : Nat
  exp : Nat
  deriving DecidableEq, Repr

/-- What is read of a delivery. -/
structure LinkedDelivery where
  id : String
  companyId : String
  publicTrackingRevokedAt : Option Nat
  deriving DecidableEq, Repr

/-- `now` is in milliseconds, and `signed` are the tokens of the secret.  No code reads `created`,
the deliveries so far, nor `revocations`, with their times. -/
structure PublicLinks where
  now : Nat
  deliveries : List LinkedDelivery
  signed : List TokenPayload
  created : List String
  revocations : List (String × Nat)
  deriving DecidableEq, Repr

inductive PublicLinkEvent where
  | advance (t : Nat)
  | createDelivery (d : LinkedDelivery)
  | deleteDelivery (id : String)
  /-- A token of another scope is signed with the same secret. -/
  | sign (p : TokenPayload)
  | generatePublicToken (companyId deliveryId : String)
  | revokePublicToken (companyId deliveryId : String)
  deriving DecidableEq, Repr

namespace PublicLinks

variable (s : PublicLinks)

/-- `findFirst({ where: { id, companyId } })` -/
def getDeliveryInfo (deliveryId companyId : String) : Option LinkedDelivery :=
  s.deliveries.find? fun d => d.id = deliveryId && d.companyId = companyId

/-- The token of a link that is made now. -/
def publicToken (companyId deliveryId : String) : TokenPayload where
  deliveryId := deliveryId
  companyId := companyId
  scope := some "public-tracking"
  iat := s.now / 1000
  exp := s.now / 1000 + PUBLIC_LINK_TTL_S

def revoke (deliveryId : String) : PublicLinks :=
  { s with
    deliveries := s.deliveries.map fun d =>
      if d.id = deliveryId then { d with publicTrackingRevokedAt := some s.now } else d
    revocations := (deliveryId, s.now) :: s.revocations }

/-- `jwtService.verify`: signed, and not expired -/
def verify (p : TokenPayload) : Bool := p ∈ s.signed && s.now / 1000 < p.exp

/-- `getPublicTrackingInfo` answers with the delivery. -/
def getPublicTrackingInfo (p : TokenPayload) : Option LinkedDelivery :=
  if !s.verify p then none
  else if p.scope ≠ some "public-tracking" then none
  else
    match s.getDeliveryInfo p.deliveryId p.companyId with
    | none => none
    | some d =>
        if d.publicTrackingRevokedAt.any fun r => p.iat * 1000 < r then none else some d

def step (s : PublicLinks) : PublicLinkEvent → Option PublicLinks
  | .advance t => if s.now ≤ t then some { s with now := t } else none
  | .createDelivery d =>
      if d.publicTrackingRevokedAt = none ∧ d.id ∉ s.created then
        some { s with deliveries := d :: s.deliveries, created := d.id :: s.created }
      else none
  | .deleteDelivery id => some { s with deliveries := s.deliveries.filter fun d => d.id ≠ id }
  | .sign p =>
      if p.scope ≠ some "public-tracking" then some { s with signed := p :: s.signed } else none
  | .generatePublicToken companyId deliveryId =>
      (s.getDeliveryInfo deliveryId companyId).map fun _ =>
        { s with signed := s.publicToken companyId deliveryId :: s.signed }
  | .revokePublicToken companyId deliveryId =>
      (s.getDeliveryInfo deliveryId companyId).map fun _ => s.revoke deliveryId

def start : PublicLinks := ⟨0, [], [], [], []⟩

/-! ## What every step keeps -/

structure Coherent (s : PublicLinks) : Prop where
  link : ∀ p ∈ s.signed, p.scope = some "public-tracking" →
    p.exp = p.iat + PUBLIC_LINK_TTL_S ∧ p.iat * 1000 ≤ s.now
  nodup : (s.deliveries.map LinkedDelivery.id).Nodup
  /-- The column has the last revocation. -/
  revoked : ∀ d ∈ s.deliveries, ∀ r, (d.id, r) ∈ s.revocations →
    ∃ last, d.publicTrackingRevokedAt = some last ∧ r ≤ last
  revocation : ∀ d ∈ s.deliveries, ∀ r, d.publicTrackingRevokedAt = some r →
    (d.id, r) ∈ s.revocations
  past : ∀ x ∈ s.revocations, x.2 ≤ s.now
  created : ∀ d ∈ s.deliveries, d.id ∈ s.created
  revocation_created : ∀ x ∈ s.revocations, x.1 ∈ s.created

variable {s t : PublicLinks} {d : LinkedDelivery} {p : TokenPayload} {deliveryId companyId : String}

theorem mem_of_getDeliveryInfo (h : s.getDeliveryInfo deliveryId companyId = some d) :
    d ∈ s.deliveries ∧ d.id = deliveryId ∧ d.companyId = companyId := by
  have hfields := List.find?_some h
  simp only [Bool.and_eq_true, decide_eq_true_eq] at hfields
  exact ⟨List.mem_of_find?_eq_some h, hfields⟩

theorem Coherent.getDeliveryInfo (h : s.Coherent) (hd : d ∈ s.deliveries) :
    s.getDeliveryInfo d.id d.companyId = some d := by
  cases hfound : s.getDeliveryInfo d.id d.companyId with
  | none =>
      have hnot := List.find?_eq_none.mp hfound d hd
      simp at hnot
  | some d' =>
      obtain ⟨hd', hid, -⟩ := mem_of_getDeliveryInfo hfound
      rw [List.inj_on_of_nodup_map h.nodup hd' hd hid]

theorem Coherent.revoke (h : s.Coherent) (hid : deliveryId ∈ s.created) :
    (s.revoke deliveryId).Coherent := by
  have hmap : ∀ d ∈ (s.revoke deliveryId).deliveries, ∃ d' ∈ s.deliveries, d'.id = d.id ∧
      (d.id ≠ deliveryId ∧ d' = d ∨
        d.id = deliveryId ∧ d.publicTrackingRevokedAt = some s.now) := by
    intro d hd
    obtain ⟨d', hd', rfl⟩ := List.mem_map.mp hd
    by_cases heq : d'.id = deliveryId
    · exact ⟨d', hd', by rw [if_pos heq], Or.inr (by rw [if_pos heq]; exact ⟨heq, rfl⟩)⟩
    · exact ⟨d', hd', by rw [if_neg heq], Or.inl (by rw [if_neg heq]; exact ⟨heq, rfl⟩)⟩
  refine { link := h.link, nodup := ?_, revoked := ?_, revocation := ?_, past := ?_,
           created := ?_, revocation_created := ?_ }
  · have hids : (s.revoke deliveryId).deliveries.map LinkedDelivery.id =
        s.deliveries.map LinkedDelivery.id := by
      show (s.deliveries.map _).map _ = _
      rw [List.map_map]
      refine List.map_congr_left ?_
      intro d _
      show (if d.id = deliveryId then _ else d : LinkedDelivery).id = d.id
      split <;> rfl
    rw [hids]
    exact h.nodup
  · intro d hd r hr
    obtain ⟨d', hd', hsame, ⟨hne, rfl⟩ | ⟨heq, hnow⟩⟩ := hmap d hd
    · rcases List.mem_cons.mp hr with hfirst | hr
      · exact absurd (Prod.ext_iff.mp hfirst).1 hne
      · exact h.revoked d' hd' r hr
    · refine ⟨s.now, hnow, ?_⟩
      rcases List.mem_cons.mp hr with hfirst | hr
      · exact Nat.le_of_eq (Prod.ext_iff.mp hfirst).2
      · exact h.past _ hr
  · intro d hd r hr
    obtain ⟨d', hd', hsame, ⟨hne, rfl⟩ | ⟨heq, hnow⟩⟩ := hmap d hd
    · exact List.mem_cons_of_mem _ (h.revocation d' hd' r hr)
    · obtain rfl := Option.some.inj (hnow.symm.trans hr)
      rw [heq]
      exact List.mem_cons_self ..
  · intro x hx
    rcases List.mem_cons.mp hx with rfl | hx
    · exact Nat.le_refl _
    · exact h.past x hx
  · intro d hd
    obtain ⟨d', hd', hsame, -⟩ := hmap d hd
    rw [← hsame]
    exact h.created d' hd'
  · intro x hx
    rcases List.mem_cons.mp hx with rfl | hx
    · exact hid
    · exact h.revocation_created x hx

theorem coherent_step {e : PublicLinkEvent} (h : s.Coherent) (hstep : step s e = some t) :
    t.Coherent := by
  cases e with
  | advance now =>
      obtain ⟨hnow, ⟨⟩⟩ := Option.ite_none_right_eq_some.mp hstep
      refine { h with link := ?_, past := fun x hx => Nat.le_trans (h.past x hx) hnow }
      intro p hp hscope
      exact (h.link p hp hscope).imp_right fun hle => Nat.le_trans hle hnow
  | createDelivery d =>
      obtain ⟨⟨hnone, hfresh⟩, ⟨⟩⟩ := Option.ite_none_right_eq_some.mp hstep
      refine { h with nodup := ?_, revoked := ?_, revocation := ?_, created := ?_,
                      revocation_created := ?_ }
      · refine List.nodup_cons.mpr ⟨?_, h.nodup⟩
        intro hmem
        obtain ⟨d', hd', hid⟩ := List.mem_map.mp hmem
        exact hfresh (hid ▸ h.created d' hd')
      · intro d' hd' r hr
        rcases List.mem_cons.mp hd' with rfl | hd'
        · exact absurd (h.revocation_created _ hr) hfresh
        · exact h.revoked d' hd' r hr
      · intro d' hd' r hr
        rcases List.mem_cons.mp hd' with rfl | hd'
        · cases hnone.symm.trans hr
        · exact h.revocation d' hd' r hr
      · intro d' hd'
        rcases List.mem_cons.mp hd' with rfl | hd'
        · exact List.mem_cons_self ..
        · exact List.mem_cons_of_mem _ (h.created d' hd')
      · intro x hx
        exact List.mem_cons_of_mem _ (h.revocation_created x hx)
  | deleteDelivery id =>
      obtain rfl := Option.some.inj hstep
      have hsub : ∀ d ∈ s.deliveries.filter (fun d => d.id ≠ id), d ∈ s.deliveries :=
        fun d hd => (List.mem_filter.mp hd).1
      exact { h with
        nodup := h.nodup.sublist (List.filter_sublist.map _)
        revoked := fun d hd => h.revoked d (hsub d hd)
        revocation := fun d hd => h.revocation d (hsub d hd)
        created := fun d hd => h.created d (hsub d hd) }
  | sign p =>
      obtain ⟨hother, ⟨⟩⟩ := Option.ite_none_right_eq_some.mp hstep
      refine { h with link := ?_ }
      intro q hq hscope
      rcases List.mem_cons.mp hq with rfl | hq
      · exact absurd hscope hother
      · exact h.link q hq hscope
  | generatePublicToken companyId deliveryId =>
      obtain ⟨d, -, rfl⟩ := Option.map_eq_some_iff.mp hstep
      refine { h with link := ?_ }
      intro q hq hscope
      rcases List.mem_cons.mp hq with rfl | hq
      · exact ⟨rfl, Nat.div_mul_le_self s.now 1000⟩
      · exact h.link q hq hscope
  | revokePublicToken companyId deliveryId =>
      obtain ⟨d, hd, rfl⟩ := Option.map_eq_some_iff.mp hstep
      obtain ⟨hmem, rfl, -⟩ := mem_of_getDeliveryInfo hd
      exact h.revoke (h.created d hmem)

theorem coherent_start : start.Coherent where
  link := by intro p hp; cases hp
  nodup := List.nodup_nil
  revoked := by intro d hd; cases hd
  revocation := by intro d hd; cases hd
  past := by intro x hx; cases hx
  created := by intro d hd; cases hd
  revocation_created := by intro x hx; cases hx

/-! ## Which links open -/

theorem getPublicTrackingInfo_eq_some_iff (h : s.Coherent) :
    s.getPublicTrackingInfo p = some d ↔
      p ∈ s.signed ∧ p.scope = some "public-tracking" ∧ s.now / 1000 < p.iat + PUBLIC_LINK_TTL_S ∧
        d ∈ s.deliveries ∧ d.id = p.deliveryId ∧ d.companyId = p.companyId ∧
        ∀ r, (p.deliveryId, r) ∈ s.revocations → r ≤ p.iat * 1000 := by
  unfold getPublicTrackingInfo verify
  constructor
  · intro hopens
    split_ifs at hopens with hverify hscope
    split at hopens
    · cases hopens
    · rename_i d' hfound
      split_ifs at hopens with hrevoked
      obtain rfl := Option.some.inj hopens
      obtain ⟨hd, hid, hcompany⟩ := mem_of_getDeliveryInfo hfound
      simp only [Bool.not_eq_true', Bool.not_eq_false, Bool.and_eq_true, decide_eq_true_eq]
        at hverify
      have hscope' : p.scope = some "public-tracking" := not_not.mp hscope
      refine ⟨hverify.1, hscope', ?_, hd, hid, hcompany, ?_⟩
      · rw [← (h.link p hverify.1 hscope').1]
        exact hverify.2
      · intro r hr
        obtain ⟨last, hlast, hle⟩ := h.revoked d' hd r (hid.symm ▸ hr)
        rw [hlast, Option.any_some, decide_eq_true_eq, Nat.not_lt] at hrevoked
        exact Nat.le_trans hle hrevoked
  · rintro ⟨hsigned, hscope, hlive, hd, hid, hcompany, hrevocations⟩
    have hverify : (decide (p ∈ s.signed) && decide (s.now / 1000 < p.exp)) = true := by
      rw [(h.link p hsigned hscope).1]
      exact Bool.and_eq_true_iff.mpr ⟨decide_eq_true hsigned, decide_eq_true hlive⟩
    have hfound : s.getDeliveryInfo p.deliveryId p.companyId = some d := by
      rw [← hid, ← hcompany]
      exact h.getDeliveryInfo hd
    have hrevoked : ¬(d.publicTrackingRevokedAt.any fun r => p.iat * 1000 < r) = true := by
      intro hany
      obtain ⟨r, hr, hlt⟩ := (Option.any_eq_true _ _).mp hany
      have hle : r ≤ p.iat * 1000 := hrevocations r (hid ▸ h.revocation d hd r hr)
      exact absurd (of_decide_eq_true hlt) (Nat.not_lt.mpr hle)
    rw [hverify]
    simp only [Bool.not_true, Bool.false_eq_true, if_false, ne_eq, hscope, not_true, hfound]
    exact if_neg hrevoked

/-- In every run, a link opens exactly when it was made for a delivery that its company still has,
less than a day before, and no revocation of that delivery is later than the second it was made in. -/
theorem publicLink_opens_iff {es : List PublicLinkEvent} (h : Run (Steps step) start es s) :
    s.getPublicTrackingInfo p = some d ↔
      p ∈ s.signed ∧ p.scope = some "public-tracking" ∧ s.now / 1000 < p.iat + PUBLIC_LINK_TTL_S ∧
        d ∈ s.deliveries ∧ d.id = p.deliveryId ∧ d.companyId = p.companyId ∧
        ∀ r, (p.deliveryId, r) ∈ s.revocations → r ≤ p.iat * 1000 :=
  getPublicTrackingInfo_eq_some_iff (h.invariant (I := Coherent) coherent_step coherent_start)

/-- Revocations stay. -/
theorem revocations_subset {es : List PublicLinkEvent} (h : Run (Steps step) s es t) :
    s.revocations ⊆ t.revocations := by
  refine h.rel (R := fun s t => s.revocations ⊆ t.revocations) (fun _ => List.Subset.refl _)
    (fun h h' => List.Subset.trans h h') ?_
  intro s e t hstep
  unfold Steps at hstep
  cases e with
  | advance now =>
      obtain ⟨-, ⟨⟩⟩ := Option.ite_none_right_eq_some.mp hstep
      exact List.Subset.refl _
  | createDelivery d =>
      obtain ⟨-, ⟨⟩⟩ := Option.ite_none_right_eq_some.mp hstep
      exact List.Subset.refl _
  | deleteDelivery id =>
      obtain rfl := Option.some.inj hstep
      exact List.Subset.refl _
  | sign p =>
      obtain ⟨-, ⟨⟩⟩ := Option.ite_none_right_eq_some.mp hstep
      exact List.Subset.refl _
  | generatePublicToken companyId deliveryId =>
      obtain ⟨d, -, rfl⟩ := Option.map_eq_some_iff.mp hstep
      exact List.Subset.refl _
  | revokePublicToken companyId deliveryId =>
      obtain ⟨d, -, rfl⟩ := Option.map_eq_some_iff.mp hstep
      exact List.subset_cons_self ..

/-- Once its delivery is revoked, a link that was made before never opens again: no later link, and
nothing else that happens, brings it back. -/
theorem publicLink_revoked {es fs : List PublicLinkEvent} (h : Run (Steps step) start es s)
    (hrevoke : step s (.revokePublicToken companyId deliveryId) = some t) {u : PublicLinks}
    (hrest : Run (Steps step) t fs u) (hp : p.deliveryId = deliveryId) (hbefore : p.iat * 1000 < s.now) :
    u.getPublicTrackingInfo p = none := by
  cases hopens : u.getPublicTrackingInfo p with
  | none => rfl
  | some d =>
      have hrun : Run (Steps step) start (es ++ .revokePublicToken companyId deliveryId :: fs) u :=
        h.append (.cons hrevoke hrest)
      have hcoherent : u.Coherent := hrun.invariant (I := Coherent) coherent_step coherent_start
      obtain ⟨-, -, -, -, -, -, hlate⟩ := (getPublicTrackingInfo_eq_some_iff hcoherent).mp hopens
      obtain ⟨d', -, rfl⟩ := Option.map_eq_some_iff.mp hrevoke
      have hmem : (deliveryId, s.now) ∈ u.revocations :=
        revocations_subset hrest (List.mem_cons_self ..)
      have hle : s.now ≤ p.iat * 1000 := hlate s.now (hp ▸ hmem)
      omega

/-- A link, its revocation half a second later, and another link in the second after that one. -/
def revoked : List PublicLinkEvent :=
  [.createDelivery ⟨"d1", "c1", none⟩, .generatePublicToken "c1" "d1", .advance 500,
    .revokePublicToken "c1" "d1", .advance 1000, .generatePublicToken "c1" "d1"]

theorem publicLink_opens_revoked : ∃ s d, Run (Steps step) start revoked s ∧
    s.getPublicTrackingInfo ⟨"d1", "c1", some "public-tracking", 1, 86401⟩ = some d ∧
    ∀ r, ("d1", r) ∈ s.revocations → r ≤ 1 * 1000 := by
  have hend : (revoked.foldlM step start).any (fun s => (s.getPublicTrackingInfo
      ⟨"d1", "c1", some "public-tracking", 1, 86401⟩).isSome) = true := by decide +kernel
  obtain ⟨s, hrun, hsome⟩ := Run.of_foldlM_any hend
  obtain ⟨d, hd⟩ := Option.isSome_iff_exists.mp hsome
  obtain ⟨-, -, -, -, -, -, hlate⟩ := (publicLink_opens_iff hrun).mp hd
  exact ⟨s, d, hrun, hd, hlate⟩

theorem publicLink_revoked_first : ∃ s, Run (Steps step) start revoked s ∧
    s.getPublicTrackingInfo ⟨"d1", "c1", some "public-tracking", 0, 86400⟩ = none := by
  have hfirst : Run (Steps step) start (revoked.take 3) ⟨500, [⟨"d1", "c1", none⟩],
      [⟨"d1", "c1", some "public-tracking", 0, 86400⟩], ["d1"], []⟩ :=
    Run.of_foldlM (by decide +kernel)
  have hrevoke : step ⟨500, [⟨"d1", "c1", none⟩],
      [⟨"d1", "c1", some "public-tracking", 0, 86400⟩], ["d1"], []⟩
      (.revokePublicToken "c1" "d1") = some ⟨500, [⟨"d1", "c1", some 500⟩],
        [⟨"d1", "c1", some "public-tracking", 0, 86400⟩], ["d1"], [("d1", 500)]⟩ := by
    decide +kernel
  have hend : ((revoked.drop 4).foldlM step ⟨500, [⟨"d1", "c1", some 500⟩],
      [⟨"d1", "c1", some "public-tracking", 0, 86400⟩], ["d1"], [("d1", 500)]⟩).any
        (fun _ => true) = true := by decide +kernel
  obtain ⟨s, hrest, -⟩ := Run.of_foldlM_any hend
  exact ⟨s, hfirst.append (.cons hrevoke hrest),
    publicLink_revoked hfirst hrevoke hrest rfl (by decide)⟩

end PublicLinks

end DeliveryTracking.Tracking
