import NovaPuraRouter.OrderSpec

/-! The budget of a top-up promotion. Reservations move between statuses under the lock of
their campaign, whose two counters follow the sums by status. A reservation counts what its
user holds in the snapshot of its transaction, which may be older than the lock. An
administrator edits the policy without the lock: the row is read, and later written whole,
with the counters as they were at the read. -/
namespace NovaPuraRouter.PromoBudget
open TopupOrder Option Table

def launchTopupPromotionCampaignId : Nat := 1

structure CampaignPolicy where
  name : String
  enabled : Bool
  startAt : Int
  endAt : Int
  globalBudgetMicroUSD : Int
  perUserLimit : Int
  defaultPromoExpiryDays : Int

inductive CampaignFailure
  | nameRequired | endBeforeStart | budgetNegative | limitNegative | expiryOutOfRange | budgetBelowUsed
  deriving DecidableEq, Repr

def edited (policy : CampaignPolicy) (copy : TopupPromotionCampaign) : TopupPromotionCampaign := { copy with
  enabled := policy.enabled
  startAt := policy.startAt
  endAt := policy.endAt
  globalBudgetMicroUSD := policy.globalBudgetMicroUSD
  perUserLimit := policy.perUserLimit }

def validateTopupPromotionCampaign (policy : CampaignPolicy) (campaign : TopupPromotionCampaign) : Except CampaignFailure Unit := do
  require (¬ policy.name.toList.all Char.isWhitespace) .nameRequired
  require (¬ (0 < campaign.startAt ∧ 0 < campaign.endAt ∧ campaign.endAt ≤ campaign.startAt)) .endBeforeStart
  require (0 ≤ campaign.globalBudgetMicroUSD) .budgetNegative
  require (0 ≤ campaign.perUserLimit) .limitNegative
  require (0 ≤ policy.defaultPromoExpiryDays ∧ policy.defaultPromoExpiryDays ≤ 3650) .expiryOutOfRange
  require (¬ (0 < campaign.globalBudgetMicroUSD ∧
    campaign.globalBudgetMicroUSD < campaign.reservedPromoMicroUSD + campaign.issuedPromoMicroUSD)) .budgetBelowUsed

def saveTopupPromotionCampaign (db : Database) (policy : CampaignPolicy) (copy : TopupPromotionCampaign) :
    Except CampaignFailure Database := do
  validateTopupPromotionCampaign policy (edited policy copy)
  pure { db with campaigns := db.campaigns.modify launchTopupPromotionCampaignId (fun _ => edited policy copy) }

structure PromoSystem where
  db : Database
  clock : Int
  snapshots : List Database
  edits : List TopupPromotionCampaign
  relimited : List Nat

inductive PromoOp
  | elapse (seconds : Nat)
  | openReservation
  | reserve (index : Nat) (orderId : String) (userId tierId : Nat) (promoMicroUSD : Int)
  | release (orderId : String)
  | issue (orderId : String)
  | reverse (orderId : String)
  | readCampaign
  | saveCampaign (index : Nat) (policy : CampaignPolicy)

def limitOf (db : Database) (campaignId : Nat) : Option Int := (db.campaigns.get? campaignId).map (·.perUserLimit)

variable (sys : PromoSystem)

def saved (policy : CampaignPolicy) (copy : TopupPromotionCampaign) : PromoSystem :=
  let db := commit sys.db (saveTopupPromotionCampaign sys.db policy copy)
  { sys with
    db := db
    relimited := if limitOf db launchTopupPromotionCampaignId = limitOf sys.db launchTopupPromotionCampaignId then sys.relimited
      else launchTopupPromotionCampaignId :: sys.relimited }

def promoStep : PromoOp → PromoSystem
  | .elapse seconds => { sys with clock := sys.clock + seconds }
  | .openReservation => { sys with snapshots := sys.snapshots ++ [sys.db] }
  | .reserve index orderId userId tierId promoMicroUSD => match sys.snapshots[index]? with
    | none => sys
    | some seen => { sys with
        snapshots := sys.snapshots.eraseIdx index
        db := commit sys.db (reserveTopupPromotionWithTx seen sys.db orderId userId tierId promoMicroUSD sys.clock) }
  | .release orderId => { sys with db := commit sys.db (releaseTopupPromotionWithTx sys.db orderId sys.clock) }
  | .issue orderId => { sys with db := commit sys.db (issueTopupPromotionWithTx sys.db orderId sys.clock) }
  | .reverse orderId => { sys with db := commit sys.db (reverseTopupPromotionWithTx sys.db orderId sys.clock) }
  | .readCampaign => match sys.db.campaigns.get? launchTopupPromotionCampaignId with
    | none => sys
    | some copy => { sys with edits := sys.edits ++ [copy] }
  | .saveCampaign index policy => match sys.edits[index]? with
    | none => sys
    | some copy => saved { sys with edits := sys.edits.eraseIdx index } policy copy

def statusSum (db : Database) (campaignId : Nat) (status : TopupPromoRedemptionStatus) : Int :=
  db.promoRedemptions.sum (fun _ r => if r.campaignId = campaignId ∧ r.status = status then r.promoMicroUSD else 0)

def heldOfCampaign (db : Database) (id userId : Nat) : Int :=
  usedPromotions db (fun r => decide (r.campaignId = id ∧ r.userId = userId))

def heldOfTier (db : Database) (id userId : Nat) : Int := usedPromotions db (fun r => decide (r.tierId = id ∧ r.userId = userId))

structure CampaignAccounted (sys : PromoSystem) (id : Nat) (c : TopupPromotionCampaign) : Prop where
  reserved : c.reservedPromoMicroUSD = statusSum sys.db id .reserved
  issued : c.issuedPromoMicroUSD = statusSum sys.db id .issued
  budget : 0 < c.globalBudgetMicroUSD → c.reservedPromoMicroUSD + c.issuedPromoMicroUSD ≤ c.globalBudgetMicroUSD
  limit : id ∉ sys.relimited → 0 < c.perUserLimit → ∀ userId, heldOfCampaign sys.db id userId ≤ c.perUserLimit

structure Accounted (sys : PromoSystem) : Prop where
  campaigns : ∀ id c, sys.db.campaigns.get? id = some c → CampaignAccounted sys id c
  tiers : ∀ id t, sys.db.tiers.get? id = some t → 0 < t.perUserLimit →
    ∀ userId, heldOfTier sys.db id userId ≤ t.perUserLimit

/- A save writes back the counters of the row as it is, and a reservation has seen no fewer
redemptions of its user than there are. -/
def Current : PromoOp → Prop
  | .reserve index _ userId tierId _ => ∀ seen ∈ sys.snapshots[index]?, ∀ tier ∈ seen.tiers.get? tierId,
      heldOfCampaign sys.db tier.campaignId userId ≤ heldOfCampaign seen tier.campaignId userId ∧
      heldOfTier sys.db tierId userId ≤ heldOfTier seen tierId userId
  | .saveCampaign index policy => ∀ copy ∈ sys.edits[index]?, ∀ current ∈ sys.db.campaigns.get? launchTopupPromotionCampaignId,
      (validateTopupPromotionCampaign policy (edited policy copy)).isOk = true →
        copy.reservedPromoMicroUSD = current.reservedPromoMicroUSD ∧ copy.issuedPromoMicroUSD = current.issuedPromoMicroUSD
  | _ => True

def Positive : Prop := ∀ orderId r, sys.db.promoRedemptions.get? orderId = some r → 0 < r.promoMicroUSD

def TiersSeen : Prop := ∀ seen ∈ sys.snapshots, seen.tiers = sys.db.tiers

def inUse (status : TopupPromoRedemptionStatus) : Bool := decide (status = .reserved ∨ status = .issued)

theorem usedSum (db p) : usedPromotions db p = db.promoRedemptions.sum (fun _ r => if p r && inUse r.status then 1 else 0) := by
  have count := sumSelect db.promoRedemptions (fun _ r => p r && inUse r.status) (fun _ _ => 1)
  simpa [usedPromotions,inUse] using count

structure Marked (db db' : Database) (orderId : String) (r r' : TopupPromoRedemption) : Prop where
  found : db.promoRedemptions.get? orderId = some r
  written : ∃ mark : TopupPromoRedemption → TopupPromoRedemption, mark r = r' ∧ db'.promoRedemptions = db.promoRedemptions.modify orderId mark
  campaign : r'.campaignId = r.campaignId
  tier : r'.tierId = r.tierId
  user : r'.userId = r.userId
  amount : r'.promoMicroUSD = r.promoMicroUSD

variable {db db' : Database} {orderId : String} {r r' : TopupPromoRedemption} {sys after : PromoSystem} {done : List TopupPromoRedemptionStatus}
    {start target : TopupPromoRedemptionStatus} {refuse : TopupPromoRedemptionStatus → Failure}
    {charge : Int → TopupPromotionCampaign → TopupPromotionCampaign} {mark : TopupPromoRedemption → TopupPromoRedemption} {tier : TopupPromoTier}
    {campaign copy : TopupPromotionCampaign} {policy : CampaignPolicy}

theorem markedSum (marked : Marked db db' orderId r r') (id status) : statusSum db' id status = statusSum db id status
      + (if r.campaignId = id ∧ r'.status = status then r.promoMicroUSD else 0)
      - (if r.campaignId = id ∧ r.status = status then r.promoMicroUSD else 0) := by
  obtain ⟨_,rfl,written⟩ := marked.written
  unfold statusSum
  rw [written,sumModify marked.found,marked.campaign,marked.amount]
  omega

theorem markedUsed (marked : Marked db db' orderId r r')
    (before : inUse r.status = true) {p} (same : p r' = p r) : usedPromotions db' p ≤ usedPromotions db p := by
  obtain ⟨mark,rfl,written⟩ := marked.written
  rw [usedSum,usedSum,written,sumModify marked.found,same,before]
  cases p r with
  | false => simp
  | true =>
    cases inUse (mark r).status with
    | false | true => simp

theorem sumNonnegOf (positive : Positive sys) (id status) : 0 ≤ statusSum sys.db id status := by
  refine sumNonneg ?_
  intro orderId r found
  have amount := positive orderId r found
  split <;> omega

structure Moved (db db' : Database) (orderId : String) (start target : TopupPromoRedemptionStatus)
    (charge : Int → TopupPromotionCampaign → TopupPromotionCampaign) : Prop where
  marked : ∃ r r', Marked db db' orderId r r' ∧ r.status = start ∧ r'.status = target ∧
    db'.campaigns = db.campaigns.modify r.campaignId (charge r.promoMicroUSD)
  tiers : db'.tiers = db.tiers

def Keeps (mark : TopupPromoRedemption → TopupPromoRedemption) (target : TopupPromoRedemptionStatus) : Prop := ∀ r,
  (mark r).campaignId = r.campaignId ∧ (mark r).tierId = r.tierId ∧ (mark r).userId = r.userId ∧
    (mark r).promoMicroUSD = r.promoMicroUSD ∧ (mark r).status = target

theorem moveCases (keeps : Keeps mark target) (ok : movePromotion db orderId done start refuse charge mark = .ok db') :
    db' = db ∨ Moved db db' orderId start target charge := by
  unfold movePromotion at ok
  split at ok
  · exact .inl (pureOk.mp ok).symm
  rename_i r campaign locked
  simp only [lockTopupRedemptionAndCampaign,bind,bind_eq_some_iff] at locked
  obtain ⟨_,found,_,_,same⟩ := locked
  cases some.inj same
  split at ok
  · exact .inl (pureOk.mp ok).symm
  split at ok
  · cases ok
  rename_i status
  cases pureOk.mp ok
  obtain ⟨campaignKept,tierKept,userKept,amountKept,target⟩ := keeps r
  exact .inr ⟨⟨r,mark r,⟨found,⟨mark,rfl,rfl⟩,campaignKept,tierKept,userKept,amountKept⟩,not_not.mp status,target,rfl⟩,rfl⟩

def part (status counted : TopupPromoRedemptionStatus) (n : Int) : Int := if status = counted then n else 0

def Follows (start target : TopupPromoRedemptionStatus) (charge : Int → TopupPromotionCampaign → TopupPromotionCampaign) : Prop :=
  ∀ n c, part start .reserved n ≤ c.reservedPromoMicroUSD → part start .issued n ≤ c.issuedPromoMicroUSD →
    (charge n c).reservedPromoMicroUSD = c.reservedPromoMicroUSD + part target .reserved n - part start .reserved n ∧
    (charge n c).issuedPromoMicroUSD = c.issuedPromoMicroUSD + part target .issued n - part start .issued n ∧
    (charge n c).globalBudgetMicroUSD = c.globalBudgetMicroUSD ∧ (charge n c).perUserLimit = c.perUserLimit

theorem releaseFollows : Follows .reserved .released unreserve := by
  intro n c covered _
  simp only [part,if_true] at covered
  refine ⟨?_,?_,rfl,rfl⟩
  · simp only [part,unreserve,if_true,reduceCtorEq,if_false]
    omega
  · simp only [part,unreserve,reduceCtorEq,if_false]
    omega

theorem issueFollows : Follows .reserved .issued issueBudget := by
  intro n c covered _
  simp only [part,if_true] at covered
  refine ⟨?_,?_,rfl,rfl⟩
  · simp only [part,issueBudget,unreserve,if_true,reduceCtorEq,if_false]
    omega
  · simp only [part,issueBudget,unreserve,if_true,reduceCtorEq,if_false]
    omega

theorem reverseFollows : Follows .issued .reversed unissue := by
  intro n c _ covered
  simp only [part,if_true] at covered
  refine ⟨?_,?_,rfl,rfl⟩
  · simp only [part,unissue,reduceCtorEq,if_false]
    omega
  · simp only [part,unissue,if_true,reduceCtorEq,if_false]
    omega

theorem markedPositive (marked : Marked sys.db after.db orderId r r') (positive : Positive sys) : Positive after := by
  intro k row found
  obtain ⟨_,rfl,written⟩ := marked.written
  obtain ⟨_,there,rfl,rfl⟩ | ⟨_,there⟩ := modifyCases (written ▸ found)
  · cases marked.found.symm.trans there
    rw [marked.amount]
    exact positive k r marked.found
  · exact positive k row there

theorem partCovered {status amount before after} (leaves : start ≠ target) (whole : 0 ≤ before) (left : 0 ≤ after)
    (sum : after = before + (if target = status then amount else 0) - (if start = status then amount else 0)) :
    part start status amount ≤ before := by
  unfold part
  split
  · rename_i here
    rw [if_pos here,if_neg (fun there => leaves (here.trans there.symm))] at sum
    omega
  · exact whole

theorem movedAccounted (moved : Moved sys.db after.db orderId start target charge)
    (same : after.relimited = sys.relimited) (follows : Follows start target charge) (using' : inUse start = true)
    (leaves : start ≠ target) (positive : Positive sys) (accounted : Accounted sys) : Accounted after ∧ Positive after := by
  obtain ⟨r,r',marked,from',to',campaigns⟩ := moved.marked
  have positive' := markedPositive marked positive
  have amount := positive orderId r marked.found
  have used : ∀ p : TopupPromoRedemption → Bool, p r' = p r → usedPromotions after.db p ≤ usedPromotions sys.db p :=
    fun p => markedUsed marked (from' ▸ using')
  have ofCampaign : ∀ id userId, heldOfCampaign after.db id userId ≤ heldOfCampaign sys.db id userId :=
    fun id userId => used _ (by simp only [marked.campaign,marked.user])
  have ofTier : ∀ id userId, heldOfTier after.db id userId ≤ heldOfTier sys.db id userId :=
    fun id userId => used _ (by simp only [marked.tier,marked.user])
  refine ⟨⟨?_,?_⟩,positive'⟩
  · intro id c' found
    have reservedSum := markedSum marked id .reserved
    have issuedSum := markedSum marked id .issued
    rw [from',to'] at reservedSum issuedSum
    obtain ⟨c,row,rfl,rfl⟩ | ⟨_,before⟩ := modifyCases (campaigns ▸ found)
    · have books := accounted.campaigns _ c row
      have reservedLeft := sumNonnegOf positive' r.campaignId .reserved
      have issuedLeft := sumNonnegOf positive' r.campaignId .issued
      simp only [true_and] at reservedSum issuedSum
      have coveredReserved := partCovered leaves (sumNonnegOf positive r.campaignId .reserved) reservedLeft reservedSum
      have coveredIssued := partCovered leaves (sumNonnegOf positive r.campaignId .issued) issuedLeft issuedSum
      rw [← books.reserved] at coveredReserved
      rw [← books.issued] at coveredIssued
      obtain ⟨reserved,issued,budget,limit⟩ := follows r.promoMicroUSD c coveredReserved coveredIssued
      simp only [part] at reserved issued
      refine ⟨?_,?_,?_,?_⟩
      · rw [reserved,books.reserved,reservedSum]
      · rw [issued,books.issued,issuedSum]
      · intro bounded
        have before := books.budget (budget ▸ bounded)
        cases start <;> cases target <;> simp_all [inUse] <;> omega
      · intro unchanged limited userId
        rw [limit] at limited ⊢
        exact (ofCampaign _ userId).trans (books.limit (same ▸ unchanged) limited userId)
    · have books := accounted.campaigns id c' before
      refine ⟨by rw [books.reserved]; omega,by rw [books.issued]; omega,books.budget,?_⟩
      intro unchanged limited userId
      exact (ofCampaign _ userId).trans (books.limit (same ▸ unchanged) limited userId)
  · intro id t found limited userId
    rw [moved.tiers] at found
    exact (ofTier _ userId).trans (accounted.tiers id t found limited userId)

structure Reserved (db db' : Database) (orderId : String) (tier : TopupPromoTier) (campaign : TopupPromotionCampaign)
    (r : TopupPromoRedemption) : Prop where
  tierRow : db.tiers.get? r.tierId = some tier
  campaignRow : db.campaigns.get? r.campaignId = some campaign
  positive : 0 < r.promoMicroUSD
  status : r.status = .reserved
  campaignLimit : 0 < campaign.perUserLimit → heldOfCampaign db r.campaignId r.userId < campaign.perUserLimit
  tierLimit : 0 < tier.perUserLimit → heldOfTier db r.tierId r.userId < tier.perUserLimit
  budget : 0 < campaign.globalBudgetMicroUSD →
    r.promoMicroUSD ≤ campaign.globalBudgetMicroUSD - campaign.reservedPromoMicroUSD - campaign.issuedPromoMicroUSD
  inserted : ∃ fresh, db'.promoRedemptions = db.promoRedemptions.insert orderId r fresh
  campaigns : db'.campaigns = db.campaigns.modify r.campaignId
    (fun c => { c with reservedPromoMicroUSD := c.reservedPromoMicroUSD + r.promoMicroUSD })
  tiers : db'.tiers = db.tiers

theorem reserveCases {seen userId tierId promoMicroUSD now} (tiers : seen.tiers = db.tiers)
    (fresh : ∀ tier ∈ seen.tiers.get? tierId, heldOfCampaign db tier.campaignId userId ≤ heldOfCampaign seen tier.campaignId userId ∧
      heldOfTier db tierId userId ≤ heldOfTier seen tierId userId)
    (ok : reserveTopupPromotionWithTx seen db orderId userId tierId promoMicroUSD now = .ok db') :
    db' = db ∨ ∃ tier campaign r, Reserved db db' orderId tier campaign r := by
  simp only [reserveTopupPromotionWithTx,bindOk,requireOk] at ok
  obtain ⟨_,valid,ok⟩ := ok
  split at ok
  · split at ok
    · exact .inl (pureOk.mp ok).symm
    · cases ok
  simp only [bindOk,requireOk,rowOk,pureOk] at ok
  obtain ⟨tier,tierRow,campaign,campaignRow,_,_,_,byCampaign,_,byTier,_,budget,_,attempt,rfl⟩ := ok
  obtain ⟨unused,rfl⟩ := insertExact attempt
  obtain ⟨ofCampaign,ofTier⟩ := fresh tier tierRow
  exact .inr ⟨tier,campaign,⟨tier.campaignId,tierId,userId,promoMicroUSD,.reserved,0,0,0⟩,tiers ▸ tierRow,campaignRow,valid.2.2.2,rfl,
    fun limited => lt_of_le_of_lt ofCampaign (byCampaign limited),fun limited => lt_of_le_of_lt ofTier (byTier limited),budget,
    ⟨unused,rfl⟩,rfl,rfl⟩

theorem reservedUsed (reserved : Reserved db db' orderId tier campaign r) (p) :
    usedPromotions db' p = usedPromotions db p + if p r then 1 else 0 := by
  obtain ⟨_,inserted⟩ := reserved.inserted
  rw [usedSum,usedSum,inserted,sumInsert,reserved.status]
  simp [inUse]

theorem reservedSum (reserved : Reserved db db' orderId tier campaign r) (id status) :
    statusSum db' id status = statusSum db id status +
      if r.campaignId = id ∧ TopupPromoRedemptionStatus.reserved = status then r.promoMicroUSD else 0 := by
  obtain ⟨_,inserted⟩ := reserved.inserted
  unfold statusSum
  rw [inserted,sumInsert,reserved.status]

theorem reservedAccounted (reserved : Reserved sys.db after.db orderId tier campaign r) (same : after.relimited = sys.relimited)
    (positive : Positive sys) (accounted : Accounted sys) : Accounted after ∧ Positive after := by
  have ofCampaign : ∀ id userId, heldOfCampaign after.db id userId =
      heldOfCampaign sys.db id userId + if r.campaignId = id ∧ r.userId = userId then 1 else 0 := by
    intro id userId
    have used := reservedUsed reserved (fun r => decide (r.campaignId = id ∧ r.userId = userId))
    simp only [decide_eq_true_eq] at used
    exact used
  have ofTier : ∀ id userId, heldOfTier after.db id userId =
      heldOfTier sys.db id userId + if r.tierId = id ∧ r.userId = userId then 1 else 0 := by
    intro id userId
    have used := reservedUsed reserved (fun r => decide (r.tierId = id ∧ r.userId = userId))
    simp only [decide_eq_true_eq] at used
    exact used
  refine ⟨⟨?_,?_⟩,?_⟩
  · intro id c' found
    have sumReserved := reservedSum reserved id .reserved
    have sumIssued := reservedSum reserved id .issued
    obtain ⟨c,row,rfl,rfl⟩ | ⟨other,before⟩ := modifyCases (reserved.campaigns ▸ found)
    · cases reserved.campaignRow.symm.trans row
      have books := accounted.campaigns _ campaign reserved.campaignRow
      simp only [and_self,if_true,reduceCtorEq,and_false,if_false] at sumReserved sumIssued
      refine ⟨?_,?_,?_,?_⟩
      · rw [sumReserved,← books.reserved]
      · rw [sumIssued,add_zero]
        exact books.issued
      · intro bounded
        have room := reserved.budget bounded
        dsimp only
        omega
      · intro unchanged limited userId
        have before := books.limit (same ▸ unchanged) limited userId
        have room := reserved.campaignLimit limited
        rw [ofCampaign]
        split
        · rename_i ours
          rw [← ours.2]
          dsimp only
          omega
        · dsimp only
          omega
    · have books := accounted.campaigns id c' before
      simp only [Ne.symm other,false_and,if_false,add_zero] at sumReserved sumIssued
      refine ⟨sumReserved ▸ books.reserved,sumIssued ▸ books.issued,books.budget,?_⟩
      intro unchanged limited userId
      rw [ofCampaign,if_neg (fun ours => other ours.1.symm),add_zero]
      exact books.limit (same ▸ unchanged) limited userId
  · intro id t found limited userId
    rw [reserved.tiers] at found
    rw [ofTier]
    split
    · rename_i ours
      rw [← ours.1,reserved.tierRow] at found
      cases some.inj found
      have room := reserved.tierLimit limited
      rw [← ours.1,← ours.2]
      omega
    · rw [add_zero]
      exact accounted.tiers id t found limited userId
  · intro k row found
    obtain ⟨_,inserted⟩ := reserved.inserted
    rw [inserted,getInsert] at found
    split at found
    · cases some.inj found
      exact reserved.positive
    · exact positive k row found

theorem validateBudget (ok : validateTopupPromotionCampaign policy campaign = .ok ()) (bounded : 0 < campaign.globalBudgetMicroUSD) :
    campaign.reservedPromoMicroUSD + campaign.issuedPromoMicroUSD ≤ campaign.globalBudgetMicroUSD := by
  simp only [validateTopupPromotionCampaign,bindOk,requireOk] at ok
  obtain ⟨_,_,_,_,_,_,_,_,_,_,below⟩ := ok
  exact not_lt.mp (fun less => below ⟨bounded,less⟩)

theorem savedCases (sys policy copy) :
    (validateTopupPromotionCampaign policy (edited policy copy)).isOk = false ∧ saved sys policy copy = sys ∨
      validateTopupPromotionCampaign policy (edited policy copy) = .ok () ∧ (saved sys policy copy).db = { sys.db with
          campaigns := sys.db.campaigns.modify launchTopupPromotionCampaignId (fun _ => edited policy copy) } := by
  cases valid : validateTopupPromotionCampaign policy (edited policy copy) with
  | error =>
    left
    simp [saved,saveTopupPromotionCampaign,valid,bind,Except.bind,commit,Except.isOk,Except.toBool]
  | ok =>
    right
    simp [saved,saveTopupPromotionCampaign,valid,bind,Except.bind,commit,pure,Except.pure]

theorem savedUnmarked {id} (unchanged : id ∉ (saved sys policy copy).relimited) : id ∉ sys.relimited ∧
      (id = launchTopupPromotionCampaignId → limitOf (saved sys policy copy).db id = limitOf sys.db id) := by
  unfold saved at unchanged ⊢
  dsimp only at unchanged ⊢
  split at unchanged
  · rename_i same
    refine ⟨unchanged,?_⟩
    rintro rfl
    exact same
  · obtain ⟨other,unmarked⟩ := not_or.mp (fun mem => unchanged (List.mem_cons.mpr mem))
    exact ⟨unmarked,fun own => absurd own other⟩

theorem savedAccounted {current} (accounted : Accounted sys) (row : sys.db.campaigns.get? launchTopupPromotionCampaignId = some current)
    (valid : validateTopupPromotionCampaign policy (edited policy copy) = .ok ()) (written : (saved sys policy copy).db = { sys.db with
      campaigns := sys.db.campaigns.modify launchTopupPromotionCampaignId (fun _ => edited policy copy) })
    (counters : copy.reservedPromoMicroUSD = current.reservedPromoMicroUSD ∧ copy.issuedPromoMicroUSD = current.issuedPromoMicroUSD) :
    Accounted (saved sys policy copy) := by
  have books := accounted.campaigns _ current row
  have redemptions : (saved sys policy copy).db.promoRedemptions = sys.db.promoRedemptions := by rw [written]
  have sums : ∀ id status, statusSum (saved sys policy copy).db id status = statusSum sys.db id status := by
    intro id _
    simp only [statusSum,redemptions]
  have held : ∀ id userId, heldOfCampaign (saved sys policy copy).db id userId = heldOfCampaign sys.db id userId := by
    intro id userId
    simp only [heldOfCampaign,usedPromotions,redemptions]
  have own : (saved sys policy copy).db.campaigns.get? launchTopupPromotionCampaignId = some (edited policy copy) := by
    simp only [written,getModifySelf,row,map_some]
  refine ⟨?_,?_⟩
  · intro id c found
    by_cases here : id = launchTopupPromotionCampaignId
    · subst here
      cases some.inj (own.symm.trans found)
      refine ⟨?_,?_,validateBudget valid,?_⟩
      · rw [sums,← books.reserved]
        exact counters.1
      · rw [sums,← books.issued]
        exact counters.2
      · intro unchanged limited userId
        obtain ⟨unmarked,kept⟩ := savedUnmarked unchanged
        have limit := kept rfl
        simp only [limitOf,own,row,map_some,some.injEq] at limit
        rw [held,limit]
        exact books.limit unmarked (limit ▸ limited) userId
    · rw [written] at found
      have other := accounted.campaigns id c ((getModifyOther _ here _).symm.trans found)
      refine ⟨(sums id _).symm ▸ other.reserved,(sums id _).symm ▸ other.issued,other.budget,?_⟩
      intro unchanged limited userId
      rw [held]
      exact other.limit (savedUnmarked unchanged).1 limited userId
  · intro id t found limited userId
    rw [written] at found
    simp only [heldOfTier,usedPromotions,redemptions]
    exact accounted.tiers id t found limited userId

theorem sameAccounted {sys after} (db : after.db = sys.db) (same : after.relimited = sys.relimited)
    (accounted : Accounted sys) : Accounted after := by
  refine ⟨?_,?_⟩
  · intro id c found
    rw [db] at found
    have books := accounted.campaigns id c found
    exact ⟨db ▸ books.reserved,db ▸ books.issued,books.budget,by rw [same,db]; exact books.limit⟩
  · intro id t found
    rw [db] at found ⊢
    exact accounted.tiers id t found

theorem samePositive {sys after} (same : after.db.promoRedemptions = sys.db.promoRedemptions)
    (positive : Positive sys) : Positive after := fun orderId r found => positive orderId r (same ▸ found)

theorem committedAccounted {sys after : PromoSystem} {result : Except Failure Database} (db : after.db = commit sys.db result)
    (same : after.relimited = sys.relimited) (positive : Positive sys) (accounted : Accounted sys)
    (done : result = .ok after.db → after.db = sys.db ∨ Accounted after ∧ Positive after) : Accounted after ∧ Positive after := by
  have quiet : after.db = sys.db → Accounted after ∧ Positive after := fun unchanged =>
    ⟨sameAccounted unchanged same accounted,samePositive (by rw [unchanged]) positive⟩
  obtain ⟨_,ok,committed⟩ | committed := commitCases sys.db result
  · cases db.trans committed
    exact (done ok).elim quiet id
  · exact quiet (db.trans committed)

theorem reserveAccounted {sys op} (named : ∃ index orderId userId tierId promoMicroUSD, op = .reserve index orderId userId tierId promoMicroUSD)
    (positive : Positive sys) (seen : TiersSeen sys) (accounted : Accounted sys) (current : Current sys op) :
    Accounted (promoStep sys op) ∧ Positive (promoStep sys op) := by
  obtain ⟨index,_,_,_,_,rfl⟩ := named
  simp only [promoStep]
  cases taken : sys.snapshots[index]? with
  | none => exact ⟨accounted,positive⟩
  | some snapshot =>
    refine @committedAccounted sys _ _ rfl rfl positive accounted ?_
    intro ok
    obtain same | ⟨tier,campaign,r,reserved⟩ := reserveCases (seen snapshot (List.mem_of_getElem? taken)) (current snapshot taken) ok
    · exact .inl same
    · exact .inr (reservedAccounted reserved rfl positive accounted)

theorem moveAccounted (db : after.db = commit sys.db (movePromotion sys.db orderId done start refuse charge mark))
    (same : after.relimited = sys.relimited) (keeps : Keeps mark target) (follows : Follows start target charge)
    (using' : inUse start = true) (leaves : start ≠ target) (positive : Positive sys) (accounted : Accounted sys) :
    Accounted after ∧ Positive after := by
  refine committedAccounted db same positive accounted ?_
  intro ok
  obtain quiet | moved := moveCases keeps ok
  · exact .inl quiet
  · exact .inr (movedAccounted moved same follows using' leaves positive accounted)

theorem savedPositive (sys policy copy) (positive : Positive sys) : Positive (saved sys policy copy) := by
  obtain ⟨_,same⟩ | ⟨_,written⟩ := savedCases sys policy copy
  · rw [same]
    exact positive
  · exact samePositive (by rw [written]) positive

theorem saveAccounted {sys index policy} (positive : Positive sys) (accounted : Accounted sys)
    (current : Current sys (.saveCampaign index policy)) : Accounted (promoStep sys (.saveCampaign index policy)) ∧
      Positive (promoStep sys (.saveCampaign index policy)) := by
  simp only [promoStep]
  cases taken : sys.edits[index]? with
  | none => exact ⟨accounted,positive⟩
  | some copy =>
    have accounted : Accounted { sys with edits := sys.edits.eraseIdx index } := @sameAccounted sys _ rfl rfl accounted
    refine ⟨?_,savedPositive _ policy copy (@samePositive sys _ rfl positive)⟩
    dsimp only
    obtain ⟨_,same⟩ | ⟨valid,written⟩ := savedCases { sys with edits := sys.edits.eraseIdx index } policy copy
    · rw [same]
      exact accounted
    cases row : sys.db.campaigns.get? launchTopupPromotionCampaignId with
    | none =>
      rw [modifyAbsent row] at written
      refine @sameAccounted { sys with edits := sys.edits.eraseIdx index } _ written ?_ accounted
      unfold saved at written ⊢
      dsimp only at written ⊢
      rw [written,if_pos rfl]
    | some stored => exact savedAccounted accounted row valid written (current copy taken stored row (by rw [valid]; rfl))

theorem promoTiers (sys op) : (promoStep sys op).db.tiers = sys.db.tiers := by
  have framed : ∀ {result : Except Failure Database}, (∀ db', result = .ok db' → OrderSpec.promoFrame sys.db db') →
      (commit sys.db result).tiers = sys.db.tiers := by
    intro result frame
    obtain ⟨db',ok,same⟩ | same := commitCases sys.db result
    · have unchanged : db' = { sys.db with campaigns := db'.campaigns, promoRedemptions := db'.promoRedemptions } := frame db' ok
      rw [same,unchanged]
    · rw [same]
  cases op with
  | elapse | openReservation => rfl
  | reserve =>
    simp only [promoStep]
    split
    · rfl
    · exact framed (fun _ => OrderSpec.reserveFrame)
  | release | issue | reverse => exact framed (fun _ => OrderSpec.moveFrame)
  | readCampaign =>
    simp only [promoStep]
    split <;> rfl
  | saveCampaign =>
    simp only [promoStep]
    split
    · rfl
    · rename_i copy _
      obtain ⟨_,same⟩ | ⟨_,written⟩ := savedCases { sys with edits := sys.edits.eraseIdx _ } _ copy
      · rw [same]
      · rw [written]

theorem tiersStep (sys op) (seen : TiersSeen sys) : TiersSeen (promoStep sys op) := by
  intro snapshot mem
  rw [promoTiers]
  cases op with
  | openReservation =>
    rcases List.mem_append.mp mem with old | new
    · exact seen snapshot old
    · rw [List.mem_singleton.mp new]
  | reserve =>
    simp only [promoStep] at mem
    split at mem
    · exact seen snapshot mem
    · exact seen snapshot (List.mem_of_mem_eraseIdx mem)
  | readCampaign | saveCampaign =>
    simp only [promoStep] at mem
    split at mem <;> exact seen snapshot mem
  | _ => exact seen snapshot mem

theorem promoAccounted (sys op) (seen : TiersSeen sys) (books : Accounted sys ∧ Positive sys) (current : Current sys op) :
    Accounted (promoStep sys op) ∧ Positive (promoStep sys op) := by
  obtain ⟨accounted,positive⟩ := books
  cases op with
  | elapse | openReservation => exact ⟨@sameAccounted sys _ rfl rfl accounted,@samePositive sys _ rfl positive⟩
  | reserve => exact reserveAccounted ⟨_,_,_,_,_,rfl⟩ positive seen accounted current
  | release => exact moveAccounted rfl rfl (fun _ => ⟨rfl,rfl,rfl,rfl,rfl⟩) releaseFollows rfl (by simp) positive accounted
  | issue => exact moveAccounted rfl rfl (fun _ => ⟨rfl,rfl,rfl,rfl,rfl⟩) issueFollows rfl (by simp) positive accounted
  | reverse => exact moveAccounted rfl rfl (fun _ => ⟨rfl,rfl,rfl,rfl,rfl⟩) reverseFollows rfl (by simp) positive accounted
  | readCampaign =>
    simp only [promoStep]
    split
    · exact ⟨accounted,positive⟩
    · exact ⟨@sameAccounted sys _ rfl rfl accounted,@samePositive sys _ rfl positive⟩
  | saveCampaign => exact saveAccounted positive accounted current

def opening (db : Database) (clock : Int) : PromoSystem := ⟨db,clock,[],[],[]⟩

theorem promoBudgetAccounted (db : Database) (clock : Int) (ops : List PromoOp) (positive : Positive (opening db clock))
    (accounted : Accounted (opening db clock)) (current : Along promoStep Current (opening db clock) ops) :
    Always promoStep Accounted (opening db clock) ops := by
  have fresh : TiersSeen (opening db clock) := by
    intro _ mem
    cases mem
  exact alwaysMono (fun _ books => books.1) (alwaysOfAlong tiersStep promoAccounted fresh ⟨accounted,positive⟩ current)

theorem unusedAccounted (clock) (unused : db.promoRedemptions = .empty)
    (zero : ∀ id c, db.campaigns.get? id = some c → c.reservedPromoMicroUSD = 0 ∧ c.issuedPromoMicroUSD = 0) :
    Accounted (opening db clock) ∧ Positive (opening db clock) := by
  have none' : ∀ p, usedPromotions db p = 0 := by
    intro p
    rw [usedSum,unused,sumEmpty]
  refine ⟨⟨?_,?_⟩,?_⟩
  · intro id c found
    obtain ⟨reserved,issued⟩ := zero id c found
    refine ⟨?_,?_,?_,?_⟩
    · simp only [opening,statusSum,unused,sumEmpty,reserved]
    · simp only [opening,statusSum,unused,sumEmpty,issued]
    · intro _
      omega
    · intro _ limited userId
      exact (none' _).le.trans limited.le
  · intro _ t found limited _
    exact (none' _).le.trans limited.le
  · intro _ r found
    simp only [opening,unused,getEmpty] at found
    exact absurd found (by simp)

instance (sys op) : Decidable (Current sys op) := by cases op <;> (unfold Current; infer_instance)

def launchCampaign : Database := { Database.empty with
  campaigns := ⟨[(1,⟨true,0,0,800000,0,0,1⟩)],by decide⟩
  tiers := ⟨[(1,⟨1,1,true,0,0⟩)],by decide⟩ }

def tripled : CampaignPolicy := ⟨"Launch",true,0,0,800000,3,30⟩

theorem launchUnused : Accounted (opening launchCampaign 100) ∧ Positive (opening launchCampaign 100) := by
  refine unusedAccounted 100 rfl ?_
  intro _ c found
  cases List.mem_singleton.mp (getMem.mp found)
  exact ⟨rfl,rfl⟩

/- Two reservations that overlap are of different users. -/
theorem editAfterReservation : Always promoStep Accounted (opening launchCampaign 100)
    [.openReservation,.openReservation,.reserve 0 "T1" 7 1 500000,.readCampaign,.saveCampaign 0 tripled,.issue "T1",
      .reserve 0 "T2" 8 1 300000,.reverse "T1"] :=
  promoBudgetAccounted launchCampaign 100 _ launchUnused.2 launchUnused.1 (by decide)

def forgotten : List PromoOp := [.readCampaign,.openReservation,.reserve 0 "T1" 7 1 500000,.saveCampaign 0 tripled]

def overlapping : List PromoOp := [.openReservation,.openReservation,.reserve 0 "T1" 7 1 300000,.reserve 0 "T2" 7 1 300000]

theorem reservationForgotten : ¬ Always promoStep Accounted (opening launchCampaign 100) forgotten ∧
    statusSum (run promoStep (opening launchCampaign 100) (forgotten ++ [.openReservation,.reserve 0 "T2" 8 1 500000])).db 1 .reserved =
      1000000 ∧
    ¬ Always promoStep Accounted (opening launchCampaign 100) overlapping := by
  refine ⟨?_,by decide,?_⟩
  · intro always
    have last := alwaysLast always
    exact absurd (last.campaigns 1 _ rfl).reserved (by decide)
  · intro always
    have last := alwaysLast always
    exact absurd ((last.campaigns 1 _ rfl).limit (by decide) (by decide) 7) (by decide)

end NovaPuraRouter.PromoBudget
