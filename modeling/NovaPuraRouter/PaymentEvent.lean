import NovaPuraRouter.Webhook
import NovaPuraRouter.WalletOps

/-! What a verified payment event leaves behind, whatever events and wallet operations
came before it. The handlers of failed attempts and of an expired checkout share the
statuses that no payment can leave. -/
namespace NovaPuraRouter.PaymentEvent
open CreditLot TopupOrder OrderSpec Refund RefundSpec Webhook WalletOps Option Table

inductive TopupOp
  | deliver (e : Event) (now : Int)
  | wallet (op : WalletOp)

variable (setting : StripeSetting)

def topupStep (cfg : Config) (s : Endpoint) : TopupOp → Endpoint
  | .deliver e now => (processVerifiedEvent setting cfg s e now).1
  | .wallet op => { s with db := walletStep cfg s.db op }

structure PaidEvent (setting : StripeSetting) (e : Event) : Prop where
  admitted : admission setting e = none
  named : novapuraOrderId e ≠ ""
  paid : (e.type = .checkoutSessionCompleted ∧ ¬ awaitsPayment e false) ∨
    (e.type = .checkoutSessionAsyncPaymentSucceeded ∧ ¬ awaitsPayment e true)

def settledStatus (status : StripeOrderStatus) : Prop := status = .credited ∨ status = .refunded ∨ status = .manualReview

def landed (db : Database) (orderId : String) : Prop := ∃ order, db.orders.get? orderId = some order ∧ settledStatus order.status

def promotionOpen (db : Database) (orderId : String) : Prop := ∀ redemption campaign,
  lockTopupRedemptionAndCampaign db orderId = some (redemption,campaign) → redemption.status = .issued ∨ redemption.status = .reserved

def partOf (cfg : Config) (order : StripeTopupOrder) : BalanceType → Int
  | .paid => paidPart cfg order
  | .promotional => promoPart order

structure Creditworthy (cfg : Config) (db : Database) (orderId : String) (order : StripeTopupOrder) (sessionId : String) : Prop where
  status : creditable order.status
  user : ∃ user, db.users.get? order.userId = some user ∧ user.quota ≤ maxQuota - (paidPart cfg order + promoPart order)
  range : paidPart cfg order ≤ maxQuota - promoPart order
  amount : 0 < paidPart cfg order + promoPart order
  session : sessionFree db orderId sessionId
  promotion : 0 < promoPart order → promotionOpen db orderId
  lots : ∀ type, 0 < partOf cfg order type → order.userId ≠ 0 ∧ orderId ≠ "" ∧
    db.lots.select (fun _ l => decide (l.orderId = orderId ∧ l.balanceType = type)) = []

def PaidLands (cfg : Config) (s : Endpoint) : TopupOp → Prop
  | .wallet _ => True
  | .deliver e now => PaidEvent setting e → ∀ order, s.db.orders.get? (novapuraOrderId e) = some order →
      paymentMismatch order e = none → landed (topupStep setting cfg s (.deliver e now)).db (novapuraOrderId e)

def PaidFindsOpen (cfg : Config) (s : Endpoint) : TopupOp → Prop
  | .wallet _ => True
  | .deliver e _ => PaidEvent setting e → ∀ order, s.db.orders.get? (novapuraOrderId e) = some order →
      paymentMismatch order e = none → settledStatus order.status ∨
        (e.id ∉ s.events.keys ∧ Creditworthy cfg s.db (novapuraOrderId e) order e.objectId)

variable {db : Database} {orderId sessionId : String} {order : StripeTopupOrder} {e : Event} {cfg : Config}

theorem issuePromotionRuns (now) : (∃ db', issueTopupPromotionWithTx db orderId now = .ok db') ↔ promotionOpen db orderId := by
  unfold issueTopupPromotionWithTx movePromotion promotionOpen
  cases lockTopupRedemptionAndCampaign db orderId with
  | none => exact ⟨fun _ _ _ absent => (by cases absent),fun _ => ⟨db,rfl⟩⟩
  | some pair =>
    obtain ⟨redemption,campaign⟩ := pair
    simp only [List.mem_singleton,some.injEq,Prod.mk.injEq]
    constructor
    · rintro ⟨_,done⟩ r c ⟨rfl,rfl⟩
      by_cases issued : redemption.status = .issued
      · exact .inl issued
      rw [if_neg issued] at done
      split at done
      · cases done
      · rename_i reserved
        exact .inr (not_not.mp reserved)
    · intro ready
      obtain issued | reserved := ready redemption campaign ⟨rfl,rfl⟩
      · exact ⟨db,by rw [if_pos issued]; rfl⟩
      · exact ⟨_,by rw [if_neg (by rw [reserved]; decide),if_neg (not_not_intro reserved)]; rfl⟩

theorem issueRuns {db orderId promoQ} (now) : (∃ db', issueFor db orderId promoQ now = .ok db') ↔ (0 < promoQ → promotionOpen db orderId) := by
  unfold issueFor
  split
  · rename_i pos
    exact (issuePromotionRuns now).trans ⟨fun h _ => h,fun h => h pos⟩
  · rename_i nothing
    exact ⟨fun _ pos => absurd pos nothing,fun _ => ⟨db,rfl⟩⟩

theorem openRuns {db orderId o} (now type) :
    (∃ db', openTopupLot db orderId o now type = .ok db') ↔ (0 < (topupLot orderId o type).originalQuota →
      o.userId ≠ 0 ∧ orderId ≠ "" ∧ db.lots.select (fun _ l => decide (l.orderId = orderId ∧ l.balanceType = type)) = []) := by
  have owner : (topupLot orderId o type).userId = o.userId ∧ (topupLot orderId o type).orderId = orderId ∧
      (topupLot orderId o type).balanceType = type := by
    cases type <;> exact ⟨rfl,rfl,rfl⟩
  unfold openTopupLot
  by_cases nothing : (topupLot orderId o type).originalQuota ≤ 0
  · simp only [if_pos nothing,Int.not_lt.mpr nothing,false_implies,iff_true]
    exact ⟨db,rfl⟩
  have pos : 0 < (topupLot orderId o type).originalQuota := by omega
  simp only [if_neg nothing,pos,forall_const,createTopupCreditLotWithTx,bindOk,requireOk,pureOk,owner]
  constructor
  · rintro ⟨_,_,⟨_,⟨real,named,_⟩,_,free,_⟩,_⟩
    exact ⟨real,named,free⟩
  · rintro ⟨real,named,free⟩
    exact ⟨_,_,⟨(),⟨real,named,trivial⟩,(),free,rfl⟩,rfl⟩

theorem openPaidKeeps {o now db'} (h : openTopupLot db orderId o now .paid = .ok db') :
    db'.lots.select (fun _ l => decide (l.orderId = orderId ∧ l.balanceType = .promotional)) =
      db.lots.select (fun _ l => decide (l.orderId = orderId ∧ l.balanceType = .promotional)) := by
  unfold openTopupLot at h
  split at h
  · cases pureOk.mp h
    rfl
  simp only [bindOk,pureOk,createTopupCreditLotWithTx,requireOk] at h
  obtain ⟨⟨_,_⟩,⟨_,_,_,_,created⟩,rfl⟩ := h
  obtain ⟨rfl,rfl⟩ := Prod.mk.inj created
  simp [select,append,Table.insert,topupLot,setLot]

theorem applyRuns {cfg db orderId order} {customerId paymentIntentId sessionId} (now) :
    (∃ db', applyCredit cfg db orderId order customerId paymentIntentId sessionId now = .ok db') ↔
      Creditworthy cfg db orderId order (creditedOrder cfg customerId paymentIntentId sessionId now order).stripeCheckoutSessionId := by
  simp only [applyCredit,bindOk,rowOk,requireOk]
  constructor
  · rintro ⟨db',_,status,user,found,_,range,_,amount,_,room,_,free,issued,hi,paid,hp,ht⟩
    have lots : issued.lots = db.lots := by rw [issueFrame hi]; rfl
    have open_ := (issueRuns now).mp ⟨_,hi⟩
    refine ⟨status,⟨user,found,room⟩,range,amount,free,open_,?_⟩
    intro type pos
    cases type with
    | paid =>
      have opened := (openRuns now .paid).mp ⟨paid,hp⟩ pos
      rw [← lots]
      exact opened
    | promotional =>
      have opened := (openRuns now .promotional).mp ⟨db',ht⟩ pos
      rw [openPaidKeeps hp] at opened
      rw [← lots]
      exact opened
  · intro h
    obtain ⟨user,found,room⟩ := h.user
    obtain ⟨issued,hi⟩ := (@issueRuns (setOrder db orderId (creditedOrder cfg customerId paymentIntentId sessionId now))
      orderId (promoPart order) now).mpr h.promotion
    have lots : issued.lots = db.lots := by rw [issueFrame hi]; rfl
    obtain ⟨paid,hp⟩ := (@openRuns (creditUser issued order.userId user (paidPart cfg order) (promoPart order) customerId) orderId
      (creditedOrder cfg customerId paymentIntentId sessionId now order) now .paid).mpr (by
        intro pos
        simp only [creditUser,lots]
        exact h.lots .paid pos)
    obtain ⟨db',ht⟩ := (@openRuns paid orderId
      (creditedOrder cfg customerId paymentIntentId sessionId now order) now .promotional).mpr (by
        intro pos
        rw [openPaidKeeps hp]
        simp only [creditUser,lots]
        exact h.lots .promotional pos)
    exact ⟨db',(),h.status,user,found,(),h.range,(),h.amount,(),room,(),h.session,issued,hi,paid,hp,ht⟩

theorem sessionFreeIff : sessionFree db orderId sessionId ↔
    ∀ k o, db.orders.get? k = some o → k ≠ orderId → o.stripeCheckoutSessionId ≠ sessionId := by
  unfold sessionFree
  rw [List.eq_nil_iff_forall_not_mem]
  constructor
  · intro nothing k o found other same
    exact nothing (k,o) (memSelect.mpr ⟨found,by simp [other,same]⟩)
  · intro free r mem
    obtain ⟨found,hit⟩ := memSelect.mp mem
    simp only [decide_eq_true_eq] at hit
    exact free r.1 r.2 found hit.1 hit.2

theorem sessionFreeSet (change) : sessionFree (setOrder db orderId change) orderId sessionId ↔ sessionFree db orderId sessionId := by
  rw [sessionFreeIff,sessionFreeIff]
  refine forall_congr' fun k => ⟨?_,?_⟩
  · intro h o found other
    exact h o (by rw [setOrder,getModifyOther _ other]; exact found) other
  · intro h o found other
    rw [setOrder,getModifyOther _ other] at found
    exact h o found other

theorem evidenceSession (evidence : paymentMismatch order e = none) :
    e.objectId ≠ "" ∧ (order.stripeCheckoutSessionId = "" ∨ order.stripeCheckoutSessionId = e.objectId) := by
  have last : sessionMismatch order e = none := by
    unfold paymentMismatch at evidence
    split at evidence
    · cases evidence
    split at evidence
    · cases evidence
    split at evidence
    · cases evidence
    · split at evidence
      · cases evidence
      · exact evidence
  unfold sessionMismatch at last
  split at last
  · cases last
  · rename_i good
    simp only [not_or,not_and,not_not] at good
    exact ⟨good.1,or_iff_not_imp_left.mpr good.2⟩

theorem creditedSession (evidence : paymentMismatch order e = none) (now) :
    (creditedOrder cfg e.customer e.paymentIntent e.objectId now order).stripeCheckoutSessionId = e.objectId := by
  obtain ⟨named,same⟩ := evidenceSession evidence
  simp only [creditedOrder]
  obtain empty | same := same
  · rw [if_pos ⟨named,empty⟩]
  · rw [if_neg (fun h => named (same.symm.trans h.2)),same]

/- The order row that the credit reads: the paid mark changes none of what it checks. -/
structure Marked (cfg : Config) (db : Database) (orderId : String) (order : StripeTopupOrder) (sessionId : String) (now : Int)
    (customerId paymentIntentId : String) (paid : Database) (order' : StripeTopupOrder) : Prop where
  found : paid.orders.get? orderId = some order'
  status : order'.status = order.status ∨ (payable order.status ∧ order'.status = .paid)
  session : (creditedOrder cfg customerId paymentIntentId sessionId now order').stripeCheckoutSessionId = sessionId
  worth : Creditworthy cfg paid orderId order' sessionId ↔ Creditworthy cfg db orderId order sessionId

theorem paidMarked {cfg db orderId order e} (now) (found : db.orders.get? orderId = some order) (evidence : paymentMismatch order e = none) :
    ∃ order', Marked cfg db orderId order e.objectId now e.customer e.paymentIntent
      (markOrderPaid db orderId e.customer e.objectId e.paymentIntent now) order' := by
  unfold markOrderPaid
  simp only [found]
  split
  · rename_i can
    refine ⟨_,by rw [setOrder,getModifySelf,found]; rfl,.inr ⟨can.1,rfl⟩,?_,?_⟩
    · have named := (evidenceSession evidence).1
      simp only [creditedOrder]
      rw [if_neg (fun h => named h.2)]
    · have paid : creditable .paid := .inr (.inr rfl)
      have before : creditable order.status := by
        obtain pending | created := can.1
        · exact .inr (.inl pending)
        · exact .inl created
      constructor
      · intro h
        exact { h with status := before, session := (sessionFreeSet _).mp h.session }
      · intro h
        exact { h with status := paid, session := (sessionFreeSet _).mpr h.session }
  · exact ⟨order,found,.inl rfl,creditedSession evidence now,Iff.rfl⟩

theorem creditableOpen {status} (can : creditable status) : ¬ settledStatus status := by
  rintro (rfl | rfl | rfl) <;> simp [creditable] at can

theorem creditLands (now) (named : orderId ≠ "") (found : db.orders.get? orderId = some order) (evidence : paymentMismatch order e = none) :
    landed (creditPaid cfg db orderId e now).1 orderId ↔ settledStatus order.status ∨ Creditworthy cfg db orderId order e.objectId := by
  obtain ⟨order',marked⟩ := @paidMarked cfg db orderId order e now found evidence
  have runs := @applyRuns cfg (markOrderPaid db orderId e.customer e.objectId e.paymentIntent now) orderId order'
    e.customer e.paymentIntent e.objectId now
  rw [marked.session,marked.worth] at runs
  unfold creditPaid
  simp only
  generalize markOrderPaid db orderId e.customer e.objectId e.paymentIntent now = paid at *
  have same : settledStatus order'.status ↔ settledStatus order.status := by
    obtain same | ⟨can,now'⟩ := marked.status
    · rw [same]
    rw [now']
    constructor
    · intro settled
      simp [settledStatus] at settled
    · intro settled
      have pending : creditable order.status := can.elim (fun h => .inr (.inl h)) .inl
      exact absurd settled (creditableOpen pending)
  rw [creditFound e.customer e.paymentIntent e.objectId now named marked.found]
  have unchanged : landed paid orderId ↔ settledStatus order.status := by
    rw [← same]
    constructor
    · rintro ⟨row,there,settled⟩
      rw [marked.found] at there
      exact some.inj there ▸ settled
    · exact fun settled => ⟨order',marked.found,settled⟩
  by_cases done : order'.status = .credited
  · have settled := same.mp (.inl done)
    rw [if_pos done]
    exact ⟨fun _ => .inl settled,fun _ => unchanged.mpr settled⟩
  rw [if_neg done]
  cases applied : applyCredit cfg paid orderId order' e.customer e.paymentIntent e.objectId now with
  | error =>
    refine unchanged.trans ⟨.inl,fun h => h.resolve_right ?_⟩
    intro worth
    obtain ⟨db',ok⟩ := runs.mpr worth
    cases applied.symm.trans ok
  | ok db' =>
    have row : db'.orders.get? orderId = some (creditedOrder cfg e.customer e.paymentIntent e.objectId now order') := by
      rw [applyOrders applied,getModifySelf,marked.found]
      rfl
    exact ⟨fun _ => .inr (runs.mp ⟨db',applied⟩),fun _ => ⟨_,row,.inl rfl⟩⟩

theorem handlePaid {setting} (now)
    (h : PaidEvent setting e) (found : db.orders.get? (novapuraOrderId e) = some order) (evidence : paymentMismatch order e = none) :
    handle cfg db e now = creditPaid cfg db (novapuraOrderId e) e now := by
  obtain ⟨type,due⟩ | ⟨type,due⟩ := h.paid
  · simp only [handle,type,handleCheckoutPaid,if_neg h.named,if_neg due,found,evidence]
  · simp only [handle,type,handleCheckoutPaid,if_neg h.named,if_neg due,found,evidence]

theorem paidLandsStep (setting cfg s op) : PaidLands setting cfg s op ↔ PaidFindsOpen setting cfg s op := by
  cases op with
  | wallet => exact Iff.rfl
  | deliver e now =>
    refine forall_congr' fun h => forall_congr' fun order => forall_congr' fun found => forall_congr' fun evidence => ?_
    simp only [topupStep,processVerifiedEvent,h.admitted,insert?]
    by_cases seen : e.id ∈ s.events.keys
    · -- an event that was taken before is acknowledged and changes nothing
      rw [dif_neg (not_not_intro seen)]
      constructor
      · rintro ⟨_,there,settled⟩
        rw [found] at there
        exact .inl (some.inj there ▸ settled)
      · intro ready
        exact ⟨order,found,ready.resolve_right (fun fresh => fresh.1 seen)⟩
    · rw [dif_pos seen]
      simp only [handlePaid now h found evidence,creditLands now h.named found evidence,seen,not_false_eq_true,true_and]

def dismissed (status : StripeOrderStatus) : Prop := status = .failed ∨ status = .expired ∨ status = .refundPending
instance (status) : Decidable (dismissed status) := by unfold dismissed; infer_instance

def Dismisses (e : Event) (orderId : String) : Prop :=
  (e.type = .checkoutSessionAsyncPaymentFailed ∧ novapuraOrderId e = orderId) ∨
  (e.type = .checkoutSessionExpired ∧ e.clientReferenceId = orderId) ∨
  (e.type = .paymentIntentPaymentFailed ∧ e.metadataOrderId = orderId)

def Spares (k : String) (db db' : Database) : Prop := ∀ order', db'.orders.get? k = some order' → dismissed order'.status →
  ∃ order, db.orders.get? k = some order ∧ dismissed order.status

section Spared
variable {k : String} {db db' : Database}

theorem sparesSame (same : db'.orders = db.orders) : Spares k db db' := by
  intro order' found out
  exact ⟨order',same ▸ found,out⟩

theorem sparesTrans {last} (h : Spares k db db') (more : Spares k db' last) : Spares k db last := by
  intro order' found out
  obtain ⟨order,there,out⟩ := more order' found out
  exact h order there out

theorem sparesModify {j change} (orders : db'.orders = db.orders.modify j change)
    (good : k = j → ∀ o, ¬ dismissed (change o).status) : Spares k db db' := by
  intro order' found out
  obtain ⟨order,_,same,rfl⟩ | ⟨_,old⟩ := modifyCases (orders ▸ found)
  · exact absurd out (good same order)
  · exact ⟨order',old,out⟩

theorem handledSpares {result} (h : ∀ last, result = .ok last → Spares k db last) : Spares k db (handled db result).1 := by
  cases result with
  | error => exact sparesSame rfl
  | ok last => exact h last rfl

theorem markSpares {orderId source target reason now} (other : k = orderId → ¬ dismissed target)
    (h : markStripeTopupOrderStatus db orderId source target reason now = .ok db') : Spares k db db' := by
  obtain ⟨rfl,_⟩ | ⟨_,marks⟩ := markSpec h
  · exact sparesSame rfl
  · obtain ⟨_,orders⟩ := marks.orders
    exact sparesModify orders (fun same _ => other same)

theorem handleMarkSpares {orderId target reason now} (other : k = orderId → ¬ dismissed target) :
    Spares k db (handleMark db orderId target reason now).1 := by
  unfold handleMark
  split
  · exact sparesSame rfl
  · exact handledSpares (fun last => markSpares other)

theorem creditPaidSpares (cfg db orderId e now) : Spares k db (creditPaid cfg db orderId e now).1 := by
  have paid : Spares k db (markOrderPaid db orderId e.customer e.objectId e.paymentIntent now) := by
    obtain same | ⟨order,_,_,made⟩ := paidSpec db orderId e.customer e.objectId e.paymentIntent now
    · rw [same]
      exact sparesSame rfl
    · rw [made]
      exact sparesModify rfl (fun _ _ => by simp [dismissed])
  refine sparesTrans paid (handledSpares fun last done => ?_)
  obtain ⟨⟨_,_⟩,credited,rfl⟩ := mapOk.mp done
  obtain ⟨_,_,⟨_,rfl,_⟩ | ⟨_,applied⟩⟩ := creditSpec credited
  · exact sparesSame rfl
  · exact sparesModify (applyOrders applied) (fun _ _ => by simp [dismissed,creditedOrder])

theorem refundSpares {orderId now} (h : reconcileRefund db orderId now = .ok db') : Spares k db db' := by
  obtain ⟨order,_,refunds⟩ := refundSpec h
  have review : ∀ reason, Spares k db (reviewOrder db orderId reason) := fun reason =>
    sparesModify rfl (fun _ _ => by simp [dismissed])
  cases refunds with
  | done => exact sparesSame rfl
  | early => exact review _
  | @legacy user =>
    refine @sparesModify k db _ orderId (settledLegacy order user now) rfl (fun _ o => ?_)
    unfold settledLegacy
    split <;> simp [dismissed,refundedOrder]
  | short => exact review _
  | reversed _ _ _ reverses => exact sparesModify reverses.orders (fun _ _ => by simp [dismissed,refundedOrder])

theorem handleSpares (cfg db) {e} (now) (spared : ¬ Dismisses e k) : Spares k db (handle cfg db e now).1 := by
  have review : k = e.metadataOrderId → ¬ dismissed .manualReview := fun _ => by simp [dismissed]
  have paid : ∀ async, Spares k db (handleCheckoutPaid cfg db e async now).1 := by
    intro _
    unfold handleCheckoutPaid
    simp only
    split
    · exact sparesSame rfl
    split
    · exact sparesSame rfl
    split
    · exact sparesSame rfl
    split
    · rename_i mismatch _
      obtain ⟨last,done,same⟩ | same := commitCases db
        (markStripeTopupOrderStatus db (novapuraOrderId e) .any .manualReview mismatch.reason now)
      · rw [same]
        exact markSpares (fun _ => by simp [dismissed]) done
      · rw [same]
        exact sparesSame rfl
    · exact creditPaidSpares cfg db _ e now
  unfold handle
  cases type : e.type with
  | checkoutSessionCompleted => exact paid false
  | checkoutSessionAsyncPaymentSucceeded => exact paid true
  | checkoutSessionAsyncPaymentFailed => exact handleMarkSpares (fun same => absurd (.inl ⟨type,same.symm⟩) spared)
  | checkoutSessionExpired => exact handleMarkSpares (fun same => absurd (.inr (.inl ⟨type,same.symm⟩)) spared)
  | paymentIntentPaymentFailed => exact handleMarkSpares (fun same => absurd (.inr (.inr ⟨type,same.symm⟩)) spared)
  | chargeRefunded =>
    simp only [handleChargeRefunded]
    split
    · exact sparesSame rfl
    · exact handledSpares (fun last => refundSpares)
  | dispute => exact handleMarkSpares review
  | other => exact sparesSame rfl

end Spared

structure Delivery where
  event : Event
  now : Int

def deliver (cfg : Config) (s : Endpoint) (d : Delivery) : Endpoint :=
  topupStep setting cfg s (.deliver d.event d.now)

def notDismissed (orderId : String) (s : Endpoint) : Prop := ∀ order, s.db.orders.get? orderId = some order → ¬ dismissed order.status

theorem deliverSpares {setting} (s d)
    (spared : ¬ Dismisses d.event orderId) (here : notDismissed orderId s) : notDismissed orderId (deliver setting cfg s d) := by
  have spares : Spares orderId s.db (deliver setting cfg s d).db := by
    simp only [deliver,topupStep,processVerifiedEvent]
    split
    · exact sparesSame rfl
    · split
      · exact sparesSame rfl
      · exact handleSpares cfg s.db d.now spared
  intro order' found out
  obtain ⟨order,there,before⟩ := spares order' found out
  exact here order there before

/- Every payment event leaves its order credited, refunded or under review if and only if
each finds it so already, or not seen before with an order that can be credited. Only the
events of failed attempts and dead checkouts take an order out of reach of its payment. -/
theorem paidLandsIffFindsOpen (cfg : Config) (s : Endpoint) :
    (∀ ops, Along (topupStep setting cfg) (PaidLands setting cfg) s ops ↔ Along (topupStep setting cfg) (PaidFindsOpen setting cfg) s ops) ∧
    ∀ orderId, notDismissed orderId s → ∀ deliveries : List Delivery, (∀ d ∈ deliveries, ¬ Dismisses d.event orderId) →
      notDismissed orderId (run (deliver setting cfg) s deliveries) := by
  refine ⟨fun ops => alongIff (paidLandsStep setting cfg),?_⟩
  intro _ here _ spared
  exact runKeepsAllowed (fun s d => deliverSpares s d) spared here

def sandbox : StripeSetting := ⟨true,""⟩

theorem hundred : (0 : Int) < 100 := by decide

def placed : List TopupOp :=
  [.wallet (.lot (.insertUser "a@example.com")),
   .wallet (.lot (.createCheckout 1 (.ofPayment "usd" 500 5000000 100 hundred) "np_1" (.created "cs_1" "" "" 0) 10))]

def eventOf (id : String) (type : EventType) : Event where
  id := id
  type := type
  livemode := false
  account := ""
  clientReferenceId := if type = .paymentIntentPaymentFailed then "" else "np_1"
  metadataOrderId := "np_1"
  status := "complete"
  paymentStatus := "paid"
  amountTotal := some 500
  currency := "usd"
  objectId := "cs_1"
  customer := "cus_1"
  paymentIntent := "pi_1"

def paidAtOnce : List TopupOp := placed ++ [.deliver (eventOf "evt_1" .checkoutSessionCompleted) 20]

theorem paidAtOnceLands : Along (topupStep sandbox .shipped) (PaidLands sandbox .shipped) ⟨Database.empty,.empty⟩ paidAtOnce ∧
    notDismissed "np_1" (run (deliver sandbox .shipped) (run (topupStep sandbox .shipped) ⟨Database.empty,.empty⟩ placed)
      [⟨eventOf "evt_1" .checkoutSessionCompleted,20⟩]) := by
  refine ⟨((paidLandsIffFindsOpen sandbox .shipped ⟨Database.empty,.empty⟩).1 paidAtOnce).mpr ⟨trivial,trivial,?_,trivial⟩,
    (paidLandsIffFindsOpen sandbox .shipped _).2 "np_1" ?_ _ ?_⟩
  · intro _ order found _
    cases found
    refine .inr ⟨by decide,by decide,⟨_,rfl,by decide⟩,by decide,by decide,by decide,fun pos => absurd pos (by decide),?_⟩
    intro type pos
    cases type with
    | paid => exact ⟨by decide,by decide,rfl⟩
    | promotional => exact absurd pos (by decide)
  · intro _ found
    cases found
    decide
  · intro d mem
    cases List.mem_singleton.mp mem
    simp [Dismisses,eventOf]

def declinedThenPaid : List TopupOp := placed ++
  [.deliver (eventOf "evt_1" .paymentIntentPaymentFailed) 20,.deliver (eventOf "evt_2" .checkoutSessionCompleted) 30]

theorem declinedThenPaidLost :
    ¬ Along (topupStep sandbox .shipped) (PaidLands sandbox .shipped) ⟨Database.empty,.empty⟩ declinedThenPaid := by
  rintro ⟨_,_,_,paid,_⟩
  have event : PaidEvent sandbox (eventOf "evt_2" .checkoutSessionCompleted) := ⟨rfl,by decide,.inl ⟨rfl,by decide⟩⟩
  obtain ⟨order,found,settled⟩ := paid event _ rfl (by decide)
  have status : ((run (topupStep sandbox .shipped) ⟨Database.empty,.empty⟩ declinedThenPaid).db.orders.get? "np_1").map (·.status) =
      some .failed := by decide
  obtain ⟨row,there,failed⟩ := map_eq_some_iff.mp status
  have same : order = row := some.inj (found.symm.trans there)
  subst row
  simp [settledStatus,failed] at settled

end NovaPuraRouter.PaymentEvent
