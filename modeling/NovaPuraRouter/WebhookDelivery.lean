import NovaPuraRouter.PaymentEvent

/-! Deliveries of one event that run side by side. The row that claims the event is
inserted before the effect and outside its transaction; a handler can fail or the process
can stop at any point after that, also between the two writes of a payment. -/
namespace NovaPuraRouter.WebhookDelivery
open TopupOrder OrderSpec Refund RefundSpec Webhook PaymentEvent Option Table

-- `stuck true` will release the row before it answers, `stuck false` will keep it.
inductive Phase | waiting | claimed | done | stuck (retry : Bool) | acknowledged | refused | crashed
  deriving DecidableEq, Repr

structure Deliveries where
  endpoint : Endpoint
  phase : Nat → Phase

def Deliveries.at (s : Deliveries) (d : Nat) (p : Phase) (endpoint : Endpoint) : Deliveries :=
  ⟨endpoint,Function.update s.phase d p⟩

inductive DeliveryOp
  | receive (d : Nat) (now : Int)
  | work (d : Nat) (now : Int)
  | stall (d : Nat) (first : Bool) (now : Int)
  | answer (d : Nat) (released : Bool)
  | crash (d : Nat) (first : Bool) (now : Int)

variable (db : Database)

def checkoutBegun (e : Event) (async : Bool) (now : Int) : Database :=
  if novapuraOrderId e = "" ∨ awaitsPayment e async then db else
    match db.orders.get? (novapuraOrderId e) with
    | none => db
    | some order => match paymentMismatch order e with
      | some _ => db
      | none => markOrderPaid db (novapuraOrderId e) e.customer e.objectId e.paymentIntent now

-- Only the payment handlers write twice.
def begun (e : Event) (now : Int) : Database := match e.type with
  | .checkoutSessionCompleted => checkoutBegun db e false now
  | .checkoutSessionAsyncPaymentSucceeded => checkoutBegun db e true now
  | _ => db

def broken (e : Event) (first : Bool) (now : Int) : Database := if first then begun db e now else db

def phaseOf : Except WebhookFailure Unit → Phase
  | .ok _ => .done
  | .error failure => .stuck (!failure.permanent)

variable (setting : StripeSetting)

def deliveryStep (cfg : Config) (e : Event) (s : Deliveries) : DeliveryOp → Deliveries
  | .receive d now => if s.phase d ≠ .waiting then s else
      match admission setting e with
      | some _ => s.at d .refused s.endpoint
      | none => match s.endpoint.events.insert? e.id (eventRow e now) with
        | none => s.at d .acknowledged s.endpoint
        | some events => s.at d .claimed ⟨s.endpoint.db,events⟩
  | .work d now => if s.phase d ≠ .claimed then s else
      let result := handle cfg s.endpoint.db e now
      s.at d (phaseOf result.2) ⟨result.1,s.endpoint.events⟩
  | .stall d first now => if s.phase d ≠ .claimed then s else
      s.at d (.stuck true) ⟨broken s.endpoint.db e first now,s.endpoint.events⟩
  | .answer d released => match s.phase d with
      | .done => s.at d .acknowledged s.endpoint
      | .stuck retry =>
        s.at d .refused ⟨s.endpoint.db,if retry && released then s.endpoint.events.erase e.id else s.endpoint.events⟩
      | _ => s
  | .crash d first now => match s.phase d with
      | .claimed => s.at d .crashed ⟨broken s.endpoint.db e first now,s.endpoint.events⟩
      | .done => s.at d .crashed s.endpoint
      | .stuck _ => s.at d .crashed s.endpoint
      | _ => s

def running : Phase → Prop
  | .claimed | .done | .stuck _ => True
  | _ => False

def statusIs (orderId : String) (status : StripeOrderStatus) : Prop :=
  ∃ order, db.orders.get? orderId = some order ∧ order.status = status

/- The effect of an event, read off the orders; an event without an order to act on has none. -/
def Applied (e : Event) : Prop := match e.type with
  | .checkoutSessionCompleted => novapuraOrderId e = "" ∨ awaitsPayment e false ∨ statusIs db (novapuraOrderId e) .credited
  | .checkoutSessionAsyncPaymentSucceeded =>
      novapuraOrderId e = "" ∨ awaitsPayment e true ∨ statusIs db (novapuraOrderId e) .credited
  | .checkoutSessionAsyncPaymentFailed => novapuraOrderId e = "" ∨ statusIs db (novapuraOrderId e) .failed
  | .checkoutSessionExpired => e.clientReferenceId = "" ∨ statusIs db e.clientReferenceId .expired
  | .paymentIntentPaymentFailed => e.metadataOrderId = "" ∨ statusIs db e.metadataOrderId .failed
  | .chargeRefunded => refundedOrderId db e = "" ∨ statusIs db (refundedOrderId db e) .refunded ∨
      statusIs db (refundedOrderId db e) .manualReview
  | .dispute => e.metadataOrderId = "" ∨ statusIs db e.metadataOrderId .manualReview
  | .other => True

def acknowledged (s : Deliveries) : Prop := ∃ d, s.phase d = .acknowledged

def AckedApplied (e : Event) (s : Deliveries) : Prop :=
  acknowledged s → (∀ d, ¬ running (s.phase d)) → Applied s.endpoint.db e

/- A duplicate is acknowledged only behind the effect or a delivery that still runs, and
once something is acknowledged a delivery stops only behind the effect. -/
def NoneLost (e : Event) (s : Deliveries) : DeliveryOp → Prop
  | .receive d _ => s.phase d = .waiting → admission setting e = none → e.id ∈ s.endpoint.events.keys →
      Applied s.endpoint.db e ∨ ∃ d', running (s.phase d')
  | .answer d _ => (∃ retry, s.phase d = .stuck retry) → acknowledged s → Applied s.endpoint.db e
  | .crash d _ _ => running (s.phase d) → acknowledged s → Applied s.endpoint.db e
  | _ => True

/- The same by the phases alone: a duplicate comes behind an acknowledged delivery or one
that still runs, and a delivery is given up only before anything is acknowledged. -/
def Orderly (e : Event) (s : Deliveries) : DeliveryOp → Prop
  | .receive d _ => s.phase d = .waiting → admission setting e = none → e.id ∈ s.endpoint.events.keys →
      acknowledged s ∨ ∃ d', running (s.phase d')
  | .answer d _ => (∃ retry, s.phase d = .stuck retry) → ¬ acknowledged s
  | .crash d _ _ => running (s.phase d) → ¬ acknowledged s
  | _ => True

variable {db db' : Database} {orderId : String} {change : StripeTopupOrder → StripeTopupOrder} {now : Int}

theorem statusModify {order} {status} (orders : db'.orders = db.orders.modify orderId change) (found : db.orders.get? orderId = some order)
    (made : (change order).status = status) : statusIs db' orderId status :=
  ⟨change order,by rw [orders,getModifySelf,found]; rfl,made⟩

theorem handledOk {result} (ok : (handled db result).2 = .ok ()) : result = .ok (handled db result).1 := by
  cases result with
  | error => cases ok
  | ok => rfl

theorem markApplied {target reason} (ok : (handleMark db orderId target reason now).2 = .ok ()) :
    orderId = "" ∨ statusIs (handleMark db orderId target reason now).1 orderId target := by
  unfold handleMark at ok ⊢
  split
  · rename_i empty
    exact .inl empty
  rename_i named
  rw [if_neg named] at ok
  obtain ⟨same,order,found,status⟩ | ⟨order,marks⟩ := markSpec (handledOk ok)
  · exact .inr ⟨order,by rw [same]; exact found,status⟩
  · obtain ⟨_,orders⟩ := marks.orders
    exact .inr (statusModify orders marks.found rfl)

theorem paidApplied {cfg e async} (ok : (handleCheckoutPaid cfg db e async now).2 = .ok ()) :
    novapuraOrderId e = "" ∨ awaitsPayment e async ∨ statusIs (handleCheckoutPaid cfg db e async now).1 (novapuraOrderId e) .credited := by
  unfold handleCheckoutPaid at ok ⊢
  simp only at ok ⊢
  split
  · rename_i empty
    exact .inl empty
  rename_i named
  rw [if_neg named] at ok
  split
  · rename_i waits
    exact .inr (.inl waits)
  rename_i due
  rw [if_neg due] at ok
  refine .inr (.inr ?_)
  cases found : db.orders.get? (novapuraOrderId e) with
  | none => simp [found] at ok
  | some order =>
    simp only [found] at ok ⊢
    cases evidence : paymentMismatch order e with
    | some => simp [evidence] at ok
    | none =>
      simp only [evidence,creditPaid] at ok ⊢
      obtain ⟨⟨_,_⟩,credited,same⟩ := mapOk.mp (handledOk ok)
      obtain ⟨row,there,⟨_,unchanged,done⟩ | ⟨_,applied⟩⟩ := creditSpec credited
      · exact ⟨row,by rw [← same]; simp only [unchanged]; exact there,done⟩
      · exact statusModify (by rw [← same]; exact applyOrders applied) there rfl

theorem refundedOrderKept {k} (e) (orders : db'.orders = db.orders.modify k change)
    (same : ∀ o, (change o).stripePaymentIntentId = o.stripePaymentIntentId) : refundedOrderId db' e = refundedOrderId db e := by
  unfold refundedOrderId
  rw [orders,selectModify _ _ _ (fun o => by rw [same])]
  cases db.orders.select (fun _ o => decide (o.stripePaymentIntentId = e.paymentIntent)) with
  | nil => rfl
  | cons => simp only [List.map_cons,touchKey]

theorem refundModifies (h : reconcileRefund db orderId now = .ok db') :
    ∃ order, db.orders.get? orderId = some order ∧ ((db' = db ∧ order.status = .refunded) ∨
      ∃ change : StripeTopupOrder → StripeTopupOrder, db'.orders = db.orders.modify orderId change ∧
        (∀ o, (change o).stripePaymentIntentId = o.stripePaymentIntentId) ∧
        ((change order).status = .refunded ∨ (change order).status = .manualReview)) := by
  obtain ⟨order,found,refunds⟩ := refundSpec h
  refine ⟨order,found,?_⟩
  cases refunds with
  | done settled => exact .inl ⟨rfl,settled⟩
  | early => exact .inr ⟨_,rfl,fun _ => rfl,.inr rfl⟩
  | @legacy user =>
    refine .inr ⟨settledLegacy order user now,rfl,?_,?_⟩
    · intro o
      unfold settledLegacy
      split <;> rfl
    · unfold settledLegacy
      split
      · exact .inr rfl
      · exact .inl rfl
  | short => exact .inr ⟨_,rfl,fun _ => rfl,.inr rfl⟩
  | reversed _ _ _ reverses => exact .inr ⟨_,reverses.orders,fun _ => rfl,.inl rfl⟩

theorem refundApplied {e} (ok : (handleChargeRefunded db e now).2 = .ok ()) : refundedOrderId (handleChargeRefunded db e now).1 e = "" ∨
      statusIs (handleChargeRefunded db e now).1 (refundedOrderId (handleChargeRefunded db e now).1 e) .refunded ∨
      statusIs (handleChargeRefunded db e now).1 (refundedOrderId (handleChargeRefunded db e now).1 e) .manualReview := by
  unfold handleChargeRefunded at ok ⊢
  split
  · rename_i empty
    exact .inl empty
  rename_i named
  rw [if_neg named] at ok
  have runs := handledOk ok
  generalize (handled db (reconcileRefund db (refundedOrderId db e) now)).1 = db' at runs
  obtain ⟨order,found,⟨rfl,status⟩ | ⟨_,orders,same,status⟩⟩ := refundModifies runs
  · exact .inr (.inl ⟨order,found,status⟩)
  rw [refundedOrderKept e orders same]
  obtain refunded | review := status
  · exact .inr (.inl (statusModify orders found refunded))
  · exact .inr (.inr (statusModify orders found review))

theorem handleApplied {cfg e} (ok : (handle cfg db e now).2 = .ok ()) : Applied (handle cfg db e now).1 e := by
  unfold Applied
  unfold handle at ok ⊢
  revert ok
  cases e.type with
  | checkoutSessionCompleted | checkoutSessionAsyncPaymentSucceeded => exact fun ok => paidApplied ok
  | checkoutSessionAsyncPaymentFailed | checkoutSessionExpired | paymentIntentPaymentFailed => exact fun ok => markApplied ok
  | chargeRefunded => exact fun ok => refundApplied ok
  | dispute => exact fun ok => markApplied ok
  | other => exact fun _ => trivial

theorem markPaidCredited (db orderId customerId sessionId paymentIntentId now k) :
    statusIs (markOrderPaid db orderId customerId sessionId paymentIntentId now) k .credited ↔ statusIs db k .credited := by
  obtain same | ⟨order,found,can,made⟩ := paidSpec db orderId customerId sessionId paymentIntentId now
  · rw [same]
  rw [made]
  unfold statusIs
  simp only [setOrder,Table.getModify]
  by_cases here : k = orderId
  · subst k
    simp only [if_true,found,map_some,some.injEq,exists_eq_left',reduceCtorEq,false_iff]
    obtain pending | created := can
    · simp [pending]
    · simp [created]
  · simp only [if_neg here]

theorem checkoutBegunCredited (db e async now k) : statusIs (checkoutBegun db e async now) k .credited ↔ statusIs db k .credited := by
  unfold checkoutBegun
  split
  · rfl
  split
  · rfl
  · split
    · rfl
    · exact markPaidCredited db _ _ _ _ now k

theorem brokenApplied (db e first now) : Applied (broken db e first now) e ↔ Applied db e := by
  unfold broken
  split
  · unfold Applied begun
    cases e.type with
    | checkoutSessionCompleted | checkoutSessionAsyncPaymentSucceeded => simp only [checkoutBegunCredited]
    | _ => rfl
  · rfl

structure Claimed (e : Event) (s : Deliveries) : Prop where
  one : ∀ d d', running (s.phase d) → running (s.phase d') → d = d'
  row : ∀ d, running (s.phase d) → e.id ∈ s.endpoint.events.keys
  done : ∀ d, s.phase d = .done → Applied s.endpoint.db e

section Phases
variable {e : Event} {s : Deliveries} {d : Nat} {p : Phase} {endpoint : Endpoint}

theorem phaseAt (j) : (s.at d p endpoint).phase j = if j = d then p else s.phase j := by
  simp only [Deliveries.at,Function.update_apply]

section
variable (claimed : Claimed e s) (here : running (s.phase d))
include claimed here

theorem othersIdle {j} (other : j ≠ d) : ¬ running (s.phase j) :=
  fun there => other (claimed.one j d there here)

theorem claimedOn (events : endpoint.events = s.endpoint.events) (done : p = .done → Applied endpoint.db e) : Claimed e (s.at d p endpoint) := by
  have idle := fun j other => @othersIdle e s d claimed here j other
  refine ⟨?_,?_,?_⟩
  · intro j k hj hk
    rw [phaseAt] at hj hk
    split at hj <;> split at hk <;> simp_all
  · intro j _
    simp only [Deliveries.at,events]
    exact claimed.row d here
  · intro j hj
    rw [phaseAt] at hj
    split at hj
    · exact done hj
    · rename_i other
      exact absurd (by rw [hj]; trivial) (idle j other)

theorem claimedStop (idle : ¬ running p) :
    Claimed e (s.at d p endpoint) ∧ ∀ j, ¬ running ((s.at d p endpoint).phase j) := by
  have nothing : ∀ j, ¬ running ((s.at d p endpoint).phase j) := by
    intro j
    rw [phaseAt]
    split
    · exact idle
    · rename_i other
      exact othersIdle claimed here other
  exact ⟨⟨fun j _ hj => absurd hj (nothing j),fun j hj => absurd hj (nothing j),fun j hj => absurd (by rw [hj]; trivial) (nothing j)⟩,nothing⟩

end

theorem runningAside (idle : ¬ running (s.phase d)) (still : ¬ running p) (j) :
    running ((s.at d p endpoint).phase j) ↔ running (s.phase j) := by
  rw [phaseAt]
  split
  · rename_i same
    subst j
    exact iff_of_false still idle
  · rfl

theorem claimedAside (claimed : Claimed e s) (idle : ¬ running (s.phase d)) (still : ¬ running p) : Claimed e (s.at d p s.endpoint) := by
  have same := @runningAside s d p s.endpoint idle still
  refine ⟨fun j k hj hk => claimed.one j k ((same j).mp hj) ((same k).mp hk),fun j hj => claimed.row j ((same j).mp hj),?_⟩
  intro j hj
  rw [phaseAt] at hj
  split at hj
  · exact absurd (by rw [hj]; trivial) still
  · exact claimed.done j hj

theorem acknowledgedAt (idle : s.phase d ≠ .acknowledged) (other : p ≠ .acknowledged) :
    acknowledged (s.at d p endpoint) ↔ acknowledged s := by
  refine exists_congr fun j => ?_
  rw [phaseAt]
  split
  · rename_i same
    subst j
    simp [idle,other]
  · rfl

end Phases

section Steps
variable {setting : StripeSetting} {cfg : Config} {e : Event}

structure DeliveryStep (setting : StripeSetting) (cfg : Config) (e : Event) (s : Deliveries) (op : DeliveryOp) : Prop where
  claimed : Claimed e (deliveryStep setting cfg e s op)
  exactly : AckedApplied e s → (AckedApplied e (deliveryStep setting cfg e s op) ↔ NoneLost setting e s op)

variable {s : Deliveries}

theorem stepIdle {op} (claimed : Claimed e s)
    (same : deliveryStep setting cfg e s op = s) (free : NoneLost setting e s op) : DeliveryStep setting cfg e s op := by
  refine ⟨by rw [same]; exact claimed,fun good => ?_⟩
  rw [same]
  exact ⟨fun _ => free,fun _ => good⟩

theorem stepBusy {s s' op d} (same : deliveryStep setting cfg e s op = s')
    (claimed : Claimed e s') (busy : running (s'.phase d)) (free : NoneLost setting e s op) : DeliveryStep setting cfg e s op := by
  refine ⟨by rw [same]; exact claimed,fun _ => ?_⟩
  rw [same]
  exact ⟨fun _ => free,fun _ _ quiet => absurd busy (quiet d)⟩

theorem stepStop {s op d p endpoint} (claimed : Claimed e s) (here : running (s.phase d)) (idle : ¬ running p) (other : p ≠ .acknowledged)
    (effect : Applied endpoint.db e ↔ Applied s.endpoint.db e) (same : deliveryStep setting cfg e s op = s.at d p endpoint)
    (lost : NoneLost setting e s op ↔ (acknowledged s → Applied s.endpoint.db e)) : DeliveryStep setting cfg e s op := by
  obtain ⟨after,quiet⟩ := @claimedStop e s d p endpoint claimed here idle
  have before : s.phase d ≠ .acknowledged := by
    intro h
    rw [h] at here
    exact here
  refine ⟨by rw [same]; exact after,fun _ => ?_⟩
  rw [same,lost]
  simp only [AckedApplied,acknowledgedAt before other,quiet,not_false_eq_true,implies_true,forall_const]
  exact forall_congr' fun _ => effect

theorem receiveStep (claimed : Claimed e s) (d now) : DeliveryStep setting cfg e s (.receive d now) := by
  by_cases fresh : s.phase d = .waiting
  · have idle : ¬ running (s.phase d) := by simp [fresh,running]
    cases admitted : admission setting e with
    | some =>
      have same : deliveryStep setting cfg e s (.receive d now) = s.at d .refused s.endpoint := by
        simp [deliveryStep,fresh,admitted]
      refine ⟨by rw [same]; exact claimedAside claimed idle id,fun good => ?_⟩
      rw [same]
      simp only [AckedApplied,acknowledgedAt (by simp [fresh] : s.phase d ≠ .acknowledged) (by simp : Phase.refused ≠ .acknowledged),
        runningAside idle (id : ¬ running .refused)]
      exact ⟨fun _ _ yes => by simp [admitted] at yes,fun _ => good⟩
    | none =>
      by_cases seen : e.id ∈ s.endpoint.events.keys
      · -- a duplicate is acknowledged at once
        have same : deliveryStep setting cfg e s (.receive d now) = s.at d .acknowledged s.endpoint := by
          simp [deliveryStep,fresh,admitted,insert?,seen]
        refine ⟨by rw [same]; exact claimedAside claimed idle id,fun _ => ?_⟩
        rw [same]
        have acked : acknowledged (s.at d .acknowledged s.endpoint) := ⟨d,by rw [phaseAt,if_pos rfl]⟩
        simp only [AckedApplied,acked,forall_const,runningAside idle (id : ¬ running .acknowledged),NoneLost,fresh,admitted,seen]
        rw [or_comm,or_iff_not_imp_left,not_exists]
        rfl
      · have busy := fun j hj => seen (claimed.row j hj)
        have same : deliveryStep setting cfg e s (.receive d now) =
            s.at d .claimed ⟨s.endpoint.db,s.endpoint.events.insert e.id (eventRow e now) seen⟩ := by
          simp [deliveryStep,fresh,admitted,insert?,seen]
        refine @stepBusy setting cfg e s _ _ d same ⟨?_,?_,?_⟩ (by rw [phaseAt,if_pos rfl]; trivial) (fun _ _ there => absurd there seen)
        · intro j k hj hk
          rw [phaseAt] at hj hk
          split at hj
          · split at hk
            · simp_all
            · exact absurd hk (busy k)
          · exact absurd hj (busy j)
        · intro j _
          simp [Deliveries.at,Table.keys,Table.insert]
        · intro j hj
          rw [phaseAt] at hj
          split at hj
          · cases hj
          · exact absurd (by rw [hj]; trivial) (busy j)
  · refine stepIdle claimed ?_ (fun waits => absurd waits fresh)
    simp only [deliveryStep,if_pos fresh]

theorem claimedRuns {d} (here : s.phase d = .claimed) : running (s.phase d) := by
  rw [here]
  trivial

section
variable (claimed : Claimed e s)
include claimed

theorem workStep (d now) : DeliveryStep setting cfg e s (.work d now) := by
  by_cases here : s.phase d = .claimed
  · have same : deliveryStep setting cfg e s (.work d now) = s.at d (phaseOf (handle cfg s.endpoint.db e now).2)
        ⟨(handle cfg s.endpoint.db e now).1,s.endpoint.events⟩ := by
      simp only [deliveryStep,here,ne_eq,not_true_eq_false,if_false]
    refine @stepBusy setting cfg e s _ _ d same (claimedOn claimed (claimedRuns here) rfl ?_) ?_ trivial
    · intro done
      refine handleApplied ?_
      cases result : (handle cfg s.endpoint.db e now).2 with
      | ok => rfl
      | error => simp [result,phaseOf] at done
    · rw [phaseAt,if_pos rfl]
      cases (handle cfg s.endpoint.db e now).2 <;> trivial
  · refine stepIdle claimed ?_ trivial
    simp only [deliveryStep,if_pos here]

theorem stallStep (d first now) : DeliveryStep setting cfg e s (.stall d first now) := by
  by_cases here : s.phase d = .claimed
  · have same : deliveryStep setting cfg e s (.stall d first now) =
        s.at d (.stuck true) ⟨broken s.endpoint.db e first now,s.endpoint.events⟩ := by
      simp only [deliveryStep,here,ne_eq,not_true_eq_false,if_false]
    refine @stepBusy setting cfg e s _ _ d same (claimedOn claimed (claimedRuns here) rfl (fun done => by cases done)) ?_ trivial
    rw [phaseAt,if_pos rfl]
    trivial
  · refine stepIdle claimed ?_ trivial
    simp only [deliveryStep,if_pos here]

theorem answerStep (d released) : DeliveryStep setting cfg e s (.answer d released) := by
  cases here : s.phase d with
  | done =>
    have runs : running (s.phase d) := by rw [here]; trivial
    have same : deliveryStep setting cfg e s (.answer d released) = s.at d .acknowledged s.endpoint := by
      simp only [deliveryStep,here]
    obtain ⟨after,_⟩ := @claimedStop e s d .acknowledged s.endpoint claimed runs id
    refine ⟨by rw [same]; exact after,fun _ => ?_⟩
    rw [same]
    exact ⟨fun _ stuck => by simp [here] at stuck,fun _ _ _ => claimed.done d here⟩
  | stuck retry =>
    have runs : running (s.phase d) := by rw [here]; trivial
    refine @stepStop setting cfg e s _ d .refused ⟨s.endpoint.db,if retry && released then s.endpoint.events.erase e.id
      else s.endpoint.events⟩ claimed runs id (by simp) Iff.rfl (by simp only [deliveryStep,here]) ?_
    exact ⟨fun h => h ⟨retry,here⟩,fun h _ => h⟩
  | waiting
  | claimed | acknowledged | refused | crashed =>
    exact stepIdle claimed (by simp only [deliveryStep,here]) (fun stuck => by simp [here] at stuck)

theorem crashStep (d first now) : DeliveryStep setting cfg e s (.crash d first now) := by
  have lost : running (s.phase d) → (NoneLost setting e s (.crash d first now) ↔ (acknowledged s → Applied s.endpoint.db e)) :=
    fun runs => ⟨fun h => h runs,fun h _ => h⟩
  have idle : ¬ running (s.phase d) → NoneLost setting e s (.crash d first now) := fun still runs => absurd runs still
  cases here : s.phase d with
  | claimed =>
    have runs := claimedRuns here
    exact @stepStop setting cfg e s _ d .crashed ⟨broken s.endpoint.db e first now,s.endpoint.events⟩ claimed runs id (by simp)
      (brokenApplied s.endpoint.db e first now) (by simp only [deliveryStep,here]) (lost runs)
  | done | stuck =>
    have runs : running (s.phase d) := by rw [here]; trivial
    exact @stepStop setting cfg e s _ d .crashed _ claimed runs id (by simp) Iff.rfl (by simp only [deliveryStep,here]) (lost runs)
  | waiting | acknowledged | refused | crashed => exact stepIdle claimed (by simp only [deliveryStep,here]) (idle (by simp [here,running]))

theorem deliverySteps (op) : DeliveryStep setting cfg e s op := by
  cases op with
  | receive d now => exact receiveStep claimed d now
  | work d now => exact workStep claimed d now
  | stall d first now => exact stallStep claimed d first now
  | answer d released => exact answerStep claimed d released
  | crash d first now => exact crashStep claimed d first now

end

theorem orderlyLoses {op} (applied : AckedApplied e s) (orderly : Orderly setting e s op) : NoneLost setting e s op := by
  cases op with
  | receive d now =>
    intro fresh admitted seen
    rcases orderly fresh admitted seen with acked | runs
    · by_cases quiet : ∀ j, ¬ running (s.phase j)
      · exact .inl (applied acked quiet)
      · exact .inr (by simpa using quiet)
    · exact .inr runs
  | answer => exact fun stuck acked => absurd acked (orderly stuck)
  | crash => exact fun runs acked => absurd acked (orderly runs)
  | work | stall => trivial

end Steps

def waiting (endpoint : Endpoint) : Deliveries := ⟨endpoint,fun _ => .waiting⟩

theorem aloneSequential (setting cfg endpoint e now) :
    (run (deliveryStep setting cfg e) (waiting endpoint) [.receive 0 now,.work 0 now,.answer 0 true]).endpoint =
        (processVerifiedEvent setting cfg endpoint e now).1 ∧
      ((run (deliveryStep setting cfg e) (waiting endpoint) [.receive 0 now,.work 0 now,.answer 0 true]).phase 0 = .acknowledged ↔
        (processVerifiedEvent setting cfg endpoint e now).2 = .ok ()) := by
  simp only [run,List.foldl_cons,List.foldl_nil,processVerifiedEvent]
  cases admitted : admission setting e with
  | some => simp [deliveryStep,waiting,admitted,Deliveries.at]
  | none =>
    cases inserted : endpoint.events.insert? e.id (eventRow e now) with
    | none => simp [deliveryStep,waiting,admitted,inserted,Deliveries.at]
    | some =>
      cases result : (handle cfg endpoint.db e now).2 with
      | ok => simp [deliveryStep,waiting,admitted,inserted,Deliveries.at,result,phaseOf,release]
      | error failure =>
        cases permanent : failure.permanent with
        | true | false => simp [deliveryStep,waiting,admitted,inserted,Deliveries.at,result,phaseOf,release,permanent]

theorem waitingClaimed (e endpoint) : Claimed e (waiting endpoint) :=
  ⟨fun _ _ runs => absurd runs id,fun _ runs => absurd runs id,fun _ done => by cases done⟩

theorem oneAtWork (setting cfg e endpoint ops) : Always (deliveryStep setting cfg e) (Claimed e) (waiting endpoint) ops :=
  alwaysOfKeeps (fun _ op claimed => (deliverySteps claimed op).claimed) (fun _ claimed => claimed) ops (waitingClaimed e endpoint)

/- Whatever the deliveries of an event do, wherever they fail or stop: what was acknowledged
is applied once none is at work, if and only if no duplicate is acknowledged and no
delivery given up between the claim and the effect. -/
theorem ackedAppliedIffNoneLost (cfg : Config) (e : Event) (endpoint : Endpoint) (ops : List DeliveryOp) :
    Always (deliveryStep setting cfg e) (AckedApplied e) (waiting endpoint) ops ↔
      Along (deliveryStep setting cfg e) (NoneLost setting e) (waiting endpoint) ops := by
  refine @alwaysIffAlong _ _ (deliveryStep setting cfg e) (Claimed e) (AckedApplied e) (AckedApplied e) (NoneLost setting e)
    (fun s op claimed => (deliverySteps claimed op).claimed) (fun _ _ good => good) (fun _ _ _ _ good => good)
    (fun s op claimed good => (deliverySteps claimed op).exactly good) (waiting endpoint) ops (waitingClaimed e endpoint) ?_
  rintro ⟨d,acked⟩
  cases acked

theorem orderlyApplied (cfg : Config) (e : Event) (endpoint : Endpoint) {ops : List DeliveryOp}
    (orderly : Along (deliveryStep setting cfg e) (Orderly setting e) (waiting endpoint) ops) :
    Always (deliveryStep setting cfg e) (AckedApplied e) (waiting endpoint) ops := by
  let Good := fun s => Claimed e s ∧ AckedApplied e s
  have start : Good (waiting endpoint) := by
    refine ⟨waitingClaimed e endpoint,?_⟩
    rintro ⟨d,acked⟩
    cases acked
  have step : ∀ s op, Good s → Orderly setting e s op → Good (deliveryStep setting cfg e s op) := by
    intro s op good here
    have next := @deliverySteps setting cfg e s good.1 op
    exact ⟨next.claimed,(next.exactly good.2).mpr (orderlyLoses good.2 here)⟩
  exact alwaysMono (fun _ good => good.2) (alwaysKept step start orderly)

def payment : Event := eventOf "evt_1" .checkoutSessionCompleted

def checkout : Endpoint := run (topupStep sandbox .shipped) ⟨Database.empty,.empty⟩ placed

def duplicateThenStall : List DeliveryOp := [.receive 0 20,.receive 1 21,.stall 0 true 22,.answer 0 true]

theorem duplicateThenStallLost : ¬ Always (deliveryStep sandbox .shipped payment) (AckedApplied payment) (waiting checkout)
    duplicateThenStall := by
  intro always
  have last := alwaysLast always
  have quiet : ∀ d, ¬ running ((run (deliveryStep sandbox .shipped payment) (waiting checkout) duplicateThenStall).phase d)
    | 0 | 1 | _ + 2 => id
  have status : ((run (deliveryStep sandbox .shipped payment) (waiting checkout) duplicateThenStall).endpoint.db.orders.get?
      "np_1").map (·.status) = some .paid := by decide
  obtain ⟨row,there,paid⟩ := map_eq_some_iff.mp status
  obtain empty | waits | ⟨order,found,credited⟩ := last ⟨1,rfl⟩ quiet
  · exact absurd empty (by decide)
  · exact absurd waits (by decide)
  · have same : order = row := some.inj (found.symm.trans there)
    subst row
    cases credited.symm.trans paid

end NovaPuraRouter.WebhookDelivery
