import NovaPuraRouter.Funding
import NovaPuraRouter.LotLedger

/-! Refunds against requests in flight. A request holds the split of what it took
until it settles or is refunded, and puts back parts of it at any later time. -/
namespace NovaPuraRouter.RefundedOrder
open CreditLot LotBook DeductSpec TopupOrder OrderSpec Refund RefundSpec WalletOps WalletEffect WalletSound LotLedger List Option Table
  Funding

structure Traffic where
  db : Database
  sessions : Table Nat WalletFunding

def restoresFreely : WalletOp → Bool
  | .lot (.restoreUserQuotaSplit _ _ _) => true
  | _ => false

inductive TrafficOp
  | wallet (op : WalletOp) (own : restoresFreely op = false)
  | preConsume (userId : Nat) (amount now : Int)
  | settle (id : Nat) (delta now : Int)
  | refund (id : Nat) (now : Int)
  | finish (id : Nat)

variable (t : Traffic)

def writeBack (id : Nat) (result : Except Failure (WalletFunding × Database)) : Traffic := match result with
  | .error _ => t
  | .ok (w,db') => ⟨db',t.sessions.modify id (fun _ => w)⟩

def withSession (id : Nat) (act : WalletFunding → Except Failure (WalletFunding × Database)) : Traffic :=
  match t.sessions.get? id with
  | none => t
  | some w => writeBack t id (act w)

open Funding

def trafficStep (cfg : Config) (t : Traffic) : TrafficOp → Traffic
  | .wallet op _ => { t with db := walletStep cfg t.db op }
  | .preConsume userId amount now => match preConsume t.db (.fresh userId) amount now with
    | .error _ => t
    | .ok (w,db') => ⟨db',t.sessions.append w⟩
  | .settle id delta now => withSession t id (fun w => settle t.db w delta now)
  | .refund id now => withSession t id (fun w => refund t.db w now)
  | .finish id => { t with sessions := t.sessions.erase id }

def isRefunded (db : Database) (orderId : String) : Prop := ∃ order, db.orders.get? orderId = some order ∧ order.status = .refunded

def RefundedDead : Prop := ∀ id lot, t.db.lots.get? id = some lot → isRefunded t.db lot.orderId →
  ¬ 0 < lot.remainingQuota

def unheld (lotId : Nat) : Prop := ∀ k w, t.sessions.get? k = some w → lotId ∉ lotIds w.split.allocations

-- No request in flight holds a used-up lot of the order that is refunded.
def NoneInFlight : TrafficOp → Prop
  | .wallet (.lot (.reconcileRefund orderId _)) _ => ∀ id lot, t.db.lots.get? id = some lot → lot.orderId = orderId →
      lot.status = .exhausted → unheld t id
  | _ => True

def final (status : CreditLotStatus) : Prop := status = .expired ∨ status = .reversed

def Buried : Prop := ∀ id lot, t.db.lots.get? id = some lot → isRefunded t.db lot.orderId →
  lot.remainingQuota = 0 ∧ (final lot.status ∨ unheld t id)

structure Leaves (t t' : Traffic) : Prop where
  old : ∀ id lot', t'.db.lots.get? id = some lot' → isRefunded t'.db lot'.orderId →
    isRefunded t.db lot'.orderId ∧ ∃ lot, t.db.lots.get? id = some lot ∧ lot.orderId = lot'.orderId
  still : ∀ id lot, t.db.lots.get? id = some lot → lot.remainingQuota = 0 → final lot.status ∨ unheld t id →
    t'.db.lots.get? id = some lot
  held : ∀ id lot, t.db.lots.get? id = some lot → lot.remainingQuota = 0 → unheld t id → unheld t' id

theorem buriedStep {t t'} (buried : Buried t) (leaves : Leaves t t') : Buried t' := by
  intro id lot' found dead
  obtain ⟨before,lot,old,same⟩ := leaves.old id lot' found dead
  obtain ⟨empty,why⟩ := buried id lot old (same ▸ before)
  have kept : lot = lot' := some.inj ((leaves.still id lot old empty why).symm.trans found)
  subst lot'
  exact ⟨empty,why.imp_right (leaves.held id lot old empty)⟩

theorem calmRefunded {db db'} (calm : CalmOrders db db') {k} (h : isRefunded db' k) : isRefunded db k := by
  obtain ⟨o',found,status⟩ := h
  obtain ⟨o,here,change⟩ | ⟨_,fresh⟩ := calm k o' found
  · rcases change.turn with same | ⟨_,paid⟩ | ⟨_,_,drop⟩
    · exact ⟨o,here,same ▸ status⟩
    · simp [paid] at status
    · rcases drop with drop | drop | drop <;> simp [drop] at status
  · rcases fresh with fresh | fresh | fresh <;> simp [fresh] at status

theorem calmOld {db db'} (calm : Calm db db') (id lot') (found : db'.lots.get? id = some lot') (dead : isRefunded db' lot'.orderId) :
    isRefunded db lot'.orderId ∧ ∃ lot, db.lots.get? id = some lot ∧ lot.orderId = lot'.orderId := by
  obtain ⟨_,_,booked,plain⟩ := calm.booked
  obtain ⟨lot,old,same⟩ | ⟨entry,mem,made,_⟩ := bookedSource booked found
  · exact ⟨calmRefunded calm.orders dead,lot,old,same.order.symm⟩
  · exact absurd made (plain entry mem)

theorem spendsStill {db db'} (spends : Spends db db') {id lot}
    (found : db.lots.get? id = some lot) (empty : lot.remainingQuota = 0) : db'.lots.get? id = some lot := by
  obtain ⟨_,_,booked,each⟩ := spends
  exact bookedStill booked found empty (fun e mem _ => each e mem)

variable {t : Traffic}

theorem spentLeaves {t'} (calm : Calm t.db t'.db) (spends : Spends t.db t'.db)
    (held : ∀ id lot, t.db.lots.get? id = some lot → lot.remainingQuota = 0 → unheld t id → unheld t' id) : Leaves t t' :=
  ⟨calmOld calm,fun _ _ found empty _ => spendsStill spends found empty,held⟩

theorem deductsAvoid {db id amount now user e split db'} (ok : LotsOk db.lots)
    (deducts : Deducts db id amount now user e split db') {lotId lot} (found : db.lots.get? lotId = some lot)
    (empty : lot.remainingQuota = 0) : lotId ∉ lotIds split.allocations := by
  have later : e.db.lots.get? lotId = some lot := spendsStill (expiresRows deducts.expires).2 found empty
  have avoids := bookedAvoids deducts.spent later (ok lotId lot found).1 empty (fun x mem => by
    obtain ⟨a,here,rfl⟩ := List.mem_map.mp mem
    have pos := (deducts.each a here).1
    simp only [usageRow]
    omega)
  intro mem
  obtain ⟨a,here,same⟩ := List.mem_map.mp mem
  exact avoids _ (List.mem_map_of_mem here) same

inductive Moves (db : Database) (w : WalletFunding) : WalletFunding → Database → Prop
  | kept {w'} (named : ∀ id ∈ lotIds w'.split.allocations, id ∈ lotIds w.split.allocations) : Moves db w w' db
  | took {w' amount now split db'} (taken : decreaseUserQuotaWithSplit db w.userId amount now = .ok (split,db'))
      (named : ∀ id ∈ lotIds w'.split.allocations, id ∈ lotIds w.split.allocations ∨ id ∈ lotIds split.allocations) :
      Moves db w w' db'
  | gave {w' part now db'} (given : restoreUserQuotaSplit db w.userId part now = .ok db')
      (part_ : ∀ id ∈ lotIds part.allocations, id ∈ lotIds w.split.allocations)
      (named : ∀ id ∈ lotIds w'.split.allocations, id ∈ lotIds w.split.allocations) : Moves db w w' db'

theorem preConsumeMoves {db w amount now w' db'} (h : preConsume db w amount now = .ok (w',db')) : Moves db w w' db' := by
  unfold preConsume at h
  split at h
  · obtain ⟨rfl,rfl⟩ := Prod.mk.inj (pureOk.mp h)
    exact .kept (fun _ mem => mem)
  simp only [bindOk,pureOk] at h
  obtain ⟨⟨_,_⟩,taken,last⟩ := h
  obtain ⟨rfl,rfl⟩ := Prod.mk.inj last
  exact .took taken (fun _ mem => .inr mem)

theorem settleMoves {db w delta now w' db'} (h : settle db w delta now = .ok (w',db')) : Moves db w w' db' := by
  unfold settle at h
  split at h
  · obtain ⟨rfl,rfl⟩ := Prod.mk.inj (pureOk.mp h)
    exact .kept (fun _ mem => mem)
  split at h
  · simp only [bindOk,pureOk] at h
    obtain ⟨⟨_,_⟩,taken,last⟩ := h
    obtain ⟨rfl,rfl⟩ := Prod.mk.inj last
    refine .took taken (fun id mem => ?_)
    simpa only [lotIds,joined,map_append,mem_append] using mem
  · simp only [bindOk,pureOk] at h
    obtain ⟨_,given,last⟩ := h
    obtain ⟨rfl,rfl⟩ := Prod.mk.inj last
    exact .gave given (fun id mem => takeWalletRefundLots _ _ (.inl mem)) (fun id mem => takeWalletRefundLots _ _ (.inr mem))

theorem refundMoves {db w now w' db'} (h : refund db w now = .ok (w',db')) : Moves db w w' db' := by
  unfold refund at h
  split at h
  · obtain ⟨rfl,rfl⟩ := Prod.mk.inj (pureOk.mp h)
    exact .kept (fun _ mem => mem)
  simp only [bindOk,pureOk] at h
  obtain ⟨_,given,last⟩ := h
  obtain ⟨rfl,rfl⟩ := Prod.mk.inj last
  exact .gave given (fun _ mem => mem) (fun _ mem => absurd mem not_mem_nil)

structure MoveLeaves (cfg : Config) (db : Database) (w w' : WalletFunding) (db' : Database) : Prop where
  facts : Facts cfg db db'
  calm : Calm db db'
  still : ∀ id lot, db.lots.get? id = some lot → lot.remainingQuota = 0 →
    final lot.status ∨ id ∉ lotIds w.split.allocations → db'.lots.get? id = some lot
  held : ∀ id lot, db.lots.get? id = some lot → lot.remainingQuota = 0 → id ∉ lotIds w.split.allocations →
    id ∉ lotIds w'.split.allocations

theorem movesLeave {cfg db w w' db'} (sound : Sound cfg db) (h : Moves db w w' db') : MoveLeaves cfg db w w' db' := by
  cases h with
  | kept named =>
    exact ⟨factsNone cfg db,calmQuiet rfl rfl (calmKept rfl),fun _ _ found _ _ => found,fun id _ _ _ free mem => free (named id mem)⟩
  | @took amount now _ _ taken named =>
    have steps : Steps cfg db (.decreaseUserQuota w.userId amount now) db' := stepsDecrease sound taken
    refine ⟨steps.facts,steps.calm trivial,fun id lot found empty _ => spendsStill (steps.spends trivial) found empty,?_⟩
    intro id lot found empty free mem
    obtain old | new := named id mem
    · exact free old
    · obtain ⟨_,rfl,_⟩ | ⟨_,_,_,deducts⟩ := deductCases sound.lots taken
      · exact absurd new not_mem_nil
      · exact deductsAvoid sound.lots deducts found empty new
  | gave given part_ named =>
    have steps := @stepsRestore cfg db _ _ _ _ given
    refine ⟨steps.facts,steps.calm trivial,?_,fun id _ _ _ free mem => free (named id mem)⟩
    intro _ _ found empty why
    obtain rfl | ⟨promo,cash,rows,_,credits,source⟩ := restoreSpec given
    · exact found
    obtain closed | free := why
    · exact bookedClosed credits.booked sound.lots found closed
    refine bookedStill credits.booked found empty (fun x mem same => ?_)
    obtain ⟨a,here,_,rfl⟩ := source x mem
    have named : a.lotId ∈ lotIds w.split.allocations := part_ _ (List.mem_map_of_mem here)
    exact absurd (same ▸ named) free

theorem moveLeaves {cfg t w w' db' sessions} (moved : MoveLeaves cfg t.db w w' db')
    (mine : ∀ id, unheld t id → id ∉ lotIds w.split.allocations)
    (others : ∀ k v, sessions.get? k = some v → t.sessions.get? k = some v ∨ v = w') : Leaves t ⟨db',sessions⟩ := by
  refine ⟨calmOld moved.calm,fun id lot found empty why => moved.still id lot found empty (why.imp_right (mine id)),?_⟩
  intro id lot found empty free k v here
  obtain old | rfl := others k v here
  · exact free k v old
  · exact moved.held id lot found empty (mine id free)

theorem calmLeaves {db'} (calm : Calm t.db db') (spends : Spends t.db db') : Leaves t { t with db := db' } :=
  spentLeaves calm spends (fun _ _ _ _ free => free)

theorem topsLeaves {cfg} {orderId order customerId paymentIntentId sessionId now db'}
    (tops : Tops cfg t.db orderId order customerId paymentIntentId sessionId now db') : Leaves t { t with db := db' } := by
  obtain ⟨first,second,firstFresh,secondFresh,credits⟩ := tops.credits
  have others : ∀ k, isRefunded db' k → k ≠ orderId ∧ isRefunded t.db k := by
    rintro k ⟨o',found,status⟩
    obtain ⟨o,_,_,rfl⟩ | ⟨other,old⟩ := modifyCases (tops.orders ▸ found)
    · simp [creditedOrder] at status
    · exact ⟨other,o',old,status⟩
  have names : ∀ e ∈ openedRows orderId (creditedOrder cfg customerId paymentIntentId sessionId now order) first now .paid ++
      openedRows orderId (creditedOrder cfg customerId paymentIntentId sessionId now order) second now .promotional,
      (e.lotId = first ∨ e.lotId = second) ∧ e.orderId = orderId := by
    intro e mem
    rcases mem_append.mp mem with mem | mem
    · cases openedMem mem
      exact ⟨.inl rfl,rfl⟩
    · cases openedMem mem
      exact ⟨.inr rfl,rfl⟩
  refine ⟨?_,?_,fun _ _ _ _ free => free⟩
  · intro id _ found dead
    obtain ⟨other,before⟩ := others _ dead
    obtain ⟨lot,old,same⟩ | ⟨entry,mem,_,source,_⟩ := bookedSource credits.booked found
    · exact ⟨before,lot,old,same.order.symm⟩
    · exact absurd (source.symm.trans (names entry mem).2) other
  · intro _ _ found empty _
    refine bookedStill credits.booked found empty (fun e mem same => ?_)
    rcases (names e mem).1 with fresh | fresh
    · rw [← same,fresh,firstFresh] at found
      contradiction
    · rw [← same,fresh,secondFresh] at found
      contradiction

theorem reviewLeaves (t orderId reason) : Leaves t { t with db := reviewOrder t.db orderId reason } := by
  refine ⟨?_,fun _ _ found _ _ => found,fun _ _ _ _ free => free⟩
  rintro id lot' found ⟨o',there,status⟩
  obtain ⟨o,_,_,rfl⟩ | ⟨_,old⟩ := modifyCases there
  · simp at status
  · exact ⟨⟨o',old,status⟩,lot',found,rfl⟩

theorem buriedRefund {cfg} {orderId order now db'} (sound : Sound cfg t.db) (buried : Buried t) (refunds : Refunds t.db orderId order now db')
    (free : ∀ id lot, t.db.lots.get? id = some lot → lot.orderId = orderId → lot.status = .exhausted → unheld t id) :
    Buried { t with db := db' } := by
  have before : ∀ {change : StripeTopupOrder → StripeTopupOrder} {k}, db'.orders = t.db.orders.modify orderId change →
      k ≠ orderId → isRefunded db' k → isRefunded t.db k := by
    rintro change k orders other ⟨o',found,status⟩
    rw [orders,getModifyOther _ other] at found
    exact ⟨o',found,status⟩
  cases refunds with
  | done => exact buried
  | early | short => exact buriedStep buried (reviewLeaves t orderId _)
  | @legacy _ _ lotless =>
    intro id lot found dead
    have other : lot.orderId ≠ orderId := by
      intro mine
      have mem : (id,lot) ∈ orderLots t.db.lots orderId := orderLotsMem.mpr ⟨found,mine⟩
      rw [lotless] at mem
      exact absurd mem not_mem_nil
    exact buried id lot found (before rfl other dead)
  | reversed _ _ _ reverses =>
    intro id lot' found dead
    simp only [reverses.lots,closeGet (refundHeld t.db.lots orderId)] at found
    split at found
    · obtain ⟨_,_,rfl⟩ := map_eq_some_iff.mp found
      exact ⟨rfl,.inl (.inr rfl)⟩
    rename_i left
    by_cases mine : lot'.orderId = orderId
    · have ok := (sound.lots id lot' found).2
      have empty : lot'.remainingQuota = 0 := by
        have nonneg := ok.nonneg
        have nothing : ¬ 0 < lot'.remainingQuota := by
          intro pos
          refine left (List.mem_map.mpr ⟨(id,lot'),refundMem.mpr ⟨found,mine,pos,?_⟩,rfl⟩)
          rw [ok.live.mpr pos]
          decide
        omega
      refine ⟨empty,?_⟩
      cases status : lot'.status with
      | active =>
        have := ok.live.mp status
        omega
      | exhausted => exact .inr (free id lot' found mine status)
      | expired => exact .inl (.inl rfl)
      | reversed => exact .inl (.inr rfl)
    · exact buried id lot' found (before reverses.orders mine dead)

theorem buriedWallet {cfg t} (sound : Sound cfg t.db) (buried : Buried t) (op) (own : restoresFreely op = false)
    (free : NoneInFlight t (.wallet op own)) : Buried (trafficStep cfg t (.wallet op own)) := by
  simp only [trafficStep]
  cases op with
  | purchaseSubscriptionWithBalance userId planId =>
    obtain ⟨_,calm,spends⟩ := @purchaseCalm cfg t.db userId planId
    exact buriedStep buried (calmLeaves calm spends)
  | lot op =>
    have steps := lotSteps sound op
    have kept : LotOp.calm op → LotOp.spends op → Buried { t with db := lotStep cfg t.db op } :=
      fun calm spends => buriedStep buried (calmLeaves (steps.calm calm) (steps.spends spends))
    cases op with
    | creditStripeTopupOrder orderId customerId paymentIntentId sessionId now =>
      simp only [walletStep,lotStep]
      obtain ⟨_,db',done,same⟩ | same := commitPairCases t.db
        (creditStripeTopupOrder cfg t.db orderId customerId paymentIntentId sessionId now)
      · rw [same]
        obtain ⟨order,found,⟨_,rfl,_⟩ | ⟨_,applied⟩⟩ := creditSpec done
        · exact buried
        · exact buriedStep buried (topsLeaves (applySpec (sound.orders orderId order found).2.2 applied))
      · rw [same]
        exact buried
    | reconcileRefund orderId now =>
      simp only [walletStep,lotStep]
      obtain ⟨_,done,same⟩ | same := commitCases t.db (reconcileRefund t.db orderId now)
      · rw [same]
        obtain ⟨_,_,refunds⟩ := refundSpec done
        exact buriedRefund sound buried refunds free
      · rw [same]
        exact buried
    | restoreUserQuotaSplit => simp [restoresFreely] at own
    | _ => exact kept trivial trivial

structure TrafficSafe (cfg : Config) (t t' : Traffic) : Prop where
  sound : Sound cfg t'.db
  buried : Buried t → Buried t'

theorem sessionSafe {cfg t} (sound : Sound cfg t.db) (id) {act}
    (moves : ∀ w w' db', act w = .ok (w',db') → Moves t.db w w' db') : TrafficSafe cfg t (withSession t id act) := by
  unfold withSession
  split
  · exact ⟨sound,fun h => h⟩
  rename_i w found
  cases done : act w with
  | error => exact ⟨sound,fun h => h⟩
  | ok r =>
    obtain ⟨w',db'⟩ := r
    have moved := movesLeave sound (moves w w' db' done)
    refine ⟨soundStep sound moved.facts,fun buried => buriedStep buried (moveLeaves moved ?_ ?_)⟩
    · intro _ free
      exact free id w found
    · intro k v here
      obtain ⟨_,_,_,rfl⟩ | ⟨_,old⟩ := modifyCases here
      · exact .inr rfl
      · exact .inl old

theorem startSafe {cfg t} (sound : Sound cfg t.db) (userId amount now) :
    TrafficSafe cfg t (trafficStep cfg t (.preConsume userId amount now)) := by
  simp only [trafficStep]
  cases done : preConsume t.db (.fresh userId) amount now with
  | error => exact ⟨sound,fun h => h⟩
  | ok =>
    have moved := movesLeave sound (preConsumeMoves done)
    refine ⟨soundStep sound moved.facts,fun buried => buriedStep buried (moveLeaves moved ?_ ?_)⟩
    · intro _ _
      exact not_mem_nil
    · intro k v here
      rw [getAppend] at here
      split at here
      · exact .inr (some.inj here).symm
      · exact .inl here

theorem finishLeaves (t id) : Leaves t { t with sessions := t.sessions.erase id } := by
  refine ⟨fun _ lot' found dead => ⟨dead,lot',found,rfl⟩,fun _ _ found _ _ => found,?_⟩
  intro _ _ _ _ free k w here
  rw [getErase] at here
  split at here
  · contradiction
  · exact free k w here

theorem trafficSafe {cfg} (t op) (sound : Sound cfg t.db) (buried : Buried t)
    (free : NoneInFlight t op) : Buried (trafficStep cfg t op) := by
  cases op with
  | wallet op own => exact buriedWallet sound buried op own free
  | preConsume userId amount now => exact (startSafe sound userId amount now).buried buried
  | settle id => exact (sessionSafe sound id (fun w w' db' => settleMoves)).buried buried
  | refund id => exact (sessionSafe sound id (fun w w' db' => refundMoves)).buried buried
  | finish id => exact buriedStep buried (finishLeaves t id)

theorem trafficSound {cfg} (t op) (sound : Sound cfg t.db) : Sound cfg (trafficStep cfg t op).db := by
  cases op with
  | wallet op => exact soundWallet t.db op sound
  | preConsume userId amount now => exact (startSafe sound userId amount now).sound
  | settle id => exact (sessionSafe sound id (fun w w' db' => settleMoves)).sound
  | refund id => exact (sessionSafe sound id (fun w w' db' => refundMoves)).sound
  | finish => exact sound

/- In every run in which each refund finds no used-up lot of its order held by a request
in flight, the lots of refunded orders stay empty in every state reached. -/
theorem refundedStayDead (cfg : Config) (db : Database) (ops : List TrafficOp) (start : BeforeLots cfg db)
    (along : Along (trafficStep cfg) NoneInFlight ⟨db,.empty⟩ ops) : Always (trafficStep cfg) RefundedDead ⟨db,.empty⟩ ops := by
  have empty : Buried ⟨db,.empty⟩ := by
    intro id lot found
    rw [start.lotless id] at found
    contradiction
  have all := alwaysOfAlong (fun t op => trafficSound t op) (fun t op sound => trafficSafe t op sound)
    (soundBefore start) empty along
  refine alwaysMono (fun t buried => ?_) all
  intro id lot found dead
  have nothing := (buried id lot found dead).1
  omega

def topup : List TrafficOp :=
  [.wallet (.lot (.insertUser "a@example.com")) rfl,
   .wallet (.lot (.createCheckout 1 (.ofPayment "usd" 500 5000000 100 LotLedger.hundred) "np_1" (.created "cs_1" "" "" 0) 10)) rfl,
   .wallet (.lot (.creditStripeTopupOrder "np_1" "" "" "cs_1" 20)) rfl]

def partlyReserved : List TrafficOp :=
  topup ++ [.preConsume 1 60 30,.wallet (.lot (.reconcileRefund "np_1" 40)) rfl,.refund 1 50]

open Database

theorem partlyReservedDead :
    ((run (trafficStep .shipped) ⟨empty,.empty⟩ partlyReserved).db.lots.get? 1).map (·.status) = some .reversed ∧
      Always (trafficStep .shipped) RefundedDead ⟨empty,.empty⟩ partlyReserved := by
  refine ⟨by decide,refundedStayDead .shipped empty partlyReserved (emptyBefore .shipped)
    ⟨trivial,trivial,trivial,trivial,?_,trivial,trivial⟩⟩
  intro id lot found _ used
  have live : ∀ r ∈ (run (trafficStep .shipped) ⟨empty,.empty⟩ (topup ++ [.preConsume 1 60 30])).db.lots.rows,
      r.2.status ≠ .exhausted := by decide
  exact absurd used (live (id,lot) (getMem.mp found))

def fullyReserved : List TrafficOp :=
  topup ++ [.preConsume 1 100 30,.wallet (.lot (.reconcileRefund "np_1" 40)) rfl,.refund 1 50]

theorem fullyReservedRevives : ¬ Always (trafficStep .shipped) RefundedDead ⟨empty,.empty⟩ fullyReserved := by
  intro dead
  have last := alwaysLast dead
  have lot : ((run (trafficStep .shipped) ⟨empty,.empty⟩ fullyReserved).db.lots.get? 1).map
      (fun l => (l.orderId,l.remainingQuota)) = some ("np_1",100) := by decide
  have order : ((run (trafficStep .shipped) ⟨empty,.empty⟩ fullyReserved).db.orders.get? "np_1").map (·.status) =
      some .refunded := by decide
  obtain ⟨l,found,same⟩ := map_eq_some_iff.mp lot
  obtain ⟨o,there,status⟩ := map_eq_some_iff.mp order
  obtain ⟨mine,_⟩ := Prod.mk.inj same
  refine last 1 l found ⟨o,by rw [mine]; exact there,status⟩ ?_
  omega

end NovaPuraRouter.RefundedOrder
