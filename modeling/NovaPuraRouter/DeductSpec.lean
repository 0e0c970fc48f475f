import NovaPuraRouter.LotSpec

/-! Deduction and restore as their callers see them: a deduction takes promotional
credits first and cash for the rest, a restore puts back what its split names.
Both keep every table other than users, lots and ledger. -/
namespace NovaPuraRouter.DeductSpec
open CreditLot LotBook LotSpec List

def walletFrame (db db' : Database) : Prop :=
  db' = { db with users := db'.users, lots := db'.lots, ledger := db'.ledger }

def booksOf (db db' : Database) : Prop :=
  ∃ rows, db'.ledger = db.ledger ++ rows ∧ Booked db.lots rows db'.lots

theorem booksTrans {a b c} (h : booksOf a b) (k : booksOf b c) : booksOf a c := by
  obtain ⟨rows,ledger,booked⟩ := h
  obtain ⟨more,ledger',booked'⟩ := k
  exact ⟨rows ++ more,by rw [ledger',ledger,append_assoc],bookedTrans booked booked'⟩

theorem booksOk {db db'} (h : booksOf db db') (ok : LotsOk db.lots) : LotsOk db'.lots := by
  obtain ⟨_,_,booked⟩ := h
  exact bookedOk booked ok

def spentLots (lots : Lots) (id : Nat) (amount promo : Int) (u : Nat) : BalanceType → Int
  | .promotional => if id = u then min amount (tracked lots id .promotional) else 0
  | .paid => if id = u then min (amount - promo) (tracked lots id .paid) else 0

structure Deducts (db : Database) (id : Nat) (amount now : Int) (user : User) (e : Expiry)
    (split : QuotaWalletSplit) (db' : Database) : Prop where
  expires : Expires db id user now e
  frame : walletFrame db db'
  enough : amount ≤ e.user.quota
  covered : split.promo ≤ e.user.promoQuota
  promo : split.promo = min amount (tracked e.db.lots id .promotional + untrackedPromo e.db.lots id e.user.promoQuota)
  cash : split.cash = amount - split.promo
  expired : split.expired = e.removed
  users : rewritten db.users id
    { e.user with quota := e.user.quota - amount, promoQuota := e.user.promoQuota - split.promo } db'.users
  ledger : db'.ledger = e.db.ledger ++ split.allocations.map (usageRow id now)
  spent : Booked e.db.lots (split.allocations.map (usageRow id now)) db'.lots
  lots : ∀ u b, tracked db'.lots u b = tracked e.db.lots u b - spentLots e.db.lots id amount split.promo u b
  each : ∀ a ∈ split.allocations, 0 < a.amount ∧ (a.lotId ≠ 0 → ∃ lot, e.db.lots.get? a.lotId = some lot ∧
    lot.userId = id ∧ lot.balanceType = a.balanceType ∧ lot.orderId = a.orderId)
  typed : ∃ promos paids, split.allocations = promos ++ paids ∧ amounts promos = split.promo ∧
    amounts paids = split.cash ∧ (∀ a ∈ promos, a.balanceType = .promotional) ∧ ∀ a ∈ paids, a.balanceType = .paid

theorem expiresBooks {db id user now e} (h : Expires db id user now e) : booksOf db e.db := by
  obtain ⟨rows,ledger,booked,_⟩ := h.booked
  exact ⟨rows,ledger,booked⟩

theorem deductsBooks {db id amount now user e split db'} (h : Deducts db id amount now user e split db') :
    booksOf db db' := booksTrans (expiresBooks h.expires) ⟨_,h.ledger,h.spent⟩

theorem expiresOk {db id user now e} (h : Expires db id user now e) (ok : LotsOk db.lots) : LotsOk e.db.lots :=
  booksOk (expiresBooks h) ok

theorem drawsTracked {lots id type now amount lotted draw} (h : Draws lots id type now amount lotted draw) (ok : LotsOk lots) (u b) :
    tracked draw.lots u b = tracked lots u b - if id = u ∧ type = b then lotted else 0 := by
  rw [bookedTracked h.booked ok,h.moved]
  split <;> omega

theorem decreaseSpec {db id amount now split db'} (ok : LotsOk db.lots) (nonneg : 0 ≤ amount)
    (h : decreaseUserQuotaWithLots db id amount now = .ok (split,db')) : ∃ user, db.users.get? id = some user ∧
      Deducts db id amount now user (expireUserPromotionLotsWithTx db id user now) split db' := by
  simp only [decreaseUserQuotaWithLots,bindOk,rowOk,requireOk,pureOk] at h
  obtain ⟨user,found,_,_,_,covered,last⟩ := h
  refine ⟨user,found,?_⟩
  have expires := expireSpec now ok found
  generalize expireUserPromotionLotsWithTx db id user now = e at *
  have eOk := expiresOk expires ok
  obtain ⟨promoDraws,promoTaken⟩ := drawPromoSpec eOk id now e.user.promoQuota nonneg
  have promoLeft := promoDraws.left
  generalize drawPromo e.db.lots id e.user.promoQuota amount = promo at *
  have promoOk := bookedOk promoDraws.booked eOk
  have rest : 0 ≤ promo.remaining := by omega
  obtain ⟨paidDraws,_⟩ := drawPaidSpec promoOk id now rest
  obtain ⟨rfl,rfl⟩ := Prod.mk.inj last
  have paidTracked : tracked promo.lots id .paid = tracked e.db.lots id .paid := by
    rw [drawsTracked promoDraws eOk]
    simp
  refine ⟨expires,?_,by omega,by simp only at covered ⊢; omega,promoTaken,by simp only; omega,rfl,?_,rfl,?_,?_,?_,
    ⟨_,_,rfl,rfl,rfl,fun a mem => (promoDraws.each a mem).2.1,fun a mem => (paidDraws.each a mem).2.1⟩⟩
  · unfold walletFrame
    rw [expires.frame]
    rfl
  · exact rewrittenTrans expires.users (setBalanceUsers (by simp [expires.users id]) _ _)
  · simp only [map_append]
    exact bookedTrans promoDraws.booked paidDraws.booked
  · intro u b
    rw [drawsTracked paidDraws promoOk,drawsTracked promoDraws eOk,paidTracked]
    cases b with
    | promotional =>
      simp only [spentLots,reduceCtorEq,and_false,if_false,and_true]
      omega
    | paid =>
      simp only [spentLots,reduceCtorEq,and_false,if_false,and_true,promoLeft]
      omega
  · intro a mem
    rcases mem_append.mp mem with mem | mem
    · obtain ⟨pos,kind,lot⟩ := promoDraws.each a mem
      exact ⟨pos,fun real => by rw [kind]; exact lot real⟩
    obtain ⟨pos,kind,lot⟩ := paidDraws.each a mem
    refine ⟨pos,fun real => ?_⟩
    obtain ⟨_,found',owner,sort,order⟩ := lot real
    obtain ⟨lot,source,same⟩ | ⟨_,mem,made,_⟩ := bookedSource promoDraws.booked found'
    · exact ⟨lot,source,same.user ▸ owner,by rw [kind,← sort,same.type],by rw [← order,same.order]⟩
    · obtain ⟨y,_,rfl⟩ := mem_map.mp mem
      exact absurd made (by simp [topupEntry,usageRow])

theorem deductCases {db id amount now split db'} (ok : LotsOk db.lots) (h : decreaseUserQuotaWithSplit db id amount now = .ok (split,db')) :
    (amount = 0 ∧ split = .none ∧ db' = db) ∨ (0 < amount ∧ ∃ user, db.users.get? id = some user ∧
        Deducts db id amount now user (expireUserPromotionLotsWithTx db id user now) split db') := by
  simp only [decreaseUserQuotaWithSplit,bindOk,requireOk] at h
  obtain ⟨_,nonneg,h⟩ := h
  split at h
  · rename_i zero
    obtain ⟨rfl,rfl⟩ := Prod.mk.inj (pureOk.mp h)
    exact .inl ⟨zero,rfl,rfl⟩
  · rename_i something
    obtain ⟨user,found,deducts⟩ := decreaseSpec ok nonneg h
    exact .inr ⟨by omega,user,found,deducts⟩

def creditShare (id : Nat) (promo cash : Int) (u : Nat) : BalanceType → Int
  | .promotional => if id = u then promo else 0
  | .paid => if id = u then cash else 0

structure Credits (db : Database) (id : Nat) (promo cash : Int) (rows : List BalanceLedger) (db' : Database) : Prop where
  user : ∃ user, db.users.get? id = some user ∧ user.quota + (promo + cash) ≤ maxQuota ∧ ∃ customer,
    rewritten db.users id { user with
      quota := user.quota + (promo + cash), promoQuota := user.promoQuota + promo, stripeCustomer := customer } db'.users
  promoNonneg : 0 ≤ promo
  cashNonneg : 0 ≤ cash
  ledger : db'.ledger = db.ledger ++ rows
  booked : Booked db.lots rows db'.lots
  share : ∀ u b, trackedSum u b rows ≤ creditShare id promo cash u b

theorem creditsBooks {db id promo cash rows db'} (h : Credits db id promo cash rows db') : booksOf db db' :=
  ⟨rows,h.ledger,h.booked⟩

structure Restores (id : Nat) (now : Int) (lots : Lots) (allocations : List BalanceLotAllocation) (r : Restored) : Prop where
  booked : Booked lots r.rows r.lots
  rows : r.rows = (allocations.filter (fun a => decide (0 < a.amount))).map (restoreRow id now)
  promo : r.promo = rowSum (fun e => decide (e.balanceType = .promotional)) r.rows
  cash : r.cash = rowSum (fun e => decide (e.balanceType = .paid)) r.rows

theorem restoreLotSpec {lots id now a lots'} (h : restoreLot lots id now a = .ok lots') :
    ∃ lot, lots.get? a.lotId = some lot ∧ lot.userId = id ∧ lot.balanceType = a.balanceType ∧
      lot.remainingQuota ≤ lot.originalQuota - a.amount ∧ lot.status ≠ .expired ∧ lot.status ≠ .reversed ∧
      ¬ (lot.balanceType = .promotional ∧ 0 < lot.expiresAt ∧ lot.expiresAt ≤ now) ∧
      lots' = lots.modify a.lotId (setLot (lot.remainingQuota + a.amount) .active) := by
  simp only [restoreLot,bindOk,rowOk,requireOk,pureOk] at h
  obtain ⟨lot,found,_,⟨owner,type,room⟩,_,unexpired,_,⟨expired,reversed⟩,last⟩ := h
  exact ⟨lot,found,owner,type,room,expired,reversed,unexpired,last.symm⟩

variable {id now lots allocations r}

theorem restoreBooked (h : restoreAllocations id now lots allocations = .ok r) :
    Restores id now lots allocations r := by
  induction allocations generalizing lots r with
  | nil =>
    cases h
    exact ⟨.nil,rfl,rfl,rfl⟩
  | cons a _ ih =>
    by_cases skip : a.amount ≤ 0
    · simp only [restoreAllocations,skip,if_true] at h
      have tail := ih h
      refine ⟨tail.booked,?_,tail.promo,tail.cash⟩
      rw [tail.rows,filter_cons_of_neg (by simpa using skip)]
    · have pos : 0 < a.amount := by omega
      simp only [restoreAllocations,skip,if_false,bindOk,pureOk] at h
      obtain ⟨_,moved,_,done,last⟩ := h
      have more := ih done
      cases last
      refine ⟨?_,?_,?_,?_⟩
      · unfold restoreTarget at moved
        split at moved
        · rename_i free
          cases pureOk.mp moved
          exact .note free more.booked
        · obtain ⟨_,found,owner,type,room,expired,reversed,_,rfl⟩ := restoreLotSpec moved
          exact .move found (.give ⟨expired,reversed⟩ pos room) owner.symm type.symm more.booked
      · rw [filter_cons_of_pos (by simpa using pos),map_cons,← more.rows]
      · simp only [rowSumCons,more.promo]
        cases kind : a.balanceType <;> simp [restoreRow,kind]
      · simp only [rowSumCons,more.cash]
        cases kind : a.balanceType <;> simp [restoreRow,kind]

theorem rowSumNonneg {p rows} (nonneg : ∀ e ∈ rows, 0 ≤ e.amountQuota) : 0 ≤ rowSum p rows := by
  refine sum_nonneg ?_
  intro x mem
  obtain ⟨e,he,rfl⟩ := mem_map.mp mem
  have := nonneg e he
  split <;> omega

theorem rowSumMono {p q rows} (nonneg : ∀ e ∈ rows, 0 ≤ e.amountQuota)
    (implies : ∀ e ∈ rows, p e = true → q e = true) : rowSum p rows ≤ rowSum q rows := by
  induction rows with
  | nil => simp
  | cons e _ ih =>
    have tail := ih (fun x mem => nonneg x (mem_cons_of_mem e mem)) (fun x mem => implies x (mem_cons_of_mem e mem))
    have here := nonneg e mem_cons_self
    have step := implies e mem_cons_self
    rw [rowSumCons,rowSumCons]
    cases hp : p e with
    | false => simp only [Bool.false_eq_true,if_false]; split <;> omega
    | true => simp only [step hp,if_true]; omega

theorem restoresRow (h : Restores id now lots allocations r) {e} (mem : e ∈ r.rows) :
    0 < e.amountQuota ∧ e.userId = id := by
  rw [h.rows] at mem
  obtain ⟨a,ha,rfl⟩ := mem_map.mp mem
  exact ⟨by simpa [restoreRow] using (mem_filter.mp ha).2,rfl⟩

theorem restoresShare (h : Restores id now lots allocations r) (u b) :
    trackedSum u b r.rows ≤ creditShare id r.promo r.cash u b := by
  have nonneg : ∀ e ∈ r.rows, 0 ≤ e.amountQuota := fun e mem => le_of_lt (restoresRow h mem).1
  by_cases mine : id = u
  · cases b with
    | promotional =>
      simp only [creditShare,mine,if_true,h.promo]
      refine rowSumMono nonneg ?_
      intro e mem hit
      simp only [decide_eq_true_eq] at hit ⊢
      exact hit.2.2
    | paid =>
      simp only [creditShare,mine,if_true,h.cash]
      refine rowSumMono nonneg ?_
      intro e mem hit
      simp only [decide_eq_true_eq] at hit ⊢
      exact hit.2.2
  · have nothing : trackedSum u b r.rows ≤ rowSum (fun _ => false) r.rows := by
      refine rowSumMono nonneg ?_
      intro e mem hit
      simp only [decide_eq_true_eq] at hit
      exact absurd ((restoresRow h mem).2.symm.trans hit.2.1) mine
    have zero : rowSum (fun _ => false) r.rows = 0 := by simp [rowSum]
    have nothing : creditShare id r.promo r.cash u b = 0 := by cases b <;> simp [creditShare,mine]
    omega

theorem restoreSpec {db id split now db'} (h : restoreUserQuotaSplit db id split now = .ok db') :
    db' = db ∨ ∃ promo cash rows, walletFrame db db' ∧ Credits db id promo cash rows db' ∧
      ∀ e ∈ rows, ∃ a ∈ split.allocations, 0 < a.amount ∧ e = restoreRow id now a := by
  simp only [restoreUserQuotaSplit,bindOk,requireOk] at h
  obtain ⟨_,⟨promoNonneg,cashNonneg⟩,h⟩ := h
  split at h
  · exact .inl (pureOk.mp h).symm
  simp only [restoreUserQuotaSplitWithLots,bindOk,rowOk] at h
  obtain ⟨user,found,h⟩ := h
  split at h
  · simp only [restoreLegacyQuotaSplitWithTx] at h
    split at h
    · exact .inl (pureOk.mp h).symm
    simp only [bindOk,requireOk,pureOk] at h
    obtain ⟨_,room,rfl⟩ := h
    refine .inr ⟨split.promo,split.cash,[],rfl,⟨⟨user,found,by omega,user.stripeCustomer,setBalanceUsers found _ _⟩,
      promoNonneg,cashNonneg,by simp [setBalance],.nil,?_⟩,by simp⟩
    intro u b
    cases b <;> simp only [trackedSum,rowSumNil,creditShare] <;> split <;> omega
  · simp only [bindOk,requireOk,pureOk] at h
    obtain ⟨r,restored,_,_,rfl⟩ := h
    have restores := restoreBooked restored
    have nonneg : ∀ e ∈ r.rows, 0 ≤ e.amountQuota := fun e mem => le_of_lt (restoresRow restores mem).1
    refine .inr ⟨r.promo,r.cash,r.rows,rfl,⟨⟨user,found,by omega,user.stripeCustomer,setBalanceUsers found _ _⟩,?_,?_,rfl,
      restores.booked,restoresShare restores⟩,?_⟩
    · rw [restores.promo]
      exact rowSumNonneg nonneg
    · rw [restores.cash]
      exact rowSumNonneg nonneg
    · intro e mem
      rw [restores.rows] at mem
      obtain ⟨a,here,rfl⟩ := mem_map.mp mem
      obtain ⟨here,pos⟩ := mem_filter.mp here
      exact ⟨a,here,by simpa using pos,rfl⟩

/- The wallet has the amount, and the balance of promotional credit covers its lots, both
after the lots that are due have expired. -/
def WalletCovers (db : Database) (id : Nat) (amount now : Int) : Prop := match db.users.get? id with
  | none => False
  | some user =>
    let e := expireUserPromotionLotsWithTx db id user now
    amount ≤ e.user.quota ∧ tracked e.db.lots id .promotional ≤ e.user.promoQuota ∧ tracked e.db.lots id .promotional ≤ maxQuota

instance (db id amount now) : Decidable (WalletCovers db id amount now) := by unfold WalletCovers; split <;> infer_instance

theorem coveredDeduct {db id amount now} (ok : LotsOk db.lots) (pos : 0 < amount) (covers : WalletCovers db id amount now) :
    ∃ taken, decreaseUserQuotaWithSplit db id amount now = .ok taken := by
  unfold WalletCovers at covers
  split at covers
  · exact covers.elim
  rename_i user found
  obtain ⟨enough,covered,fits⟩ := covers
  have later := expiresOk (expireSpec now ok found) ok
  obtain ⟨_,taken⟩ := drawPromoSpec later id now (expireUserPromotionLotsWithTx db id user now).user.promoQuota (le_of_lt pos)
  rw [untrackedExact later fits covered] at taken
  simp only [decreaseUserQuotaWithSplit,bindOk,requireOk,if_neg (by omega : ¬ amount = 0),decreaseUserQuotaWithLots,rowOk,pureOk]
  exact ⟨_,(),by omega,user,found,(),by omega,(),by omega,rfl⟩

end NovaPuraRouter.DeductSpec
